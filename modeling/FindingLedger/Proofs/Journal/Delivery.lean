/-
Whom a journal hands its records to, after any history of calls that set it up.

A call that succeeds leaves nothing of the calls before, whether these have failed or not: the
sinks, the rank and whether records are passed on are those that it asks for.  As long as there
is no further call, each record of a component is handed to the console once where it matters
enough, to the log file once where there is one, and to nothing else.
-/
import FindingLedger.Proofs.Journal.Upkeep

namespace FindingLedger

/-- A call that sets the journal up: with a word for the threshold and the name of a log file,
or with settings. -/
inductive JournalCall
  | words (level : String) (file : Option String) (json : Bool) (maxFileSize backups : Int)
  | settings (s : JournalSettings)

namespace JournalCall

def setup : JournalCall → JournalSetup
  | .words level file json maxFileSize backups =>
    ⟨Journal.rankOf level, file.bind Journal.fileNamed?, json, maxFileSize, backups⟩
  | .settings s => Journal.setupOf s

/-- The threshold that a call names, in whatever case. -/
def threshold? : JournalCall → Option Threshold
  | .words level _ _ _ _ => Threshold.named? level
  | .settings s => some s.level

/-- Whether a call gives the name of a log file that is not empty. -/
def givesLog : JournalCall → Bool
  | .words _ file _ _ _ => file.any fun name => !name.isEmpty
  | .settings s => s.file.isSome

variable {call : JournalCall}

theorem rank_setup {threshold : Threshold} (hnamed : call.threshold? = some threshold) :
    call.setup.rank = Journal.thresholdRank threshold := by
  cases call with
  | words level file json maxFileSize backups =>
    change Journal.rankOf level = _
    rw [Journal.rankOf, show Threshold.named? level = some threshold from hnamed]
  | settings s =>
    cases hnamed
    rfl

theorem isSome_file_setup (call : JournalCall) : call.setup.file.isSome = call.givesLog := by
  cases call with
  | words level file json maxFileSize backups =>
    cases file with
    | none => rfl
    | some name =>
      change (Journal.fileNamed? name).isSome = !name.isEmpty
      rw [Journal.fileNamed?]
      cases name.isEmpty <;> rfl
  | settings s => rfl

end JournalCall

namespace JournalSetup

def console (s : JournalSetup) : Sink := .console s.rank s.json

/-- The log file that a setup asks for, opened as some file. -/
def log? (s : JournalSetup) (cwd : Location) (id : Nat) : Option JournalFile :=
  s.file.map fun p =>
    ⟨Journal.absolute cwd p, id, s.json, s.maxFileSize * Journal.sizeUnit, s.backups⟩

def sinks (s : JournalSetup) (cwd : Location) (id : Nat) : List Sink :=
  s.console :: (s.log? cwd id).toList.map .file

/-- The journal that a setup asks for: with a log file it takes all records. -/
def journal (s : JournalSetup) (cwd : Location) (id : Nat) : Journal :=
  ⟨s.sinks cwd id, if s.file.isSome then Journal.lowestRank else s.rank, false⟩

end JournalSetup

/-- Whether a record that comes to a sink is written there. -/
def Sink.accepts (r : Record) : Sink → Bool
  | .console rank _ => rank ≤ r.rank
  | .file _ => true

namespace Journal

def handed (j : Journal) (r : Record) : List Sink :=
  if j.takes r then j.sinks.filter (Sink.accepts r) else []

/-- What happens around a journal: a call, a record that comes to it, or a change of the files that
others make. -/
inductive Event
  | call (cwd : Location) (c : JournalCall)
  | record (now : Moment) (r : Record)
  | files (t : FileTree)

def Event.isCall : Event → Bool
  | .call _ _ => true
  | _ => false

/-- The file system and the journal after an event.  A call may fail. -/
def after (x : FileTree × Journal) : Event → FileTree × Journal
  | .call cwd c =>
    let (t, j, _) := x.2.setUp x.1 cwd c.setup
    (t, j)
  | .record now r =>
    let (t, j, _) := x.2.take now r x.1
    (t, j)
  | .files t => (t, x.2)

/-- The file system and the journal after a history. -/
def afterAll (x : FileTree × Journal) (events : List Event) : FileTree × Journal :=
  events.foldl after x

variable {t t' : FileTree} {cwd : Location} {setup : JournalSetup}

section Handed

variable {j : Journal} {r : Record}

/-- A sink that does not accept a record does nothing with it. -/
theorem write_of_not_accepts (now : Moment) (t : FileTree) {s : Sink}
    (hnot : s.accepts r = false) : write now r t s = (t, s, []) := by
  cases s with
  | console rank json =>
    have hlow : r.rank < rank := by simpa [Sink.accepts] using hnot
    rw [write, if_pos hlow]
  | file f => cases hnot

/-- Only the sinks that accept a record matter. -/
theorem writeAll_filter (now : Moment) (t : FileTree) (sinks : List Sink) :
    (writeAll now r t (sinks.filter (Sink.accepts r))).1 = (writeAll now r t sinks).1 ∧
      (writeAll now r t (sinks.filter (Sink.accepts r))).2.2 = (writeAll now r t sinks).2.2 := by
  induction sinks generalizing t with
  | nil => exact ⟨rfl, rfl⟩
  | cons s rest ih =>
    cases haccepts : s.accepts r with
    | false =>
      rw [List.filter_cons_of_neg (by simp [haccepts]), writeAll,
        write_of_not_accepts now t haccepts]
      exact ih t
    | true =>
      obtain ⟨htree, hshown⟩ := ih (write now r t s).1
      rw [List.filter_cons_of_pos haccepts, writeAll, writeAll]
      exact ⟨htree, congrArg ((write now r t s).2.2 ++ ·) hshown⟩

/-- All that a journal that was set up does with a record is to hand it to sinks. -/
theorem take_eq_writeAll_handed (now : Moment) (t : FileTree) (hset : j.sinks ≠ []) :
    (j.take now r t).1 = (writeAll now r t (j.handed r)).1 ∧
      (j.take now r t).2.2 = (writeAll now r t (j.handed r)).2.2 := by
  rw [take, handed]
  cases htakes : j.takes r with
  | false => exact ⟨rfl, rfl⟩
  | true =>
    have hnonempty : j.sinks.isEmpty = false := by simpa using hset
    obtain ⟨htree, hshown⟩ := writeAll_filter (r := r) now t j.sinks
    simp only [Bool.not_true, Bool.false_eq_true, if_false, hnonempty, if_true]
    exact ⟨htree.symm, hshown.symm⟩

end Handed

section Steps

theorem log?_of_openFile {p : Path} {f : JournalFile} (hfile : setup.file = some p)
    (hopen : openFile t cwd setup p = .ok (t', f)) : setup.log? cwd f.id = some f := by
  rw [JournalSetup.log?, hfile]
  rw [openFile] at hopen
  rcases hdirs : t.makeDirectories cwd p.parent with ⟨t₁, fault?⟩
  rw [hdirs] at hopen
  cases fault? with
  | some e => cases hopen
  | none =>
    dsimp only at hopen
    rcases hfound : t₁.openFile cwd (absolute cwd p) with fault | ⟨t₂, id⟩ <;>
      rw [hfound] at hopen <;> cases hopen
    rfl

/-- A call that succeeds makes the journal that it asks for. -/
theorem exists_eq_journal {j : Journal} (hok : (j.setUp t cwd setup).2.2 = none) :
    ∃ id, (j.setUp t cwd setup).2.1 = setup.journal cwd id := by
  rw [setUp] at hok ⊢
  cases hfile : setup.file with
  | none =>
    refine ⟨0, ?_⟩
    rw [JournalSetup.journal, JournalSetup.sinks, JournalSetup.log?, hfile]
    rfl
  | some p =>
    rw [hfile] at hok
    dsimp only at hok ⊢
    rcases hopen : openFile t cwd setup p with ⟨t₁, e⟩ | ⟨t₁, f⟩ <;> rw [hopen] at hok
    · cases hok
    · refine ⟨f.id, ?_⟩
      rw [JournalSetup.journal, JournalSetup.sinks, log?_of_openFile hfile hopen, hfile]
      rfl

/-- Writing a line leaves all of a log file but which file it is. -/
theorem exists_append_eq (t : FileTree) (f : JournalFile) (line : String) :
    ∃ id, (append t f line).2 = { f with id } := by
  have happend := append_cases (P := fun _ => True) (t := t) (fun _ _ _ _ _ _ => trivial)
    (fun _ _ _ _ _ _ => trivial) (f := f) rfl rfl trivial line
  rcases happend with ⟨t', -, heq⟩ | heq | ⟨t₁, t', id, -, -, heq⟩
  · exact ⟨f.id, by rw [heq]⟩
  · exact ⟨f.id, by rw [heq]⟩
  · exact ⟨id, by rw [heq]⟩

/-- The sinks that were asked for stay so while they write. -/
theorem exists_writeAll_sinks (setup : JournalSetup) (cwd : Location) (now : Moment) (r : Record)
    (t : FileTree) (id : Nat) :
    ∃ id', (writeAll now r t (setup.sinks cwd id)).2.1 = setup.sinks cwd id' := by
  cases hfile : setup.file with
  | none =>
    refine ⟨id, ?_⟩
    rw [JournalSetup.sinks, JournalSetup.log?, hfile]
    rfl
  | some p =>
    have hsinks : ∀ id, setup.sinks cwd id = [setup.console, .file ⟨absolute cwd p, id, setup.json,
        setup.maxFileSize * sizeUnit, setup.backups⟩] := by
      intro id
      rw [JournalSetup.sinks, JournalSetup.log?, hfile]
      rfl
    obtain ⟨id', hid⟩ := exists_append_eq t
      ⟨absolute cwd p, id, setup.json, setup.maxFileSize * sizeUnit, setup.backups⟩
      ((if setup.json then r.jsonLine now else r.fileLine now) ++ "\n")
    refine ⟨id', ?_⟩
    rw [hsinks, hsinks]
    change [setup.console, Sink.file (append t _ _).2] = _
    rw [hid]

theorem exists_take_journal (setup : JournalSetup) (cwd : Location) (now : Moment) (r : Record)
    (t : FileTree) (id : Nat) :
    ∃ id', ((setup.journal cwd id).take now r t).2.1 = setup.journal cwd id' := by
  rw [take]
  split
  · exact ⟨id, rfl⟩
  split
  · exact ⟨id, rfl⟩
  · obtain ⟨id', hsinks⟩ := exists_writeAll_sinks setup cwd now r t id
    exact ⟨id', congrArg (fun sinks => Journal.mk sinks _ _) hsinks⟩

/-- Without a call, an event leaves the journal that was asked for. -/
theorem exists_after_journal (setup : JournalSetup) (cwd : Location) (t : FileTree) (id : Nat)
    {e : Event} (hcall : e.isCall = false) :
    ∃ id', (after (t, setup.journal cwd id) e).2 = setup.journal cwd id' := by
  cases e with
  | call cwd c => cases hcall
  | record now r => exact exists_take_journal setup cwd now r t id
  | files t' => exact ⟨id, rfl⟩

/-- So do any number of events. -/
theorem exists_afterAll_journal (setup : JournalSetup) (cwd : Location) {later : List Event}
    (hlater : ∀ e ∈ later, e.isCall = false) (t : FileTree) (id : Nat) :
    ∃ id', (afterAll (t, setup.journal cwd id) later).2 = setup.journal cwd id' := by
  induction later generalizing t id with
  | nil => exact ⟨id, rfl⟩
  | cons e rest ih =>
    obtain ⟨hfirst, hrest⟩ := List.forall_mem_cons.1 hlater
    obtain ⟨id₁, hid⟩ := exists_after_journal setup cwd t id hfirst
    obtain ⟨id', hlast⟩ := ih hrest (after (t, setup.journal cwd id) e).1 id₁
    refine ⟨id', ?_⟩
    rw [← hlast, ← hid]
    rfl

end Steps

section Delivery

variable {r : Record}

theorem lowestRank_le_thresholdRank (threshold : Threshold) :
    lowestRank ≤ thresholdRank threshold := by
  cases threshold <;> decide

theorem lowestRank_le_rank (level : Level) : lowestRank ≤ level.rank := by
  cases level <;> decide

/-- Of the sinks that were asked for, the console accepts what matters enough. -/
theorem filter_sinks (r : Record) (setup : JournalSetup) (cwd : Location) (id : Nat) :
    (setup.sinks cwd id).filter (Sink.accepts r) =
      (if setup.rank ≤ r.rank then [setup.console] else []) ++
        (setup.log? cwd id).toList.map .file := by
  have hlogs : ((setup.log? cwd id).toList.map Sink.file).filter (Sink.accepts r) =
      (setup.log? cwd id).toList.map .file := by
    cases setup.log? cwd id <;> rfl
  have hconsole : setup.console.accepts r = decide (setup.rank ≤ r.rank) := rfl
  rw [JournalSetup.sinks, List.filter_cons, hconsole, hlogs]
  by_cases hle : setup.rank ≤ r.rank
  · rw [if_pos hle, if_pos (decide_eq_true hle)]
    rfl
  · rw [if_neg hle, if_neg (by simpa using hle)]
    rfl

/-- The journal that was asked for takes all that its sinks accept. -/
theorem handed_journal (hsetup : lowestRank ≤ setup.rank) (hr : lowestRank ≤ r.rank) (id : Nat) :
    (setup.journal cwd id).handed r =
      (if setup.rank ≤ r.rank then [setup.console] else []) ++
        (setup.log? cwd id).toList.map .file := by
  rw [handed]
  cases hfile : setup.file with
  | some p =>
    -- With a log file the rank of the journal is the lowest, and only the console refuses.
    have htakes : (setup.journal cwd id).takes r = true := by
      rw [takes, effectiveRank, JournalSetup.journal, hfile]
      exact decide_eq_true hr
    rw [htakes]
    exact filter_sinks r setup cwd id
  | none =>
    -- Without one the journal refuses what the console would.
    have htakes : (setup.journal cwd id).takes r = decide (setup.rank ≤ r.rank) := by
      have hpositive : 0 < lowestRank := by decide
      have hzero : (setup.rank == 0) = false := by
        rw [beq_eq_false_iff_ne]
        omega
      rw [takes, effectiveRank, JournalSetup.journal, hfile]
      simp only [Option.isSome_none, Bool.false_eq_true, if_false, hzero]
    rw [htakes]
    by_cases hle : setup.rank ≤ r.rank
    · rw [if_pos (decide_eq_true hle)]
      exact filter_sinks r setup cwd id
    · rw [if_neg (by simpa using hle), if_neg hle, JournalSetup.log?, hfile]
      rfl

/-- What a call makes of the journal, and of all records that come to it. -/
structure Governs (call : JournalCall) (threshold : Threshold) (cwd : Location) (id : Nat)
    (x : FileTree × Journal) : Prop where
  /-- The sinks, the rank and whether records are passed on are what the call asks for. -/
  made : x.2 = call.setup.journal cwd id
  /-- There is a log file where the call gives the name of one. -/
  isSome_log : (call.setup.log? cwd id).isSome = call.givesLog
  /-- A record is handed to the console where it matters enough, and to the log file. -/
  handed : ∀ (c : Component) (n : Note) (exception : Option String),
    x.2.handed (c.record n exception) =
      (if thresholdRank threshold ≤ n.level.rank then [call.setup.console] else []) ++
        (call.setup.log? cwd id).toList.map .file
  /-- Nothing else is written or shown. -/
  taken : ∀ (now : Moment) (r : Record),
    (x.2.take now r x.1).1 = (writeAll now r x.1 (x.2.handed r)).1 ∧
      (x.2.take now r x.1).2.2 = (writeAll now r x.1 (x.2.handed r)).2.2

theorem governs_journal {call : JournalCall} {threshold : Threshold}
    (hnamed : call.threshold? = some threshold) (cwd : Location) (t : FileTree) (id : Nat) :
    Governs call threshold cwd id (t, call.setup.journal cwd id) where
  made := rfl
  isSome_log := by rw [JournalSetup.log?, Option.isSome_map, call.isSome_file_setup]
  handed c n exception := by
    have hrank := call.rank_setup hnamed
    rw [handed_journal (hrank ▸ lowestRank_le_thresholdRank threshold)
      (lowestRank_le_rank n.level), hrank]
    rfl
  taken now r := take_eq_writeAll_handed now t (List.cons_ne_nil _ _)

theorem afterAll_append (x : FileTree × Journal) (before later : List Event) :
    afterAll x (before ++ later) = afterAll (afterAll x before) later := List.foldl_append

/-- Whatever has happened before, a call with the name of a threshold that succeeds governs the
journal until the next call. -/
theorem exists_governs (start : FileTree × Journal) (before : List Event) (cwd : Location)
    {call : JournalCall} {threshold : Threshold} (hnamed : call.threshold? = some threshold)
    (hok : ((afterAll start before).2.setUp (afterAll start before).1 cwd call.setup).2.2 = none)
    {later : List Event} (hlater : ∀ e ∈ later, e.isCall = false) :
    ∃ id, Governs call threshold cwd id (afterAll start (before ++ .call cwd call :: later)) := by
  obtain ⟨id, hmade⟩ := exists_eq_journal hok
  obtain ⟨id', hstays⟩ := exists_afterAll_journal call.setup cwd hlater
    (after (afterAll start before) (.call cwd call)).1 id
  have hlast : (afterAll start (before ++ .call cwd call :: later)).2 =
      call.setup.journal cwd id' := by
    rw [← hstays, ← hmade, afterAll_append]
    rfl
  have hgoverns := governs_journal hnamed cwd
    (afterAll start (before ++ .call cwd call :: later)).1 id'
  rw [← hlast] at hgoverns
  exact ⟨id', hgoverns⟩

/-- A directory where a log file is asked for. -/
def directoryOnly : FileTree where
  nodes := [(["logs"], .directory)]
  contents := []
  next := 0

/-- A call that fails, and records under what it leaves. -/
def failedCall : List Event :=
  [.call [] (.words "debug" (some "logs") false 1 1),
   .record ⟨⟨2024, 1, 1⟩, 0, 0, 0, 0, none⟩ (Component.record ⟨"loader", some "baseline"⟩
     ⟨.error, "lost", []⟩ none)]

/-- After a call that fails, the next one that succeeds governs the journal. -/
theorem exists_governs_failedCall :
    ((unset.setUp directoryOnly [] (JournalCall.words "debug" (some "logs") false 1 1).setup).2.2
      ).isSome = true ∧
    ∃ id, Governs (.words "WaRnInG" (some "logs/app.log") true 1 3) .warning [] id
      (afterAll (directoryOnly, unset)
        (failedCall ++ .call [] (.words "WaRnInG" (some "logs/app.log") true 1 3) ::
          failedCall.drop 1)) :=
  ⟨by decide +kernel,
    exists_governs _ _ _ (by decide +kernel) (by decide +kernel) (by decide +kernel)⟩

end Delivery

end Journal

end FindingLedger
