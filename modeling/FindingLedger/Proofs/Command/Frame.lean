/-
What a run leaves as it was.

Main statement: whatever a run other than one that writes settings does to a file system, it tends
the log files that are asked for, and it removes the name of the baseline.  The latter happens
exactly when the baseline is loaded, enabled and there, is no baseline document and can be removed,
so never in a run that could not be followed, and never where the baseline is turned off.
-/
import FindingLedger.Proofs.Baseline.Removal
import FindingLedger.Proofs.Command.Flags
import FindingLedger.Proofs.Command.Refusal
import FindingLedger.Proofs.Journal.Tending

namespace FindingLedger

namespace Command

open Journal (Tended TendsTo AreLogs exists_setUp exists_takeAll)

variable {s : Surroundings} {t : FileTree} {args : List String} {n : Name}

/-- The file system after the journal was set up from the options of the program. -/
def openedBy (s : Surroundings) (t : FileTree) (program : Line) : FileTree :=
  (Journal.unset.setUp t s.cwd (setupOf program)).1

/-- How a run may set the journal up: from the options of the program, and from the settings that
its command loads. -/
inductive Asks (s : Surroundings) (t : FileTree) (args : List String) : JournalSetup → Prop
  | byOptions {program : Line} (reads : readProgram args = .ok program) :
      Asks s t args (setupOf program)
  | bySettings {n : Name} {program line : Line} {settings : Settings}
      (calls : calledBy? args = some (n, program, line))
      (loads : n.settings s (openedBy s t program) program line = .ok settings) :
      Asks s t args (Journal.setupOf settings.journal)

/-- The baseline is turned off, on the command line or by the settings that are loaded. -/
def TurnsOff (s : Surroundings) (t : FileTree) (args : List String) : Prop :=
  ∃ n program line, calledBy? args = some (n, program, line) ∧
    (line.has .noBaseline = true ∨
      ∃ settings, n.settings s (openedBy s t program) program line = .ok settings ∧
        settings.baseline.enabled = false)

namespace Call

/-- A call gets as far as loading the baseline: showing it does so at once, a comparison when it
has read the results. -/
def GetsToLoad : {n : Name} → Call n s t args → Prop
  | .show_, c => c.Answers ∧ c.IsVisible
  | .diff, c => c.Answers ∧ c.IsVisible ∧ ∃ found, c.results = .ok found
  | .init, _ => False
  | .version, _ => False

/-- A call removes the name of the baseline at a location. -/
structure Removes (c : Call n s t args) (l : Location) : Prop where
  loads : c.GetsToLoad
  isEnabled : c.settings.baseline.enabled = true
  discards : Baseline.Discards c.ready s.cwd c.settings.baseline.path l

end Call

/-- A run removes the name of the baseline at a location. -/
def Removes (s : Surroundings) (t : FileTree) (args : List String) (l : Location) : Prop :=
  ∃ n, ∃ c : Call n s t args, c.Removes l

/-- Comparing leaves the file system alone. -/
theorem tree_showDiff (p : Progress) (isQuiet : Bool) (b : Baseline) (found : Results) :
    (showDiff p isQuiet b found).1.tree = p.tree := by
  rw [showDiff]
  rcases b.diff found.files with fault | d
  · rfl
  dsimp only
  rcases found.firstStray? with _ | ⟨name, f⟩
  · dsimp only
    rcases findingLines (Findings.flatten (byName d.fresh)) with ⟨lines, _ | fault⟩
    · cases isQuiet <;> rfl
    · rfl
  · rfl

theorem showDiff_ne_misuse (p : Progress) (isQuiet : Bool) (b : Baseline) (found : Results) :
    (showDiff p isQuiet b found).2 ≠ .exit misuse := by
  rw [showDiff]
  rcases b.diff found.files with fault | d
  · intro hmisuse
    cases hmisuse
  dsimp only
  rcases found.firstStray? with _ | ⟨name, f⟩
  · dsimp only
    rcases findingLines (Findings.flatten (byName d.fresh)) with ⟨lines, _ | fault⟩
    · cases d.hasFresh
      all_goals
        intro hmisuse
        cases hmisuse
    · intro hmisuse
      cases hmisuse
  · intro hmisuse
    cases hmisuse

namespace Call

theorem opened_eq (c : Call n s t args) : openedBy s t c.program = c.opened := by
  rw [openedBy, c.opens .unset]

/-- Until the baseline is loaded, a call has done nothing but to tend the log files that are asked
for. -/
theorem exists_ready (c : Call n s t args) :
    ∃ y, TendsTo s.cwd (Asks s t args) (.start t) y ∧ y.tree = c.ready ∧
      AreLogs s.cwd (Asks s t args) y c.journal.sinks := by
  have hearly : Asks s t args (setupOf c.program) := .byOptions c.reads_program
  have hlate : Asks s t args (Journal.setupOf c.settings.journal) := by
    refine .bySettings c.calledBy?_eq ?_
    rw [c.opened_eq]
    exact c.loads
  obtain ⟨x, hopens, hx, _⟩ := exists_setUp (.start t) s.cwd .unset hearly
  obtain ⟨y, hsets, hy, hlogs⟩ := exists_setUp x s.cwd .unset hlate
  have hopened : x.tree = c.opened := hx.trans (by rw [Tended.start, c.opens .unset])
  rw [hopened, c.sets_up .unset] at hy hlogs
  exact ⟨y, hopens.trans hsets, hy, hlogs⟩

theorem exists_loaded (c : Call n s t args) (hvisible : c.IsVisible) :
    ∃ loaded, Baseline.loadConfigured? c.ready s.cwd c.settings.baseline = some loaded ∧
      ((∃ l, c.settings.baseline.enabled = true ∧
          Baseline.Discards c.ready s.cwd c.settings.baseline.path l ∧
          loaded.tree = c.ready.erase l) ∨
        (c.settings.baseline.enabled = true →
          ∀ l, ¬ Baseline.Discards c.ready s.cwd c.settings.baseline.path l) ∧
        loaded.tree = c.ready) := by
  rw [Baseline.loadConfigured?]
  cases henabled : c.settings.baseline.enabled with
  | false => exact ⟨_, rfl, Or.inr ⟨fun h => absurd h Bool.false_ne_true, rfl⟩⟩
  | true =>
    rw [if_pos rfl, Baseline.load?_of_visible _ _ (hvisible henabled)]
    refine ⟨_, rfl, ?_⟩
    have hloads := Baseline.loadAt_discards c.ready s.cwd c.settings.baseline.path.text
    rw [Settings.ofString_path_of_load c.loads] at hloads
    rcases hloads with ⟨l, hdiscards, htree⟩ | ⟨hnone, htree⟩
    · exact Or.inl ⟨l, rfl, hdiscards, htree⟩
    · exact Or.inr ⟨fun _ => hnone, htree⟩

/-- What a run does to the file system once its call has set the journal up: the journal takes
records, after the name of the baseline is removed, if it is.  A run that removes it can be
followed. -/
def Ends (c : Call n s t args) (outcome : Outcome) : Prop :=
  ∃ rs, (∃ l, c.Removes l ∧ outcome.2 ≠ .exit misuse ∧
      outcome.1.tree = (c.journal.takeAll s.now rs (c.ready.erase l)).1) ∨
    (∀ l, ¬ c.Removes l) ∧ outcome.1.tree = (c.journal.takeAll s.now rs c.ready).1

/-- A run that does not get as far as loading the baseline leaves what it has. -/
theorem ends_of_not_getsToLoad {c : Call n s t args} {outcome : Outcome}
    (hnot : ¬ c.GetsToLoad) (htree : outcome.1.tree = c.ready) : c.Ends outcome :=
  ⟨[], Or.inr ⟨fun _ hremoves => hnot hremoves.loads, htree⟩⟩

/-- A run that does loads the baseline and goes on with what was loaded. -/
theorem ends_of_getsToLoad {c : Call n s t args} (hloads : c.GetsToLoad)
    (hvisible : c.IsVisible) {p : Progress} (hp : p.tree = c.ready) (hj : p.journal = c.journal)
    {go : Progress → Baseline → Outcome} (htree : ∀ p b, (go p b).1.tree = p.tree)
    (hending : ∀ p b, (go p b).2 ≠ .exit misuse) :
    c.Ends (match loadBaseline s p c.settings with
      | .error outcome => outcome
      | .ok (p, b) => go p b) := by
  obtain ⟨loaded, hloaded, hcases⟩ := c.exists_loaded hvisible
  rw [loadBaseline, hp, hloaded]
  dsimp only
  refine ⟨loaded.notes.map fun n => Baseline.loader.record n none, ?_⟩
  rw [htree, Progress.note, hj]
  dsimp only
  rcases hcases with ⟨l, henabled, hdiscards, heq⟩ | ⟨hnone, heq⟩
  · exact Or.inl ⟨l, ⟨hloads, henabled, hdiscards⟩, hending _ _, by rw [heq]⟩
  · refine Or.inr ⟨fun l hremoves => hnone hremoves.isEnabled l hremoves.discards, ?_⟩
    rw [heq]

theorem loadBaseline_of_blank {c : Call n s t args} (hblank : ¬ c.IsVisible) (p : Progress) :
    loadBaseline s p c.settings = .error (p, .crash .blankPath) := by
  rw [IsVisible, Classical.not_imp, Bool.not_eq_false] at hblank
  have hnone : Baseline.loadConfigured? p.tree s.cwd c.settings.baseline = none := by
    rw [Baseline.loadConfigured?, hblank.1, if_pos rfl, Baseline.load?, Baseline.attempt?,
      hblank.2, if_pos rfl]
  rw [loadBaseline, hnone]

theorem ends_show (c : Call .show_ s t args) {p : Progress} (hp : p.tree = t) :
    c.Ends (run s p args) := by
  rcases c.configure_cases p with ⟨hanswers, _⟩ | ⟨henabled, fault, hholds, hconfigure⟩
  · rw [c.run_show hanswers hp]
    by_cases hvisible : c.IsVisible
    · have hloads : c.GetsToLoad := ⟨hanswers, hvisible⟩
      refine ends_of_getsToLoad hloads hvisible rfl rfl ?_ ?_
      · intro p b
        dsimp only
        split <;> rfl
      · intro p b
        rw [shownStatus]
        cases b.status <;> nofun
    · rw [loadBaseline_of_blank hvisible]
      exact ends_of_not_getsToLoad (fun hloads => hvisible hloads.2) rfl
  · rw [c.run_eq hp]
    unfold Name.run runShow
    rw [hconfigure]
    exact ends_of_not_getsToLoad (fun hloads => c.not_answers henabled hholds hloads.1) rfl

theorem ends_diff (c : Call .diff s t args) {p : Progress} (hp : p.tree = t) :
    c.Ends (run s p args) := by
  rcases c.configure_cases p with ⟨hanswers, _⟩ | ⟨henabled, fault, hholds, hconfigure⟩
  · rw [c.run_diff hanswers hp]
    rcases hresults : c.results with fault | found
    · refine ends_of_not_getsToLoad (fun hloads => ?_) ?_
      · obtain ⟨found, hfound⟩ := hloads.2.2
        cases hfound.symm.trans hresults
      · dsimp only
        split <;> rfl
    · dsimp only
      by_cases hvisible : c.IsVisible
      · have hloads : c.GetsToLoad := ⟨hanswers, hvisible, found, hresults⟩
        refine ends_of_getsToLoad hloads hvisible rfl rfl ?_ ?_
        · intro p b
          rw [tree_showDiff]
          split <;> rfl
        · exact fun p b => showDiff_ne_misuse _ _ _ _
      · rw [loadBaseline_of_blank hvisible]
        exact ends_of_not_getsToLoad (fun hloads => hvisible hloads.2.1) rfl
  · rw [c.run_eq hp]
    unfold Name.run runDiff
    dsimp only
    rw [hconfigure]
    exact ends_of_not_getsToLoad (fun hloads => c.not_answers henabled hholds hloads.1) rfl

end Call

section Uncalled

theorem tree_refuse (p : Progress) (front usage : String) (f : ValueFault) :
    (refuse p front usage f).1.tree = p.tree := by
  cases f <;> rfl

/-- An answer to the options of the program leaves the file system alone. -/
theorem tree_answerOptions {p : Progress} {program : Line} {outcome : Outcome}
    (hanswer : answerOptions s p program = some outcome) : outcome.1.tree = p.tree := by
  rw [answerOptions] at hanswer
  split at hanswer
  · cases hanswer
    rfl
  · cases hanswer
    rfl
  · split at hanswer
    · cases hanswer
      exact tree_refuse _ _ _ _
    · cases hanswer

theorem tree_refuseCommand (p : Progress) (word : String) (rest : List String) :
    (refuseCommand s p word rest).1.tree = p.tree := by
  unfold refuseCommand
  split
  · rfl
  · rcases hanswer : answerOptions s p _ with _ | outcome
    · rfl
    · exact tree_answerOptions hanswer

theorem answerOptions_eq_none {p : Progress} {program : Line}
    (hnone : answerOptions s p program = none) :
    program.notice? = none ∧ checkOptions p.tree s.cwd Command.program program = .ok () := by
  rw [answerOptions] at hnone
  split at hnone
  · cases hnone
  · cases hnone
  · rename_i hnotice
    rcases hcheck : checkOptions p.tree s.cwd Command.program program with f | _ <;>
      rw [hcheck] at hnone
    · cases hnone
    · exact ⟨hnotice, rfl⟩

/-- A command whose settings can not be used has at most set the journal up from them. -/
theorem leads_configure {Asked : JournalSetup → Prop} {x : Tended} {p : Progress}
    {program line : Line} (hx : x.tree = p.tree)
    (hasked : ∀ settings, n.settings s p.tree program line = .ok settings →
      Asked (Journal.setupOf settings.journal))
    {outcome : Outcome} (hfails : configure n s p program line = .error outcome) :
    Journal.Leads s.cwd Asked x outcome.1.tree := by
  unfold configure at hfails
  rcases hload : n.settings s p.tree program line with f | settings <;> rw [hload] at hfails
  · cases hfails
    exact ⟨x, .refl, hx⟩
  dsimp only at hfails
  obtain ⟨y, hsteps, hy, _⟩ := exists_setUp x s.cwd p.journal (hasked settings hload)
  rw [hx] at hy
  rw [Progress.setUp] at hfails
  rcases hset : p.journal.setUp p.tree s.cwd (Journal.setupOf settings.journal) with
    ⟨t', j', fault?⟩
  rw [hset] at hfails hy
  cases fault? with
  | some e =>
    cases hfails
    exact ⟨y, hsteps, hy⟩
  | none =>
    dsimp only at hfails
    split at hfails
    · cases hfails
      exact ⟨y, hsteps, hy⟩
    · cases hfails

theorem setsUp_of_configure {p : Progress} {program line : Line} {r : Progress × Settings}
    (hgoes : configure n s p program line = .ok r) :
    ∃ settings t' j', n.settings s p.tree program line = .ok settings ∧
      Journal.SetsUp p.tree s.cwd (Journal.setupOf settings.journal) t' j' := by
  unfold configure at hgoes
  rcases hload : n.settings s p.tree program line with f | settings <;> rw [hload] at hgoes
  · cases hgoes
  dsimp only at hgoes
  rw [Progress.setUp] at hgoes
  rcases hset : p.journal.setUp p.tree s.cwd (Journal.setupOf settings.journal) with
    ⟨t', j', fault?⟩
  rw [hset] at hgoes
  cases fault? with
  | some e => cases hgoes
  | none => exact ⟨settings, t', j', rfl, Journal.setsUp_of_setUp hset⟩

/-- A command that is run with its words, and loads no settings to go on with, only tends log
files. -/
theorem leads_runCommand {x : Tended} {Asked : JournalSetup → Prop} {p : Progress}
    {program : Line} {rest : List String} (hx : x.tree = p.tree)
    (hasked : ∀ line settings, readCommand n rest = .ok line →
      n.settings s p.tree program line = .ok settings → Asked (Journal.setupOf settings.journal))
    (hinit : ∀ line, readCommand n rest = .ok line → n ≠ .init)
    (hnone : n = .show_ ∨ n = .diff → ∀ line, readCommand n rest = .ok line →
      line.notice? = none → check p.tree s.cwd n.spec line = .ok () →
      ∀ r, configure n s p program line ≠ .ok r) :
    Journal.Leads s.cwd Asked x (runCommand s p program n rest).1.tree := by
  have hstays : Journal.Leads s.cwd Asked x p.tree := ⟨x, .refl, hx⟩
  unfold runCommand
  rcases hreads : readCommand n rest with f | line
  · exact hstays
  dsimp only
  split
  · exact hstays
  rename_i hnotice
  rcases hcheck : check p.tree s.cwd n.spec line with f | _
  · dsimp only
    rw [tree_refuse]
    exact hstays
  dsimp only
  have hruns : line.notice? = none := by simpa using hnotice
  cases n with
  | init => exact absurd rfl (hinit line hreads)
  | version => exact hstays
  | show_ =>
    unfold Name.run runShow
    rcases hconfigure : configure .show_ s p program line with outcome | r
    · exact leads_configure hx (hasked line · hreads) hconfigure
    · exact absurd hconfigure (hnone (Or.inl rfl) line hreads hruns hcheck r)
  | diff =>
    unfold Name.run runDiff
    dsimp only
    rcases hconfigure : configure .diff s p program line with outcome | r
    · exact leads_configure hx (hasked line · hreads) hconfigure
    · exact absurd hconfigure (hnone (Or.inr rfl) line hreads hruns hcheck r)

/-- A run leaves the file system alone or gets to the word that calls its command. -/
theorem tree_run_or_words (p : Progress) (args : List String) :
    (run s p args).1.tree = p.tree ∨
      ∃ (program : Line) (n : Name) (rest : List String), readProgram args = .ok program ∧
        program.words = n.spec.name :: rest ∧
        program.notice? = none ∧
        checkOptions p.tree s.cwd Command.program program = .ok () := by
  unfold run
  split
  · exact Or.inl rfl
  rcases hreads : readProgram args with f | program
  · exact Or.inl rfl
  dsimp only
  rcases hanswer : answerOptions s p program with _ | outcome
  · obtain ⟨hruns, hpasses⟩ := answerOptions_eq_none hanswer
    dsimp only
    rcases hwords : program.words with _ | ⟨word, rest⟩
    · exact Or.inl rfl
    dsimp only
    rcases hname : Name.ofWord? word with _ | n
    · exact Or.inl (tree_refuseCommand p word rest)
    · refine Or.inr ⟨program, n, rest, rfl, ?_, hruns, hpasses⟩
      rw [hwords, name_of_ofWord? hname]
  · exact Or.inl (tree_answerOptions hanswer)

/-- A run that calls no command which loads settings to go on with only tends log files. -/
theorem leads_of_uncalled {p : Progress}
    (hinit : ∀ program line, calledBy? args ≠ some (.init, program, line))
    (hnone : ∀ n, n = .show_ ∨ n = .diff → IsEmpty (Call n s p.tree args)) :
    Journal.Leads s.cwd (Asks s p.tree args) (.start p.tree) (run s p args).1.tree := by
  rcases tree_run_or_words (s := s) p args with
    hstays | ⟨program, n, rest, hreads, hwords, hruns, hpasses⟩
  · rw [hstays]
    exact Journal.Leads.refl _
  rw [run_of_words hreads hwords hruns hpasses, Progress.setUp]
  obtain ⟨y, hsteps, hy, _⟩ := exists_setUp (.start p.tree) s.cwd p.journal
    (Asks.byOptions (s := s) (t := p.tree) hreads)
  rw [Tended.start] at hy
  rcases hset : p.journal.setUp p.tree s.cwd (setupOf program) with ⟨t', j', fault?⟩
  rw [hset] at hy
  cases fault? with
  | some e => exact ⟨y, hsteps, hy⟩
  | none =>
    have hup := Journal.setsUp_of_setUp hset
    have hopened : openedBy s p.tree program = t' := by rw [openedBy, hup .unset]
    have hleads : Journal.Leads s.cwd (Asks s p.tree args) y
        (runCommand s { p with tree := t', journal := j' } program n rest).1.tree := by
      -- A command that loads its settings and sets the journal up from them would be a call.
      apply leads_runCommand hy
      · intro line settings hline hload
        refine .bySettings (calledBy?_of_words hreads hwords hline) ?_
        rw [hopened]
        exact hload
      · rintro line hline rfl
        exact hinit program line (calledBy?_of_words hreads hwords hline)
      · intro hn line hline hnotice hcheck r hconfigure
        obtain ⟨settings, ready, journal, hload, hready⟩ := setsUp_of_configure hconfigure
        exact (hnone n hn).false ⟨program, rest, line, t', j', settings, ready, journal, hreads,
          hwords, hruns, hpasses, hup, hline, hnotice, hcheck, hload, hready⟩
    obtain ⟨z, hmore, hz⟩ := hleads
    exact ⟨z, hsteps.trans hmore, hz⟩

end Uncalled

section Frames

/-- What a run does to a file system, with the state that its log files are in at the end. -/
structure Frames (s : Surroundings) (t : FileTree) (args : List String) (last : Tended)
    (outcome : Outcome) : Prop where
  /-- Log files are tended, and in between the name of the baseline is removed, if it is. -/
  steps : ∃ before, TendsTo s.cwd (Asks s t args) (.start t) before ∧
    ((∃ l, Removes s t args l ∧
        TendsTo s.cwd (Asks s t args) { before with tree := before.tree.erase l } last) ∨
      (∀ l, ¬ Removes s t args l) ∧ TendsTo s.cwd (Asks s t args) before last)
  tree : outcome.1.tree = last.tree
  /-- The name that is removed was that of a file or a link, and is gone. -/
  removed : ∀ l, l ∉ last.places → Removes s t args l →
    (∃ n, n ≠ .directory ∧ t.node? l = some n) ∧ outcome.1.tree.node? l = none
  /-- Every other name stands for what it stood for. -/
  kept : ∀ l, l ∉ last.places → ¬ Removes s t args l → outcome.1.tree.node? l = t.node? l
  /-- Files that are no log files have their bytes. -/
  bytes : ∀ id, id ∉ last.files → outcome.1.tree.bytesOf id = t.bytesOf id
  /-- A run that could not be followed removes nothing. -/
  misused : outcome.2 = .exit 2 → ∀ l, ¬ Removes s t args l
  /-- With the baseline turned off, nothing is removed. -/
  off : TurnsOff s t args → ∀ l, ¬ Removes s t args l

/-- Only showing a baseline and comparing with it load it. -/
theorem Call.GetsToLoad.name_cases {c : Call n s t args} (hloads : c.GetsToLoad) :
    n = .show_ ∨ n = .diff := by
  cases n with
  | show_ => exact Or.inl rfl
  | diff => exact Or.inr rfl
  | init => exact hloads.elim
  | version => exact hloads.elim

theorem removes_iff (c : Call n s t args) {l : Location} :
    Removes s t args l ↔ c.Removes l := by
  constructor
  · rintro ⟨n', c', hremoves⟩
    obtain rfl := c.name_eq c'
    rw [c.eq_of_args c'] at hremoves
    exact hremoves
  · exact fun hremoves => ⟨n, c, hremoves⟩

/-- At most one name is removed. -/
theorem Removes.eq {l k : Location} (hl : Removes s t args l) (hk : Removes s t args k) :
    k = l := by
  obtain ⟨n, c, hl⟩ := hl
  exact hl.discards.names.eq ((removes_iff c).1 hk).discards.names

theorem not_removes_of_turnsOff (hoff : TurnsOff s t args) (l : Location) :
    ¬ Removes s t args l := by
  rintro ⟨n, c, hremoves⟩
  obtain ⟨n', program, line, hcalls, hoff⟩ := hoff
  obtain ⟨rfl, hlines⟩ := Prod.mk.inj (Option.some.inj (hcalls.symm.trans c.calledBy?_eq))
  obtain ⟨rfl, rfl⟩ := Prod.mk.inj hlines
  have henabled := hremoves.isEnabled
  rcases hoff with hoff | ⟨settings, hload, hoff⟩
  · rw [enabled_of_settings c.loads hoff] at henabled
    cases henabled
  · rw [c.opened_eq] at hload
    rw [← Except.ok.inj (hload.symm.trans c.loads), hoff] at henabled
    cases henabled

/-- The steps of a run tell what it does. -/
theorem frames_of_steps (ht : t.IsSound) {before last : Tended} {outcome : Outcome}
    (hbefore : TendsTo s.cwd (Asks s t args) (.start t) before)
    (hlast : (∃ l, Removes s t args l ∧ outcome.2 ≠ .exit misuse ∧
        (∃ n, n ≠ .directory ∧ before.tree.node? l = some n) ∧
        TendsTo s.cwd (Asks s t args) { before with tree := before.tree.erase l } last) ∨
      (∀ l, ¬ Removes s t args l) ∧ TendsTo s.cwd (Asks s t args) before last)
    (htree : last.tree = outcome.1.tree) : Frames s t args last outcome := by
  obtain ⟨hsound, hkeeps⟩ := hbefore.keeps (Tended.isSound_start ht)
  have hoff : TurnsOff s t args → ∀ l, ¬ Removes s t args l := not_removes_of_turnsOff
  rcases hlast with ⟨l, hremoves, hending, ⟨n, hn, hnode⟩, hsteps⟩ | ⟨hnone, hsteps⟩
  · have hgrown := FileTree.grown_erase hsound.tree l
    obtain ⟨_, hmore⟩ := hsteps.keeps (hsound.grown hgrown _)
    -- The root is a directory, and what is removed is none.
    have hl : l ≠ [] := by
      rintro rfl
      exact hn (Option.some.inj hnode).symm
    refine ⟨⟨before, hbefore, Or.inl ⟨l, hremoves, hsteps⟩⟩, htree.symm, ?_, ?_, ?_,
      fun hmisused => absurd hmisused hending, hoff⟩
    · intro k hk hremoved
      obtain rfl := hremoves.eq hremoved
      refine ⟨⟨n, hn, ?_⟩, ?_⟩
      · rw [← hnode]
        exact (hkeeps.node k fun hmem => hk (hmore.places hmem)).symm
      · rw [← htree, hmore.node k hk]
        exact FileTree.node?_erase_self hl
    · intro k hk hkept
      have hne : k ≠ l := fun heq => hkept (heq ▸ hremoves)
      rw [← htree, hmore.node k hk]
      exact (FileTree.node?_erase_of_ne hne).trans
        (hkeeps.node k fun hmem => hk (hmore.places hmem))
    · intro id hid
      rw [← htree, hmore.bytes id hid]
      exact (hgrown.bytes id).trans (hkeeps.bytes id fun hmem => hid (hmore.files hmem))
  · obtain ⟨_, hmore⟩ := hsteps.keeps hsound
    have hboth := hkeeps.trans hmore
    refine ⟨⟨before, hbefore, Or.inr ⟨hnone, hsteps⟩⟩, htree.symm,
      fun k _ hremoved => absurd hremoved (hnone k), ?_, ?_, fun _ => hnone, hoff⟩
    · intro k hk _
      rw [← htree]
      exact hboth.node k hk
    · intro id hid
      rw [← htree]
      exact hboth.bytes id hid

theorem Asks.cases_of_call {setup : JournalSetup} (hasks : Asks s t args setup)
    (c : Call n s t args) :
    setup = setupOf c.program ∨ setup = Journal.setupOf c.settings.journal := by
  cases hasks with
  | byOptions reads =>
    rw [Except.ok.inj (reads.symm.trans c.reads_program)]
    exact Or.inl rfl
  | bySettings calls loads =>
    obtain ⟨rfl, hlines⟩ := Prod.mk.inj (Option.some.inj (calls.symm.trans c.calledBy?_eq))
    obtain ⟨rfl, rfl⟩ := Prod.mk.inj hlines
    rw [c.opened_eq] at loads
    rw [Except.ok.inj (loads.symm.trans c.loads)]
    exact Or.inr rfl

/-- A run that asks for no log file changes nothing but the name of the baseline. -/
theorem Frames.of_no_log {last : Tended} {outcome : Outcome}
    (hframes : Frames s t args last outcome)
    (hnone : ∀ setup, Asks s t args setup → setup.file = none) :
    last.places = ∅ ∧ last.files = ∅ := by
  obtain ⟨before, hbefore, hlast⟩ := hframes.steps
  obtain rfl := hbefore.eq_start hnone
  rcases hlast with ⟨l, _, hsteps⟩ | ⟨_, hsteps⟩
  · have hlast : last = .start (t.erase l) := TendsTo.eq_start hnone hsteps
    rw [hlast]
    exact ⟨rfl, rfl⟩
  · rw [hsteps.eq_start hnone]
    exact ⟨rfl, rfl⟩

end Frames

end Command

end FindingLedger
