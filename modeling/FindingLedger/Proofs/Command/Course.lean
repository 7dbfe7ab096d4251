/-
The course of a comparison: what it reads, and what comes of it.

A comparison runs its course when it is called correctly, its settings load, its journal can
be set up and its results can be shown.  The status and the lines of new findings
depend on the results and on the baseline file alone, and the status is that of new
findings exactly when the file does not list some result.
-/
import FindingLedger.Proofs.Baseline.Listing
import FindingLedger.Proofs.Baseline.Partition
import FindingLedger.Proofs.Command.Call
import FindingLedger.Proofs.Path
import FindingLedger.Proofs.Settings.Sections

namespace FindingLedger

/-- The rule and the text for the reader are texts, so that a finding can be shown. -/
def Finding.IsShowable (f : Finding) : Prop := f.HasRuleId ∧ ∃ text, f.detail = .text text

def Datum.isText : Datum → Bool
  | .scalar (.text _) => true
  | _ => false

theorem Datum.isText_iff {v : Datum} : v.isText = true ↔ ∃ text, v = .text text := by
  constructor
  · intro htext
    unfold isText at htext
    split at htext
    · exact ⟨_, rfl⟩
    · cases htext
  · rintro ⟨text, rfl⟩
    rfl

instance (f : Finding) : Decidable f.IsShowable :=
  decidable_of_iff (f.rule.isText = true ∧ f.detail.isText = true)
    (and_congr Datum.isText_iff Datum.isText_iff)

/-- All findings can be shown, and no file with a finding has a broken name. -/
structure Results.AreShowable (r : Results) : Prop where
  findings : ∀ entry ∈ r.files, ∀ f ∈ entry.2, f.IsShowable
  names : ∀ stray ∈ r.strays, stray.2 = []

instance (r : Results) : Decidable r.AreShowable :=
  decidable_of_iff ((∀ entry ∈ r.files, ∀ f ∈ entry.2, f.IsShowable) ∧
      ∀ stray ∈ r.strays, stray.2.isEmpty = true)
    ⟨fun h => ⟨h.1, fun stray hstray => List.isEmpty_iff.1 (h.2 stray hstray)⟩,
      fun h => ⟨h.findings, fun stray hstray => List.isEmpty_iff.2 (h.names stray hstray)⟩⟩

namespace Command

variable {s : Surroundings} {t : FileTree} {args : List String}

namespace Call

variable {n : Name}

/-- What the baseline file says when the results are read, if it is looked at and is a
baseline document. -/
def document? (c : Call n s t args) : Option Baseline.Document :=
  if c.settings.baseline.enabled then
    (Baseline.Document.ofFile c.ready s.cwd c.settings.baseline.path).toOption
  else none

/-- A finding of a file has a twin in the baseline. -/
def Accepts (c : Call n s t args) (file : String) (f : Finding) : Prop :=
  ∃ known ∈ ((c.document?.bind fun d => d.files.lookup file).getD []), known.IsTwin f

instance (c : Call n s t args) (file : String) (f : Finding) : Decidable (c.Accepts file f) :=
  inferInstanceAs (Decidable (∃ known ∈ _, _))

/-- The baseline file lists a finding of a file: it is looked at and can be read, it is a
document of which all error elements are findings, and one of them is this one. -/
def Lists (c : Call n s t args) (file : String) (f : Finding) : Prop :=
  c.settings.baseline.enabled = true ∧
    ∃ bytes root d, c.ready.read s.cwd c.settings.baseline.path.text = .ok bytes ∧
      Xml.read bytes.toList = .ok root ∧ Baseline.Document.ofElement root = .ok d ∧
        root.Lists file f

def loaded (c : Call n s t args) : Baseline.Loaded :=
  if c.settings.baseline.enabled then
    Baseline.loadAt c.ready s.cwd c.settings.baseline.path.text
  else ⟨c.ready, .disabled, []⟩

/-- What loading the baseline has to say. -/
def records (c : Call n s t args) : List Record :=
  c.loaded.notes.map fun n => Baseline.loader.record n none

/-- The lines on the state of the baseline, where it is of no use. -/
def stateLines (c : Call n s t args) : List String :=
  if c.loaded.baseline.status.suppresses then [] else summaryLines c.loaded.baseline

theorem ofString_path (c : Call n s t args) :
    Path.ofString c.settings.baseline.path.text = c.settings.baseline.path :=
  Settings.ofString_path_of_load c.loads

/-- Loading the baseline finds nothing, or something that is no document and is taken
away, or a document. -/
inductive Loads (c : Call n s t args) : Prop
  | absent (isAbsent : c.ready.holds s.cwd c.settings.baseline.path.text = .ok false)
      (document : c.document? = none)
      (loaded : c.loaded = Baseline.ofAbsence c.ready c.settings.baseline.path.text [])
  | fault (fault : Baseline.FileFault)
      (isFault : Baseline.Document.ofFile c.ready s.cwd c.settings.baseline.path = .error fault)
      (document : c.document? = none)
      (loaded : c.loaded =
        Baseline.ofFault c.ready s.cwd c.settings.baseline.path.text fault)
  | document (d : Baseline.Document)
      (isDocument : Baseline.Document.ofFile c.ready s.cwd c.settings.baseline.path = .ok d)
      (document : c.document? = some d)
      (loaded : c.loaded = Baseline.ofDocument c.ready c.settings.baseline.path.text d)

theorem document?_of_fault {c : Call n s t args} {fault : Baseline.FileFault}
    (hfault : Baseline.Document.ofFile c.ready s.cwd c.settings.baseline.path = .error fault) :
    c.document? = none := by
  rw [document?, hfault]
  split <;> rfl

theorem loads_of_enabled (c : Call n s t args) (hanswers : c.Answers)
    (henabled : c.settings.baseline.enabled = true) : c.Loads := by
  obtain ⟨isThere, hholds⟩ := hanswers henabled
  have hloaded : c.loaded = Baseline.loadAt c.ready s.cwd c.settings.baseline.path.text :=
    if_pos henabled
  rw [Baseline.loadAt_eq, c.ofString_path, hholds] at hloaded
  cases isThere with
  | false =>
    have hread : ∃ fault, c.ready.read s.cwd c.settings.baseline.path.text = .error fault := by
      rw [FileTree.holds] at hholds
      rw [FileTree.read]
      rcases hfound : c.ready.status s.cwd c.settings.baseline.path.text with fault | found
      · exact ⟨fault, rfl⟩
      · rw [hfound] at hholds
        cases hholds
    obtain ⟨fault, hread⟩ := hread
    have hfile : Baseline.Document.ofFile c.ready s.cwd c.settings.baseline.path =
        .error (.unopenable ⟨fault, c.settings.baseline.path.text⟩) := by
      rw [Baseline.Document.ofFile, hread]
    exact .absent hholds (document?_of_fault hfile) hloaded
  | true =>
    dsimp only at hloaded
    cases hfile : Baseline.Document.ofFile c.ready s.cwd c.settings.baseline.path with
    | error fault =>
      rw [hfile] at hloaded
      exact .fault fault hfile (document?_of_fault hfile) hloaded
    | ok d =>
      rw [hfile] at hloaded
      refine .document d hfile ?_ hloaded
      rw [document?, if_pos henabled, hfile]
      rfl

theorem document?_eq_some {c : Call n s t args} {d : Baseline.Document} :
    c.document? = some d ↔ c.settings.baseline.enabled = true ∧
      Baseline.Document.ofFile c.ready s.cwd c.settings.baseline.path = .ok d := by
  rw [document?]
  cases c.settings.baseline.enabled with
  | false => simp
  | true =>
    rw [if_pos rfl]
    cases Baseline.Document.ofFile c.ready s.cwd c.settings.baseline.path with
    | error fault => simp [Except.toOption]
    | ok d' => simp [Except.toOption]

/-- What has a twin in the baseline is what the baseline file lists. -/
theorem accepts_iff_lists (c : Call n s t args) (file : String) (f : Finding) :
    c.Accepts file f ↔ c.Lists file f := by
  constructor
  · intro haccepts
    cases hdocument : c.document? with
    | none =>
      rw [Accepts, hdocument] at haccepts
      obtain ⟨known, hknown, _⟩ := haccepts
      exact absurd hknown List.not_mem_nil
    | some d =>
      rw [Accepts, hdocument] at haccepts
      obtain ⟨henabled, hfile⟩ := document?_eq_some.1 hdocument
      obtain ⟨bytes, root, hread, hxml, helement⟩ := Baseline.Document.ofFile_eq_ok.1 hfile
      exact ⟨henabled, bytes, root, d, hread, hxml, helement,
        (Baseline.Document.exists_twin_iff_lists helement file f).1 haccepts⟩
  · rintro ⟨henabled, bytes, root, d, hread, hxml, helement, hlists⟩
    have hfile := Baseline.Document.ofFile_eq_ok.2 ⟨bytes, root, hread, hxml, helement⟩
    rw [Accepts, document?_eq_some.2 ⟨henabled, hfile⟩]
    exact (Baseline.Document.exists_twin_iff_lists helement file f).2 hlists

theorem status_ofFault (t : FileTree) (cwd : Location) (path : String)
    (fault : Baseline.FileFault) :
    (Baseline.ofFault t cwd path fault).baseline.status = .invalid := by
  rw [Baseline.ofFault_eq]
  split <;> rfl

theorem loaded_cases (c : Call n s t args) (hanswers : c.Answers) :
    (∃ d, c.document? = some d ∧ d.files.HaveRuleIds ∧ c.loaded.baseline.status = .valid ∧
      c.loaded.baseline.files = d.files) ∨
    c.document? = none ∧ c.loaded.baseline.status ≠ .valid := by
  cases henabled : c.settings.baseline.enabled with
  | false =>
    refine Or.inr ⟨by rw [document?, henabled]; rfl, ?_⟩
    rw [loaded, henabled]
    nofun
  | true =>
    cases c.loads_of_enabled hanswers henabled with
    | absent _ hdocument hloaded =>
      refine Or.inr ⟨hdocument, ?_⟩
      rw [hloaded]
      nofun
    | fault fault _ hdocument hloaded =>
      refine Or.inr ⟨hdocument, ?_⟩
      rw [hloaded, status_ofFault]
      nofun
    | document d hfile hdocument hloaded =>
      have hrules := Baseline.Document.haveRuleIds_of_ofFile hfile
      refine Or.inl ⟨d, hdocument, hrules, ?_, ?_⟩ <;> rw [hloaded] <;> rfl

theorem haveRuleIds_loaded (c : Call n s t args) (hanswers : c.Answers) :
    c.loaded.baseline.files.HaveRuleIds := by
  rcases c.loaded_cases hanswers with ⟨d, _, hrules, _, hfiles⟩ | ⟨_, hstatus⟩
  · rw [hfiles]
    exact hrules
  · rw [c.loaded.baseline.files_of_not_valid hstatus]
    intro entry hentry
    exact absurd hentry List.not_mem_nil

theorem covers_iff_accepts (c : Call n s t args) (hanswers : c.Answers) (file : String)
    (f : Finding) : c.loaded.baseline.Covers file f ↔ c.Accepts file f := by
  rcases c.loaded_cases hanswers with ⟨d, hdocument, _, hstatus, hfiles⟩ | ⟨hdocument, hstatus⟩
  · rw [Baseline.Covers, Baseline.findingsOf, hfiles, Accepts, hdocument]
    constructor
    · intro hcovers
      exact hcovers.2
    · intro haccepts
      exact ⟨hstatus, haccepts⟩
  · refine iff_of_false (Baseline.not_covers_of_status_ne hstatus file f) ?_
    rw [Accepts, hdocument]
    rintro ⟨known, hknown, _⟩
    exact absurd hknown List.not_mem_nil

theorem loadConfigured?_eq (c : Call n s t args) (hvisible : c.IsVisible) :
    Baseline.loadConfigured? c.ready s.cwd c.settings.baseline = some c.loaded := by
  rw [Baseline.loadConfigured?, loaded]
  cases henabled : c.settings.baseline.enabled with
  | true =>
    rw [if_pos rfl, if_pos rfl, Baseline.load?, Baseline.attempt?, hvisible henabled,
      if_neg Bool.false_ne_true, Baseline.loadAt]
  | false => rfl

/-- The baseline is loaded, and the journal takes what there is to say of it. -/
theorem loadBaseline_eq (c : Call n s t args) (hvisible : c.IsVisible) {p : Progress}
    (hp : p.tree = c.ready) :
    loadBaseline s p c.settings =
      .ok ({ p with tree := c.loaded.tree }.note s Baseline.loader c.loaded.notes,
        c.loaded.baseline) := by
  rw [loadBaseline, hp, c.loadConfigured?_eq hvisible]

end Call

/-- A call of a comparison that runs its course: its path of the baseline can be used, and its
results can be read and shown. -/
structure Course (s : Surroundings) (t : FileTree) (args : List String)
    extends Call .diff s t args where
  found : Results
  path_not_blank : toCall.IsVisible
  path_answers : toCall.Answers
  reads_results : toCall.results = .ok found
  showable : found.AreShowable

namespace Course

/-- The findings of files that a baseline can list. -/
def live (c : Course s t args) : Findings := c.found.files

/-- The results, parted by whether the baseline has them. -/
def diff (c : Course s t args) : Diff :=
  ⟨c.live.select fun file f => !decide (c.Accepts file f),
    c.live.select fun file f => decide (c.Accepts file f)⟩

/-- The status that the comparison ends with. -/
def status (c : Course s t args) : Nat := if c.diff.hasFresh then newFindings else success

/-- The file system in the end, when the journal has taken these records. -/
def final (c : Course s t args) : FileTree :=
  (c.journal.takeAll s.now c.records c.loaded.tree).1

def newLines (c : Course s t args) : List String :=
  (findingLines (Findings.flatten (byName c.diff.fresh))).1

def countLines (c : Course s t args) : List String :=
  if c.program.has .quiet then []
  else (Markup.lines (countsText c.diff)).map String.ofList

def shown (c : Course s t args) : List String :=
  c.warningLines ++ c.stateLines ++ c.newLines ++ c.countLines

/-- What comes of a run that goes as the course says: its status, its lines behind those
that were shown before, and its file system. -/
structure EndsIn (c : Course s t args) (before : List String) (outcome : Outcome) : Prop where
  ending : outcome.2 = .exit c.status
  lines : outcome.1.shown = before ++ c.shown
  tree : outcome.1.tree = c.final

/-- Comparing parts the results by what the baseline file accepts. -/
theorem diff_eq (c : Course s t args) : c.loaded.baseline.diff c.live = .ok c.diff := by
  have hlive : c.live.HaveRuleIds :=
    fun entry hentry f hf => (c.showable.findings entry hentry f hf).1
  rw [Baseline.diff_eq_ok (c.haveRuleIds_loaded c.path_answers) hlive, diff]
  simp only [c.covers_iff_accepts c.path_answers]

/-- Some result is not listed in the baseline file. -/
def FindsNew (c : Course s t args) : Prop :=
  ∃ entry ∈ c.live, ∃ f ∈ entry.2, ¬ c.Lists entry.1 f

/-- There are new findings exactly when the baseline file does not list some result. -/
theorem hasFresh_iff (c : Course s t args) : c.diff.hasFresh = true ↔ c.FindsNew := by
  rw [Diff.hasFresh, Diff.freshCount, decide_eq_true_iff, diff, Findings.count_select_pos,
    FindsNew]
  simp [Call.accepts_iff_lists]

theorem status_eq_one_iff (c : Course s t args) : c.status = 1 ↔ c.FindsNew := by
  rw [← c.hasFresh_iff, status]
  cases c.diff.hasFresh with
  | true => exact ⟨fun _ => rfl, fun _ => rfl⟩
  | false => exact ⟨nofun, nofun⟩

theorem status_eq_zero_iff (c : Course s t args) : c.status = 0 ↔ ¬ c.FindsNew := by
  rw [← c.hasFresh_iff, status]
  cases c.diff.hasFresh with
  | true => exact ⟨nofun, fun hnot => absurd rfl hnot⟩
  | false => exact ⟨fun _ => Bool.false_ne_true, fun _ => rfl⟩

end Course

end Command

end FindingLedger
