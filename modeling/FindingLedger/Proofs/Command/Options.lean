/-
Comparing with other options.

Options of the program show more or less and write the journal in another form.  As long as
the log files remain the same, or do not stand on the way to a file, a comparison meets the
same results and the same baseline document with other options.
-/
import FindingLedger.Proofs.Command.Ending

namespace FindingLedger

namespace Command

namespace Course

variable {s : Surroundings} {t : FileTree} {args : List String}

def resultsPath (c : Course s t args) : Path := .ofString (c.line.words.head?.getD "")

/-- Where the settings are: the file of the user, and that of the project. -/
def settingsPaths (c : Course s t args) : List Path :=
  [s.home.join Settings.userFile, (c.line.path? .config).getD (projectFile s)]

/-- Setting the journal up leaves the ways to all files as they were. -/
structure IsClear (c : Course s t args) : Prop where
  settings : ∀ path ∈ c.settingsPaths, t.KeepsWay c.opened s.cwd path.text
  results : t.KeepsWay c.ready s.cwd c.resultsPath.text
  baseline : c.settings.baseline.enabled = true →
    t.KeepsWay c.ready s.cwd c.settings.baseline.path.text

/-- Courses with the same results and the same baseline find the same new findings. -/
theorem diff_congr {s' : Surroundings} {t' : FileTree} {args' : List String}
    {c : Course s t args} {c' : Course s' t' args'} (hlive : c'.live = c.live)
    (hdocument : c'.document? = c.document?) : c'.diff = c.diff := by
  have haccepts : ∀ file f, decide (c'.Accepts file f) = decide (c.Accepts file f) := by
    intro file f
    rw [decide_eq_decide, Call.Accepts, Call.Accepts, hdocument]
  rw [diff, diff, hlive]
  simp only [haccepts]

theorem status_congr {s' : Surroundings} {t' : FileTree} {args' : List String}
    {c : Course s t args} {c' : Course s' t' args'} (hlive : c'.live = c.live)
    (hdocument : c'.document? = c.document?) :
    c'.status = c.status ∧ c'.newLines = c.newLines := by
  have hdiff := diff_congr hlive hdocument
  rw [status, status, newLines, newLines, hdiff]
  exact ⟨rfl, rfl⟩

/-- What is read is what was there in the beginning, where setting the journal up leaves
the ways as they were. -/
theorem reads_first (c : Course s t args) (ht : t.IsSound) (hclear : c.IsClear) :
    (∀ path ∈ c.settingsPaths,
      Settings.ofFile c.opened s.cwd path = Settings.ofFile t s.cwd path) ∧
    Results.ofFile t s.cwd c.resultsPath = .ok c.found ∧
    (c.settings.baseline.enabled = true →
      c.ready.read s.cwd c.settings.baseline.path.text =
        t.read s.cwd c.settings.baseline.path.text) := by
  have hopened := c.grown_opened ht
  have hready := hopened.trans (c.grown_ready ht)
  refine ⟨?_, ?_, ?_⟩
  · intro path hpath
    exact Settings.ofFile_eq (hclear.settings path hpath) (FileTree.avoids_nil t _ _)
      fun id _ => hopened.bytes id
  · rw [← c.reads_results, Call.results, Results.ofFile, Results.ofFile, ← resultsPath,
      FileTree.read_eq hclear.results (FileTree.avoids_nil t _ _) fun id _ => hready.bytes id]
  · intro henabled
    exact FileTree.read_eq (hclear.baseline henabled) (FileTree.avoids_nil t _ _)
      fun id _ => hready.bytes id

theorem filter_flagsOf (program program' : Line) (baseline : Option Path) (line : Line) :
    ((flagsOf program baseline line).filter fun e => !Settings.isJournalFlag e.1) =
      (flagsOf program' baseline line).filter fun e => !Settings.isJournalFlag e.1 :=
  rfl

section Options

variable {args' : List String} {c : Course s t args} {c' : Course s t args'}

/-- Two calls have the same log files, from the options and from the settings. -/
structure SharesLogs (c : Course s t args) (c' : Course s t args') : Prop where
  program : c'.program.path? .logFile = c.program.path? .logFile
  settings : c'.settings.journal.file = c.settings.journal.file

/-- With the same log files, the journal leaves the same file systems. -/
theorem SharesLogs.trees (hlogs : c.SharesLogs c') :
    c'.opened = c.opened ∧ c'.ready = c.ready := by
  have hopened := c.opens.tree_eq c'.opens hlogs.program
  have hsets := c'.sets_up
  rw [hopened] at hsets
  exact ⟨hopened, c.sets_up.tree_eq hsets hlogs.settings⟩

/-- What is behind the name of a comparison says what to read. -/
theorem line_eq_of_rest_eq (hrest : c'.rest = c.rest) : c'.line = c.line := by
  have hreads := c'.reads_line
  rw [hrest, c.reads_line] at hreads
  exact (Except.ok.inj hreads).symm

/-- Calls with the same options of the comparison that find the same in all files meet
the same results and the same baseline document. -/
theorem same_of_reads (hline : c'.line = c.line)
    (hfiles : ∀ path ∈ c.settingsPaths,
      Settings.ofFile c'.opened s.cwd path = Settings.ofFile c.opened s.cwd path)
    (hresults : Results.ofFile c'.ready s.cwd c'.resultsPath = .ok c.found)
    (hdocument : c.settings.baseline = c'.settings.baseline →
      c.settings.baseline.enabled = true →
      Baseline.Document.ofFile c'.ready s.cwd c.settings.baseline.path =
        Baseline.Document.ofFile c.ready s.cwd c.settings.baseline.path) :
    c'.live = c.live ∧ c'.document? = c.document? := by
  have hloads := c'.loads
  rw [hline] at hloads
  have hbaseline : c.settings.baseline = c'.settings.baseline :=
    Settings.load_baseline_eq c.loads hloads (hfiles _ List.mem_cons_self)
      (hfiles _ (List.mem_cons_of_mem _ List.mem_cons_self)) (filter_flagsOf _ _ _ _)
  have hfound : c'.found = c.found := Except.ok.inj (c'.reads_results.symm.trans hresults)
  refine ⟨congrArg Results.files hfound, ?_⟩
  rw [Call.document?, Call.document?, ← hbaseline]
  split
  · rename_i henabled
    rw [hdocument hbaseline henabled]
  · rfl

/-- Two calls that differ in the options of the program meet the same results and the same
baseline document: their log files are the same, or do not stand on the way. -/
theorem same_of_rest_eq (hrest : c'.rest = c.rest)
    (hlogs : c.SharesLogs c' ∨ t.IsSound ∧ c.IsClear ∧ c'.IsClear) :
    c'.live = c.live ∧ c'.document? = c.document? := by
  have hline := line_eq_of_rest_eq hrest
  have hresultsPath : c'.resultsPath = c.resultsPath := by rw [resultsPath, hline, ← resultsPath]
  have hpaths : c'.settingsPaths = c.settingsPaths := by
    rw [settingsPaths, hline, ← settingsPaths]
  rcases hlogs with hshared | ⟨ht, hclear, hclear'⟩
  · obtain ⟨hopened, hready⟩ := hshared.trees
    apply same_of_reads hline
    · intro path _
      rw [hopened]
    · rw [hready, hresultsPath]
      exact c.reads_results
    · intro _ _
      rw [hready]
  · obtain ⟨hfiles, hresults, hbytes⟩ := c.reads_first ht hclear
    obtain ⟨hfiles', hresults', hbytes'⟩ := c'.reads_first ht hclear'
    rw [hpaths] at hfiles'
    apply same_of_reads hline
    · intro path hpath
      rw [hfiles path hpath, hfiles' path hpath]
    · rw [← hresults, ← hresultsPath, hresults']
      exact c'.reads_results
    · intro hbaseline henabled
      rw [← hbaseline] at hbytes'
      rw [Baseline.Document.ofFile, Baseline.Document.ofFile, hbytes henabled, hbytes' henabled]

end Options

end Course

end Command

end FindingLedger
