/-
Comparing again.

A comparison that is called again meets the same results and the same baseline document, as
long as nothing that was made, moved or removed for the journal or the baseline stands on
the way to a file.  A baseline that was taken away was no document, so nothing is missed.
-/
import FindingLedger.Proofs.Command.Options

namespace FindingLedger

namespace Command

namespace Course

variable {s : Surroundings} {t : FileTree} {args : List String}

/-- The paths that are looked up before the journal is set up from the settings. -/
def earlyPaths (c : Course s t args) : List String :=
  c.settingsPaths.map Path.text ++ c.line.words.head?.toList ++ (c.line.value? .config).toList

/-- The log files: those that the journal writes to. -/
def logFiles (c : Course s t args) : List Nat := c.journal.written s.now c.loaded.tree c.records

/-- The files that are read are none of the log files. -/
structure IsApart (c : Course s t args) : Prop where
  settings : ∀ path ∈ c.settingsPaths, c.opened.Avoids s.cwd path.text c.logFiles
  results : c.ready.Avoids s.cwd c.resultsPath.text c.logFiles
  baseline : c.settings.baseline.enabled = true →
    c.ready.Avoids s.cwd c.settings.baseline.path.text c.logFiles

/-- The journal can be set up again after a run, and then the ways to all files are as
they were; the way to the baseline, as it was when this was loaded. -/
structure CanRepeat (c : Course s t args) (opened ready : FileTree) : Prop where
  opens : ∃ early, Journal.SetsUp c.final s.cwd (setupOf c.program) opened early
  sets_up : ∃ journal,
    Journal.SetsUp opened s.cwd (Journal.setupOf c.settings.journal) ready journal
  early : ∀ path ∈ c.earlyPaths, c.opened.KeepsWay opened s.cwd path
  results : c.ready.KeepsWay ready s.cwd c.resultsPath.text
  baseline : c.settings.baseline.enabled = true →
    c.loaded.tree.KeepsWay ready s.cwd c.settings.baseline.path.text

section Final

variable (c : Course s t args)

/-- Loading the baseline takes its name away, if it does anything. -/
theorem loaded_tree (c : Course s t args) :
    c.loaded.tree = c.ready ∨
      c.document? = none ∧
        c.ready.unlink s.cwd c.settings.baseline.path.text = .ok c.loaded.tree := by
  cases henabled : c.settings.baseline.enabled with
  | false =>
    refine Or.inl ?_
    rw [Call.loaded, henabled]
    rfl
  | true =>
    cases c.loads_of_enabled c.path_answers henabled with
    | absent _ _ hloaded =>
      rw [hloaded]
      exact Or.inl rfl
    | document d _ _ hloaded =>
      rw [hloaded]
      exact Or.inl rfl
    | fault fault _ hdocument hloaded =>
      rw [hloaded, Baseline.ofFault_eq, c.ofString_path]
      cases hunlink : c.ready.unlink s.cwd c.settings.baseline.path.text with
      | error e => exact Or.inl rfl
      | ok t' => exact Or.inr ⟨hdocument, rfl⟩

theorem grown_loaded (ht : t.IsSound) : c.ready.Grown c.loaded.tree := by
  have hready := (c.grown_ready ht).sound
  rcases c.loaded_tree with hsame | ⟨_, hunlink⟩
  · rw [hsame]
    exact FileTree.Grown.refl hready
  · exact FileTree.grown_unlink hready hunlink

/-- A run changes no bytes but those of the log files. -/
theorem writesOnly_final (ht : t.IsSound) :
    Journal.WritesOnly c.loaded.tree c.final c.logFiles := by
  have hfit := (c.sets_up.grown (c.grown_opened ht).sound).2
  exact Journal.writesOnly_takeAll (hfit.grown (c.grown_loaded ht)) c.records

end Final

/-- What is looked at in the beginning of a run is looked at again. -/
theorem mem_earlyPaths_settings {c : Course s t args} {path : Path}
    (hpath : path ∈ c.settingsPaths) : path.text ∈ c.earlyPaths :=
  List.mem_append_left _ (List.mem_append_left _ (List.mem_map_of_mem hpath))

theorem mem_earlyPaths_word {c : Course s t args} {word : String}
    (hword : word ∈ c.line.words.head?) : word ∈ c.earlyPaths :=
  List.mem_append_left _ (List.mem_append_right _ (Option.mem_toList.2 hword))

theorem mem_earlyPaths_config {c : Course s t args} {value : String}
    (hvalue : c.line.value? .config = some value) : value ∈ c.earlyPaths :=
  List.mem_append_right _ (Option.mem_toList.2 hvalue)

section Repeat

variable {c : Course s t args} {opened ready : FileTree}

/-- The bytes of all files but the log files are the same when a run is repeated. -/
theorem CanRepeat.bytes (hrepeat : c.CanRepeat opened ready) (ht : t.IsSound) :
    (∀ id, id ∉ c.logFiles → opened.bytesOf id = c.opened.bytesOf id) ∧
      ∀ id, id ∉ c.logFiles → ready.bytesOf id = c.ready.bytesOf id := by
  obtain ⟨early, hopens⟩ := hrepeat.opens
  obtain ⟨journal, hsets⟩ := hrepeat.sets_up
  have hfinal := c.writesOnly_final ht
  have hopened := (hopens.grown hfinal.sound).1
  have hready := (hsets.grown hopened.sound).1
  have hbytes : ∀ id, id ∉ c.logFiles → c.final.bytesOf id = c.ready.bytesOf id :=
    fun id hid => (hfinal.bytes id hid).trans ((c.grown_loaded ht).bytes id)
  constructor
  · intro id hid
    rw [hopened.bytes, hbytes id hid, (c.grown_ready ht).bytes]
  · intro id hid
    rw [hready.bytes, hopened.bytes, hbytes id hid]

/-- Of the options of a comparison, only that for the settings names a file that has to be
there. -/
theorem id_eq_config : ∀ o ∈ diffSpec.options, o.mustExist = true → o.id = .config := by
  decide

/-- No option of the program names a file that has to be there. -/
theorem mustExist_eq_false : ∀ o ∈ Command.program.options, o.mustExist = false := by
  decide

theorem CanRepeat.line_passes (hrepeat : c.CanRepeat opened ready) :
    check opened s.cwd diffSpec c.line = .ok () := by
  have hstatus : ∀ path ∈ c.earlyPaths, opened.status s.cwd path = c.opened.status s.cwd path :=
    fun path hpath => FileTree.status_eq_of_keepsWay (hrepeat.early path hpath)
  apply check_eq_ok _ _ c.line_passes
  · intro o ho hmust value hvalue
    rw [id_eq_config o ho hmust] at hvalue
    exact hstatus value (mem_earlyPaths_config hvalue)
  · intro word hword
    exact hstatus word (mem_earlyPaths_word hword)

theorem CanRepeat.loads (hrepeat : c.CanRepeat opened ready) (ht : t.IsSound)
    (hapart : c.IsApart) : Name.diff.settings s opened c.program c.line = .ok c.settings := by
  have hfile : ∀ path ∈ c.settingsPaths,
      Settings.ofFile opened s.cwd path = Settings.ofFile c.opened s.cwd path :=
    fun path hpath => Settings.ofFile_eq
      (hrepeat.early _ (mem_earlyPaths_settings hpath)) (hapart.settings path hpath)
      (hrepeat.bytes ht).1
  rw [← c.loads]
  exact Settings.load_eq _ _ (hfile _ List.mem_cons_self)
    (hfile _ (List.mem_cons_of_mem _ List.mem_cons_self))

theorem CanRepeat.reads_results (hrepeat : c.CanRepeat opened ready) (ht : t.IsSound)
    (hapart : c.IsApart) : Results.ofFile ready s.cwd c.resultsPath = .ok c.found := by
  rw [← c.reads_results, Results.ofFile,
    FileTree.read_eq hrepeat.results hapart.results (hrepeat.bytes ht).2]
  rfl

/-- The baseline is found again, unless it was taken away: then there was no document, and
now there is nothing. -/
theorem CanRepeat.baseline_cases (hrepeat : c.CanRepeat opened ready) (ht : t.IsSound)
    (hapart : c.IsApart) (henabled : c.settings.baseline.enabled = true) :
    (ready.status s.cwd c.settings.baseline.path.text =
        c.ready.status s.cwd c.settings.baseline.path.text ∧
      Baseline.Document.ofFile ready s.cwd c.settings.baseline.path =
        Baseline.Document.ofFile c.ready s.cwd c.settings.baseline.path) ∨
    c.document? = none ∧
      ready.status s.cwd c.settings.baseline.path.text = .error .missing := by
  rcases c.loaded_tree with hsame | ⟨hdocument, hunlink⟩
  · have hway := hrepeat.baseline henabled
    rw [hsame] at hway
    refine Or.inl ⟨FileTree.status_eq_of_keepsWay hway, ?_⟩
    rw [Baseline.Document.ofFile, Baseline.Document.ofFile,
      FileTree.read_eq hway (hapart.baseline henabled) (hrepeat.bytes ht).2]
  · refine Or.inr ⟨hdocument, ?_⟩
    rw [FileTree.status_eq_of_keepsWay (hrepeat.baseline henabled)]
    exact FileTree.status_of_unlink hunlink

theorem CanRepeat.path_answers (hrepeat : c.CanRepeat opened ready) (ht : t.IsSound)
    (hapart : c.IsApart) (henabled : c.settings.baseline.enabled = true) :
    ∃ isThere, ready.holds s.cwd c.settings.baseline.path.text = .ok isThere := by
  rcases hrepeat.baseline_cases ht hapart henabled with ⟨hstatus, _⟩ | ⟨_, hmissing⟩
  · rw [FileTree.holds, hstatus]
    exact c.path_answers henabled
  · refine ⟨false, ?_⟩
    rw [FileTree.holds, hmissing]
    rfl

/-- The course that a run takes when it is repeated: it meets the same results and the
same baseline document, or none where there was none. -/
theorem CanRepeat.exists_course (hrepeat : c.CanRepeat opened ready) (ht : t.IsSound)
    (hapart : c.IsApart) (later : Moment) :
    ∃ c' : Course { s with now := later } c.final args,
      c'.live = c.live ∧ c'.document? = c.document? := by
  obtain ⟨early, hopens⟩ := hrepeat.opens
  obtain ⟨journal, hsets⟩ := hrepeat.sets_up
  -- The same words are read, so only what the file system takes part in has to be shown again.
  refine ⟨{
    program := c.program
    rest := c.rest
    line := c.line
    opened := opened
    early := early
    settings := c.settings
    ready := ready
    journal := journal
    found := c.found
    reads_program := c.reads_program
    program_words := c.program_words
    program_runs := c.program_runs
    program_passes := checkOptions_eq_ok
      (fun o ho hmust => absurd hmust (by rw [mustExist_eq_false o ho]; nofun)) c.program_passes
    opens := hopens
    reads_line := c.reads_line
    line_runs := c.line_runs
    line_passes := hrepeat.line_passes
    loads := hrepeat.loads ht hapart
    sets_up := hsets
    path_not_blank := c.path_not_blank
    path_answers := hrepeat.path_answers ht hapart
    reads_results := hrepeat.reads_results ht hapart
    showable := c.showable }, rfl, ?_⟩
  rw [Call.document?, Call.document?]
  dsimp only
  split
  · rename_i henabled
    -- The baseline file is as it was, or it was no document and is gone.
    rcases hrepeat.baseline_cases ht hapart henabled with ⟨_, hsame⟩ | ⟨hdocument, hmissing⟩
    · rw [hsame]
    · rw [Call.document?, if_pos henabled] at hdocument
      rw [hdocument, Baseline.Document.ofFile, FileTree.read, hmissing]
      rfl
  · rfl

end Repeat

/-- A call without a log file, be it from the options or from the settings. -/
structure HasNoLog (c : Course s t args) : Prop where
  program : c.program.path? .logFile = none
  settings : c.settings.journal.file = none

section NoLog

variable {c : Course s t args}

/-- Without a log file, the only change to the file system is that the name of the baseline
may be taken away. -/
theorem HasNoLog.trees (hlog : c.HasNoLog) :
    c.opened = t ∧ c.ready = t ∧ c.final = c.loaded.tree ∧ c.logFiles = [] := by
  obtain ⟨hopened, _⟩ := c.opens.of_no_file hlog.program
  obtain ⟨hready, hfiles⟩ := c.sets_up.of_no_file hlog.settings
  obtain ⟨hfinal, hlogs⟩ := Journal.takeAll_of_no_files (t := c.loaded.tree) hfiles
  exact ⟨hopened, hready.trans hopened, hfinal, hlogs⟩

theorem HasNoLog.isClear (hlog : c.HasNoLog) : c.IsClear := by
  obtain ⟨hopened, hready, _, _⟩ := hlog.trees
  constructor
  · intro path _
    rw [hopened]
    exact .refl _ _ _
  · rw [hready]
    exact .refl _ _ _
  · intro _
    rw [hready]
    exact .refl _ _ _

theorem HasNoLog.isApart (hlog : c.HasNoLog) : c.IsApart := by
  obtain ⟨_, _, _, hlogs⟩ := hlog.trees
  constructor
  · intro path _
    rw [hlogs]
    exact FileTree.avoids_nil _ _ _
  · rw [hlogs]
    exact FileTree.avoids_nil _ _ _
  · intro _
    rw [hlogs]
    exact FileTree.avoids_nil _ _ _

/-- Without a log file a call can be repeated, unless the name of the baseline is on the way
to another file and was taken away. -/
theorem HasNoLog.canRepeat (hlog : c.HasNoLog)
    (hearly : ∀ path ∈ c.earlyPaths, t.KeepsWay c.loaded.tree s.cwd path)
    (hresults : t.KeepsWay c.loaded.tree s.cwd c.resultsPath.text) :
    c.CanRepeat c.final c.final := by
  obtain ⟨hopened, hready, hfinal, _⟩ := hlog.trees
  refine ⟨Journal.exists_setsUp_of_no_file _ _ hlog.program,
    Journal.exists_setsUp_of_no_file _ _ hlog.settings, fun path hpath => ?_, ?_, fun _ => ?_⟩
  · rw [hopened, hfinal]
    exact hearly path hpath
  · rw [hready, hfinal]
    exact hresults
  · rw [hfinal]
    exact .refl _ _ _

end NoLog

end Course

end Command

end FindingLedger
