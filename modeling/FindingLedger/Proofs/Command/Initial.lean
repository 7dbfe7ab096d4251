/-
The first settings of a project.

Writing settings into a directory touches no file but that of the settings.  One that is there
stays as it is, unless the user insists; else the settings that variables give are written, and
these are the defaults where no variable is one for settings.
-/
import FindingLedger.Proofs.Command.Gate
import FindingLedger.Proofs.FileTree.Below
import FindingLedger.Proofs.Settings.Written

namespace FindingLedger

namespace Settings

open Datum

/-- Loading a file gives some settings where nothing else says anything of them: no variable is
one for settings, and there is no file of the user. -/
def LoadsAlone (t : FileTree) (cwd : Location) (file : Path) (s : Settings) : Prop :=
  ∀ home env, HasNoVariables env → t.holds cwd (home.join userFile).text = .ok false →
    load t cwd home env file [] = .ok s

theorem ofEntries_of_hasNoVariables {env : Environment} (henv : HasNoVariables env) :
    ofEntries env [] = .ok default := by
  rw [ofEntries, ofVariables_eq_nil henv]
  rfl

theorem loadsAlone_of_write {t t' : FileTree} {cwd : Location} {file : Path} {s : Settings}
    (hpaths : s.HasPaths) (hwritable : s.isWritable = true) (hreads : s.IsReadBack)
    (hwrite : t.write cwd file.text s.bytes = .ok t') : LoadsAlone t' cwd file s := by
  intro home env henv hnone
  obtain ⟨a, hproject, hvalue⟩ := ofFile_of_write hwritable hreads hwrite
  have huser : ofFile t' cwd (home.join userFile) = .ok .blank := by
    rw [ofFile, hnone]
  have hplain : IsPlain (filesOf .blank ⟨s.entries, some a⟩) :=
    isPlain_filesOf isPlain_nil s.isPlain_entries
  rw [load_of_ok huser hproject (isEndlessUnder_written .blank hvalue)
    (namesWritable_of_isPlain hplain) (rfl : ofFlags [] = .ok []), joined, overlayEntries_nil,
    dropOverridden_eq henv, ofEntries_of_isPlain hplain (ofVariables_eq_nil henv)]
  exact mapError_eq_ok.2 (s.check_over hpaths isTextKeyed_nil)

end Settings

namespace Command

variable {s : Surroundings} {args : List String} {d : Location} {p : Progress}

def settingsName : String := ".lintbaseline.yml"

/-- A call that writes settings into a directory, without a log file. -/
structure Initial (args : List String) where
  program : Line
  rest : List String
  line : Line
  reads_program : readProgram args = .ok program
  program_words : program.words = Name.init.spec.name :: rest
  program_runs : program.notice? = none
  no_log : program.has .logFile = false
  reads_line : readCommand .init rest = .ok line
  line_runs : line.notice? = none
  one_word : line.words.length ≤ 1

namespace Initial

/-- The directory that it names; if none, the one it is called in. -/
def directory (c : Initial args) : String := c.line.words.head?.getD "."

def file (c : Initial args) : Path := (Path.ofString c.directory).below settingsName

/-- Whether a file that is there is to be written anew. -/
def insists (c : Initial args) : Bool := c.line.has .force

def ofDirectory (directory : String) (isForced : Bool) :
    Initial ("init" :: ((if isForced then ["--force"] else []) ++ ["--", directory])) where
  program := ⟨[], "init" :: ((if isForced then ["--force"] else []) ++ ["--", directory])⟩
  rest := (if isForced then ["--force"] else []) ++ ["--", directory]
  line := ⟨if isForced then [(.force, "")] else [], [directory]⟩
  reads_program := rfl
  program_words := rfl
  program_runs := rfl
  no_log := rfl
  reads_line := by cases isForced <;> rfl
  line_runs := by cases isForced <;> rfl
  one_word := Nat.le_refl 1

end Initial

theorem isFileName_settingsName : FileTree.IsFileName settingsName := by
  constructor
  · intro x hx
    rw [List.mem_singleton.1 hx]
    decide
  · decide
  · decide
  · decide

theorem value?_eq_none {line : Line} {id : OptionId} (hnot : line.has id = false) :
    line.value? id = none := by
  rw [Line.has, List.any_eq_false] at hnot
  rw [Line.value?, List.lookup_eq_none_iff]
  intro given hgiven
  have hother : ¬ given.1 = id := by simpa using hnot given (List.mem_reverse.1 hgiven)
  simpa using fun h : id = given.1 => hother h.symm

theorem checkOptions_of_switches {t : FileTree} {cwd : Location} {spec : CommandSpec} {line : Line}
    (hswitches : ∀ o ∈ spec.options, o.takesValue = true → line.has o.id = false) :
    checkOptions t cwd spec line = .ok () := by
  rw [checkOptions, forM_eq_ok]
  intro id hid
  cases hfound : spec.options.find? fun o => o.id == id with
  | none => rfl
  | some o =>
    have ho : o.id = id := by simpa using List.find?_some hfound
    have hgiven : line.has o.id = true := by
      obtain ⟨given, hmem, hgiven⟩ := List.mem_map.1 (List.mem_eraseDups.1 hid)
      exact List.any_eq_true.2 ⟨given, hmem, by simp [hgiven, ho]⟩
    dsimp only
    split
    · next htakes =>
      have hnot := hswitches o (List.mem_of_find?_eq_some hfound) htakes
      exact absurd (hnot.symm.trans hgiven) Bool.false_ne_true
    · rfl

theorem checkWords_init {t : FileTree} {line : Line} (hone : line.words.length ≤ 1)
    (hdir : t.status s.cwd (line.words.head?.getD ".") = .ok (d, .directory)) :
    checkWords t s.cwd initSpec line = .ok () := by
  obtain ⟨options, words⟩ := line
  match words with
  | [] => rfl
  | [word] =>
    have hprobe : probe t s.cwd word = .ok (some .directory) := by
      rw [probe, show t.status s.cwd word = _ from hdir]
    rw [checkWords]
    dsimp only [initSpec]
    rw [checkArgument, hprobe]
    rfl
  | _ :: _ :: _ => simp at hone

namespace Initial

theorem join_projectFile (c : Initial args) :
    (Path.ofString (c.line.words.head?.getD ".")).join Settings.projectFile = c.file :=
  rfl

theorem run_eq (c : Initial args)
    (hdir : p.tree.status s.cwd c.directory = .ok (d, .directory)) :
    ∃ j, run s p args = runInit s { p with journal := j } c.line := by
  have hpasses : checkOptions p.tree s.cwd Command.program c.program = .ok () := by
    apply checkOptions_of_switches
    intro o ho htakes
    have hlog : o.id = .logFile := by
      revert o
      decide
    rw [hlog]
    exact c.no_log
  have hfile : (setupOf c.program).file = none := by
    have hvalue : c.program.value? .logFile = none := value?_eq_none c.no_log
    change (c.program.value? .logFile).map Path.ofString = none
    rw [hvalue]
    rfl
  obtain ⟨j, hup⟩ := Journal.exists_setsUp_of_no_file p.tree s.cwd hfile
  refine ⟨j, ?_⟩
  rw [run_of_words c.reads_program c.program_words c.program_runs hpasses, setUp_eq hup]
  apply runCommand_eq c.reads_line c.line_runs
  refine bind_eq_ok.2 ⟨(), ?_, checkWords_init c.one_word hdir⟩
  apply checkOptions_of_switches
  intro o ho htakes
  have hnone : ∀ o ∈ initSpec.options, o.takesValue = false := by decide
  cases htakes.symm.trans (hnone o ho)

section Run

variable (c : Initial args) (hdir : p.tree.status s.cwd c.directory = .ok (d, .directory))
  (hfile : ∀ n, p.tree.node? (d ++ [settingsName]) = some n → ∃ id, n = .file id)

include hdir hfile

theorem holds_file :
    p.tree.holds s.cwd c.file.text =
      if FileTree.maxPath < c.file.text.utf8ByteSize then .error .nameTooLong
      else .ok (p.tree.node? (d ++ [settingsName])).isSome :=
  FileTree.holds_below hdir isFileName_settingsName hfile

/-- A path that is too long can not be looked up. -/
theorem run_of_long (hlong : FileTree.maxPath < c.file.text.utf8ByteSize) :
    (run s p args).2 = .crash (.file ⟨.nameTooLong, c.file.text⟩) ∧
      (run s p args).1.tree = p.tree := by
  obtain ⟨j, hrun⟩ := c.run_eq hdir
  have hholds := c.holds_file hdir hfile
  rw [if_pos hlong] at hholds
  rw [hrun]
  unfold runInit
  dsimp only
  rw [c.join_projectFile, hholds]
  exact ⟨rfl, rfl⟩

theorem run_of_there (hshort : ¬ FileTree.maxPath < c.file.text.utf8ByteSize)
    (hthere : p.tree.node? (d ++ [settingsName]) ≠ none) (hasks : c.insists = false) :
    (run s p args).2 = .exit success ∧ (run s p args).1.tree = p.tree := by
  obtain ⟨j, hrun⟩ := c.run_eq hdir
  have hholds := c.holds_file hdir hfile
  rw [if_neg hshort, Option.isSome_iff_ne_none.2 hthere] at hholds
  rw [insists] at hasks
  rw [hrun]
  unfold runInit
  dsimp only
  rw [c.join_projectFile, hholds, hasks]
  exact ⟨rfl, rfl⟩

/-- Else the settings that variables give are written, if they give any. -/
theorem run_of_new (hshort : ¬ FileTree.maxPath < c.file.text.utf8ByteSize)
    (hnew : p.tree.node? (d ++ [settingsName]) = none ∨ c.insists = true) :
    (∀ f, Settings.ofEntries s.environment [] = .error f →
      (run s p args).2 = .crash (.settings f) ∧ (run s p args).1.tree = p.tree) ∧
    ∀ settings, Settings.ofEntries s.environment [] = .ok settings →
      ∀ t', p.tree.write s.cwd c.file.text settings.bytes = .ok t' →
        (run s p args).2 = .exit success ∧ (run s p args).1.tree = t' := by
  obtain ⟨j, hrun⟩ := c.run_eq hdir
  have hholds := c.holds_file hdir hfile
  rw [if_neg hshort] at hholds
  have hgoes : ((p.tree.node? (d ++ [settingsName])).isSome && !c.line.has .force) = false := by
    rcases hnew with hnone | hinsists
    · rw [hnone]
      rfl
    · rw [insists] at hinsists
      rw [hinsists]
      exact Bool.and_false _
  rw [hrun]
  unfold runInit
  dsimp only
  rw [c.join_projectFile, hholds]
  dsimp only
  rw [hgoes]
  constructor
  · intro f hf
    rw [hf]
    exact ⟨rfl, rfl⟩
  · intro settings hsettings t' hwrite
    rw [Settings.bytes] at hwrite
    rw [hsettings]
    dsimp only
    rw [hwrite]
    exact ⟨rfl, rfl⟩

/-- Writing the first settings touches no file but the one of this name in the directory.  The
path to it may be too long.  Else a file that is there stays, unless the user insists, and
otherwise the settings that variables alone give are written, if they give any.  Without variables
for settings these are the defaults, which are loaded from the file alone. -/
theorem writes_settings (ht : p.tree.IsSound) :
    p.tree.SameBut (run s p args).1.tree (d ++ [settingsName]) ∧
    (FileTree.maxPath < c.file.text.utf8ByteSize →
      (run s p args).2 = .crash (.file ⟨.nameTooLong, c.file.text⟩) ∧
        (run s p args).1.tree = p.tree) ∧
    (¬ FileTree.maxPath < c.file.text.utf8ByteSize →
      p.tree.node? (d ++ [settingsName]) ≠ none → c.insists = false →
        (run s p args).2 = .exit success ∧ (run s p args).1.tree = p.tree) ∧
    (¬ FileTree.maxPath < c.file.text.utf8ByteSize →
      p.tree.node? (d ++ [settingsName]) = none ∨ c.insists = true →
        (∀ f, Settings.ofEntries s.environment [] = .error f →
          (run s p args).2 = .crash (.settings f) ∧ (run s p args).1.tree = p.tree) ∧
        ∀ settings, Settings.ofEntries s.environment [] = .ok settings →
          (run s p args).2 = .exit success ∧
          (run s p args).1.tree.read s.cwd c.file.text = .ok settings.bytes ∧
          (settings = .default → Settings.LoadsAlone (run s p args).1.tree s.cwd c.file .default)) ∧
    (Settings.HasNoVariables s.environment →
      Settings.ofEntries s.environment [] = .ok .default) := by
  have hwrites (hshort : ¬ FileTree.maxPath < c.file.text.utf8ByteSize) (bytes : ByteArray) :
      ∃ t', p.tree.write s.cwd c.file.text bytes = .ok t' ∧
        p.tree.SameBut t' (d ++ [settingsName]) :=
    FileTree.exists_write_below hdir isFileName_settingsName hfile ht hshort bytes
  refine ⟨?_, c.run_of_long hdir hfile, c.run_of_there hdir hfile, ?_,
    Settings.ofEntries_of_hasNoVariables⟩
  -- Nothing but the file is touched, in whichever way the command ends.
  · by_cases hlong : FileTree.maxPath < c.file.text.utf8ByteSize
    · rw [(c.run_of_long hdir hfile hlong).2]
      exact .refl _ _
    by_cases hstays : p.tree.node? (d ++ [settingsName]) ≠ none ∧ c.insists = false
    · rw [(c.run_of_there hdir hfile hlong hstays.1 hstays.2).2]
      exact .refl _ _
    have hnew : p.tree.node? (d ++ [settingsName]) = none ∨ c.insists = true := by
      simpa [or_iff_not_imp_left] using hstays
    obtain ⟨hfails, hgives⟩ := c.run_of_new hdir hfile hlong hnew
    rcases hsettings : Settings.ofEntries s.environment [] with f | settings
    · rw [(hfails f hsettings).2]
      exact .refl _ _
    · obtain ⟨t', hwrite, hsame⟩ := hwrites hlong settings.bytes
      rw [(hgives settings hsettings t' hwrite).2]
      exact hsame
  · intro hshort hnew
    obtain ⟨hfails, hgives⟩ := c.run_of_new hdir hfile hshort hnew
    refine ⟨hfails, fun settings hsettings => ?_⟩
    obtain ⟨t', hwrite, _⟩ := hwrites hshort settings.bytes
    obtain ⟨hexit, htree⟩ := hgives settings hsettings t' hwrite
    rw [htree]
    refine ⟨hexit, (FileTree.status_of_write hwrite).2, ?_⟩
    rintro rfl
    exact Settings.loadsAlone_of_write Settings.hasPaths_default Settings.isWritable_default
      Settings.isReadBack_default hwrite

end Run

/-- A directory with a file of settings. -/
def oldProject : FileTree where
  nodes := [(["w"], .directory), (["w", ".lintbaseline.yml"], .file 0)]
  contents := [(0, "old".toUTF8)]
  next := 1

/-- A run in this directory that insists, with some variables. -/
def forcedRun (env : Environment) : Outcome :=
  run { here with environment := env } ⟨oldProject, .unset, [], []⟩ ["init", "--force", "--", "."]

/-- Without variables for settings the file is written anew, with the defaults. -/
theorem writes_settings_oldProject :
    oldProject.IsSound ∧ oldProject.status here.cwd "." = .ok (["w"], .directory) ∧
    (forcedRun [("HOME", "/h")]).2 = .exit 0 ∧
    (forcedRun [("HOME", "/h")]).1.tree.read here.cwd ".lintbaseline.yml" =
      .ok Settings.default.bytes ∧
    Settings.LoadsAlone (forcedRun [("HOME", "/h")]).1.tree here.cwd
      (.ofString ".lintbaseline.yml") .default := by
  have hsound : oldProject.IsSound :=
    FileTree.isSound_of_all (by decide +kernel) (by decide +kernel)
  have hdir : oldProject.status here.cwd "." = .ok (["w"], .directory) := rfl
  have hfile : ∀ n, oldProject.node? (["w"] ++ [settingsName]) = some n → ∃ id, n = .file id :=
    fun n hn => ⟨0, (Option.some.inj hn).symm⟩
  obtain ⟨_, _, _, hnew, hdefault⟩ := (ofDirectory "." true).writes_settings
    (s := { here with environment := [("HOME", "/h")] })
    (p := ⟨oldProject, .unset, [], []⟩) hdir hfile hsound
  obtain ⟨_, hgives⟩ := hnew (by decide +kernel) (Or.inr rfl)
  obtain ⟨hexit, hread, hloads⟩ := hgives _ (hdefault (by decide +kernel))
  exact ⟨hsound, hdir, hexit, hread, hloads rfl⟩

/-- A variable for settings is not kept out: a level of its own is written in place of the
default, and one that there is not ends the run before anything is written. -/
theorem not_writes_defaults :
    ((forcedRun [("LINTBASELINE_LOGGING__LEVEL", "ERROR")]).2 = .exit 0 ∧
      (forcedRun [("LINTBASELINE_LOGGING__LEVEL", "ERROR")]).1.tree.read here.cwd
        ".lintbaseline.yml" ≠ .ok Settings.default.bytes) ∧
    (∃ f, (forcedRun [("LINTBASELINE_LOGGING__LEVEL", "LOUD")]).2 = .crash f) ∧
    (forcedRun [("LINTBASELINE_LOGGING__LEVEL", "LOUD")]).1.tree.read here.cwd
      ".lintbaseline.yml" = .ok "old".toUTF8 := by
  have hwritten : ((forcedRun [("LINTBASELINE_LOGGING__LEVEL", "ERROR")]).1.tree.read here.cwd
      ".lintbaseline.yml").toOption ≠ some Settings.default.bytes := by decide +kernel
  refine ⟨⟨Ending.eq_exit (by decide +kernel), fun hread => hwritten (by rw [hread]; rfl)⟩, ?_,
    toOption_eq_some.1 (by decide +kernel)⟩
  have hcrash : (forcedRun [("LINTBASELINE_LOGGING__LEVEL", "LOUD")]).2.status? = none := by
    decide +kernel
  cases hending : (forcedRun [("LINTBASELINE_LOGGING__LEVEL", "LOUD")]).2 with
  | exit status =>
    rw [hending] at hcrash
    cases hcrash
  | crash f => exact ⟨f, rfl⟩

end Initial

end Command

end FindingLedger
