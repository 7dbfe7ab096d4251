/-
Which source a setting comes from.

Main statement: where files, variables and flags give single settings, each setting comes from
the first source that gives it, of flags, variables, the file of the project and the file of
the user, and has its default where none does.
-/
import FindingLedger.Proofs.Settings.Flags
import FindingLedger.Proofs.Settings.Sheet
import FindingLedger.Proofs.Settings.Variables

namespace FindingLedger

namespace Settings

open Datum

section Sources

variable {t : FileTree} {cwd : Location} {home file : Path} {env : Environment}
  {flags : List (String × Datum)} {user project : Sheet}

/-- The values that files give where no variable is set. -/
def fileValue? (env : Environment) (user project : Sheet) (sectionName key : String) :
    Option Datum :=
  if (env.map (·.1)).contains (variableName sectionName key) then none
  else (raw? project.entries sectionName key).or (raw? user.entries sectionName key)

def filesOf (user project : Sheet) : List (Scalar × Datum) :=
  overlayEntries (overlayEntries [] user.entries) project.entries

theorem isPlain_filesOf (huser : IsPlain user.entries) (hproject : IsPlain project.entries) :
    IsPlain (filesOf user project) :=
  isPlain_overlayEntries (isPlain_overlayEntries isPlain_nil huser) hproject

theorem raw?_filesOf (huser : IsPlain user.entries) (hproject : IsPlain project.entries)
    (name key : String) :
    raw? (filesOf user project) name key =
      (raw? project.entries name key).or (raw? user.entries name key) := by
  rw [filesOf, raw?_overlayEntries hproject, raw?_overlayEntries huser]
  exact congrArg _ Option.or_none

/-- Flags that stand for settings are laid over what is left of the files. -/
theorem raw?_joined {files set : List (Scalar × Datum)} (hfiles : IsPlain files)
    (hset : IsPlain set) (env : Environment) (name key : String) :
    raw? (joined env files set) name key =
      (raw? set name key).or
        (if (env.map (·.1)).contains (variableName name key) then none
          else raw? files name key) := by
  rw [joined, raw?_overlayEntries hset, raw?_dropOverridden _ hfiles]

theorem isPlain_joined {files set : List (Scalar × Datum)} (hfiles : IsPlain files)
    (hset : IsPlain set) (env : Environment) : IsPlain (joined env files set) :=
  isPlain_overlayEntries (isPlain_dropOverridden _ hfiles) hset

/-- Loading goes through where files can be laid over each other and all names are texts. -/
theorem load_of_ok {set : List (Scalar × Datum)}
    (huser : ofFile t cwd (home.join userFile) = .ok user)
    (hproject : ofFile t cwd file = .ok project)
    (hendless : user.isEndlessUnder project = false)
    (hnames : namesWritable (filesOf user project) = true) (hset : ofFlags flags = .ok set) :
    load t cwd home env file flags = ofEntries env (joined env (filesOf user project) set) := by
  rw [filesOf] at hnames
  rw [load, huser, hproject]
  dsimp only [bind, Except.bind]
  rw [hendless, hnames, hset]
  rfl

theorem ofEntries_of_isPlain {entries said : List (Scalar × Datum)} (hplain : IsPlain entries)
    (hvariables : ofVariables env = .ok said) :
    ofEntries env entries = (check (overlayEntries said entries)).mapError .invalid := by
  rw [ofEntries, all_isNamed_of_isPlain hplain, hvariables, renamed_of_isPlain hplain]
  rfl

/-- Loading from plain files is checking what flags, files and variables give, in this order;
but no file gives a setting whose variable is set. -/
theorem load_eq_of_looksPlain {set said : List (Scalar × Datum)}
    (huser : ofFile t cwd (home.join userFile) = .ok user)
    (hproject : ofFile t cwd file = .ok project)
    (huserLooks : looksPlain user.entries = true)
    (hprojectLooks : looksPlain project.entries = true)
    (hflags : ofFlags flags = .ok set) (hset : IsPlain set)
    (hvariables : ofVariables env = .ok said) (hsaid : HasSections said) :
    load t cwd home env file flags =
      (check (sectionsOf fun name key =>
        (raw? set name key).or
          ((fileValue? env user project name key).or (raw? said name key)))).mapError
        .invalid := by
  have huserPlain := isPlain_of_isRead (isRead_of_ofFile huser) huserLooks
  have hprojectPlain := isPlain_of_isRead (isRead_of_ofFile hproject) hprojectLooks
  have hendless := isEndlessUnder_of_isRead (isRead_of_ofFile huser) huserLooks project
  have hfiles := isPlain_filesOf huserPlain hprojectPlain
  have hjoined := isPlain_joined hfiles hset env
  rw [load_of_ok huser hproject hendless (namesWritable_of_isPlain hfiles) hflags,
    ofEntries_of_isPlain hjoined hvariables]
  congr 1
  apply check_eq_check_sectionsOf (hasSections_overlayEntries hsaid hjoined)
  intro n _
  rw [raw?_overlayEntries hjoined, raw?_joined hfiles hset, raw?_filesOf huserPlain hprojectPlain,
    Option.or_assoc, fileValue?]

end Sources

section Precedence

/-- A variable that is set has a value. -/
theorem contains_eq_isSome_value? (env : Environment) (name : String) :
    (env.map (·.1)).contains name = (value? env name).isSome := by
  rw [Bool.eq_iff_iff, List.contains_iff_mem, value?]
  have hkeys : name ∈ env.map Prod.fst ↔ name ∈ (Keyed.ofList env).map Prod.fst := by
    rw [Keyed.keys_ofList, List.mem_eraseDups]
  exact hkeys.trans Keyed.isSome_lookup_iff.symm

/-- A file of the user and one of a project that say something about the same settings. -/
def twoFiles : FileTree where
  nodes := [(["home"], .directory), (["home", ".lintbaseline"], .directory),
    (["home", ".lintbaseline", "config.yml"], .file 0), (["work"], .directory),
    (["work", ".lintbaseline.yml"], .file 1)]
  contents :=
    [(0, "baseline:\n path: u.xml\nlogging:\n level: INFO\n backup_count: 1\n".toUTF8),
     (1, "logging:\n level: ERROR\n".toUTF8)]
  next := 2

end Precedence

end Settings

end FindingLedger
