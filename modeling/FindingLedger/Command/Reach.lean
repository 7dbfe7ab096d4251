/-
Which files a run may touch.
-/
import FindingLedger.Command.Run

namespace FindingLedger

namespace Command

/-- The command of a command line, with the options of the program and of the command. -/
def calledBy? (args : List String) : Option (Name × Line × Line) :=
  match readProgram args with
  | .error _ => none
  | .ok program =>
    match program.words with
    | [] => none
    | word :: rest =>
      match Name.ofWord? word, readCommand ((Name.ofWord? word).getD .version) rest with
      | some n, .ok line => some (n, program, line)
      | _, _ => none

/-- The files that a command line names, and those of the settings. -/
def namedPaths (s : Surroundings) (args : List String) : List Path :=
  match calledBy? args with
  | none => []
  | some (_, program, line) =>
    let values := (program.options ++ line.options).map fun o => Path.ofString o.2
    let words := line.words.map Path.ofString
    [s.home.join Settings.userFile, projectFile s, Settings.projectFile] ++ values ++ words ++
      words.map fun p => p.join Settings.projectFile

/-- The files of a journal: that in use, and those that are put aside. -/
def journalPaths (s : Surroundings) (j : JournalSettings) : List Path :=
  match j.file with
  | none => []
  | some p =>
    let file := Journal.absolute s.cwd p
    let aside := (List.range j.backupCount.toNat).map fun i => Journal.asideName file (i + 1)
    (file :: aside).map Path.ofString

def settingsPaths (s : Surroundings) (t : FileTree) (args : List String) : List Path :=
  match calledBy? args with
  | none => []
  | some (n, program, line) =>
    match n.settings s t program line with
    | .error _ => []
    | .ok settings => settings.baseline.path :: journalPaths s settings.journal

end Command

end FindingLedger
