/-
The program on the files of the system.

The files that a run may touch are read first.  The run works on what was read, and what it
changes is written back.  Links are followed.
-/
import FindingLedger.Calendar
import FindingLedger.Command.Reach
import FindingLedger.FileTree.Change
import Std.Time.DateTime.Timestamp

namespace FindingLedger

namespace Host

def textOf (l : Location) : String := (Path.mk .root l).text

/-- The result of an action, if it does not fail. -/
def attempt {α : Type} (act : IO α) : IO (Option α) := do
  try return some (← act) catch _ => return none

def readNode (t : FileTree) (l : Location) : IO (Option FileTree) := do
  let path := textOf l
  if (← attempt (IO.FS.realPath (path ++ "/."))).isSome then
    return some { t with nodes := Keyed.put l .directory t.nodes }
  match ← attempt (IO.FS.readBinFile path) with
  | some bytes =>
    let (t, id) := t.create l
    return some (t.setBytes id bytes)
  | none => return none

/-- Read what is on the way down to a location, up to what is not there. -/
def readAlong (t : FileTree) (done : Location) : List String → IO FileTree
  | [] => return t
  | name :: rest => do
    let l := done ++ [name]
    if (t.node? l).isSome then readAlong t l rest
    else match ← readNode t l with
      | some t => readAlong t l rest
      | none => return t

def readPath (cwd : Location) (t : FileTree) (p : Path) : IO FileTree :=
  readAlong t [] (Path.pieces (Journal.absolute cwd p))

/-- Make a change to the files of the system. -/
def apply : FileTree.Change → IO Unit
  | .makeDirectory l => IO.FS.createDir (textOf l)
  | .write l bytes => IO.FS.writeBinFile (textOf l) bytes
  | .remove l => IO.FS.removeFile (textOf l)

def variableNames : List String :=
  Settings.default.sections.flatMap fun e =>
    let name := Settings.variablePrefix ++ Text.upper e.1
    name :: e.2.map fun f => name ++ Settings.variableDelimiter ++ Text.upper f.1

/-- The variables of the environment that settings can come from. -/
def environment : IO Environment :=
  variableNames.filterMapM fun name => return (← IO.getEnv name).map fun value => (name, value)

def now : IO Moment := do
  let t ← Std.Time.Timestamp.now
  return Calendar.momentOf (t.toNanosecondsSinceUnixEpoch.val / 1000)

def surroundings : IO Command.Surroundings := do
  let cwd ← IO.currentDir
  let home ← IO.getEnv "HOME"
  return {
    cwd := Path.pieces cwd.toString
    home := .ofString (home.getD "/")
    environment := ← environment
    now := ← now }

/-- Run the program; the status that it ends with. -/
def run (args : List String) : IO UInt32 := do
  let s ← surroundings
  let named ← (Command.namedPaths s args).foldlM (readPath s.cwd) FileTree.empty
  let before ← (Command.settingsPaths s named args).foldlM (readPath s.cwd) named
  let (p, ending) := Command.run s ⟨before, .unset, [], []⟩ args
  (before.changes p.tree).forM apply
  p.told.forM IO.eprintln
  p.shown.forM IO.println
  match ending with
  | .exit status => return status.toUInt32
  | .crash f =>
    IO.eprintln f.message
    return Command.newFindings.toUInt32

end Host

end FindingLedger

def main (args : List String) : IO UInt32 := FindingLedger.Host.run args
