/-
What differs between two states of a file system.
-/
import FindingLedger.FileTree

namespace FindingLedger

namespace FileTree

/-- A step from one state to another. -/
inductive Change
  | makeDirectory (l : Location)
  | write (l : Location) (bytes : ByteArray)
  | remove (l : Location)

def bytesAt? (t : FileTree) (l : Location) : Option ByteArray :=
  match t.node? l with
  | some (.file id) => some (t.bytesOf id)
  | _ => none

/-- What has to be done for a node of the later state. -/
def changeTo (before after : FileTree) (l : Location) : Node → Option Change
  | .directory => if before.node? l == some .directory then none else some (.makeDirectory l)
  | .file id =>
    let bytes := after.bytesOf id
    match before.bytesAt? l with
    | some old => if old.toList == bytes.toList then none else some (.write l bytes)
    | none => some (.write l bytes)
  | .link _ => none

/-- The steps from one state to another: what is gone is removed first, and directories
are made before what stands in them. -/
def changes (before after : FileTree) : List Change :=
  let gone := before.nodes.filterMap fun e =>
    if (after.node? e.1).isSome then none else some (Change.remove e.1)
  gone ++ after.nodes.filterMap fun e => changeTo before after e.1 e.2

end FileTree

end FindingLedger
