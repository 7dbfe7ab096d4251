/-
A file system of directories, files and symbolic links.

Nodes are kept by their place, the names that lead there from the root.  A file has an
identity apart from its place, so that what was opened stays the same file when its
name goes.  Walking along a path follows links up to a limit.
-/
import FindingLedger.Keyed
import FindingLedger.Path
import FindingLedger.Text.Quoted

namespace FindingLedger

/-- What a name in a directory stands for. -/
inductive Node
  | directory
  | link (target : String)
  | file (id : Nat)
deriving DecidableEq, Repr

/-- Where a node is: the names that lead to it from the root. -/
abbrev Location := List String

/-- The nodes of a file system, except for its root, and the contents of its files. -/
structure FileTree where
  nodes : List (Location × Node)
  contents : List (Nat × ByteArray)
  next : Nat

/-- Why the system refuses an operation.  A path with a null character is refused before
the system sees it. -/
inductive FileFault
  | missing | exists_ | notDirectory | isDirectory | nameTooLong | tooManyLinks | nullCharacter
deriving DecidableEq, Repr

/-- The number of a fault; zero where the system has none. -/
def FileFault.code : FileFault → Nat
  | .missing => 2
  | .exists_ => 17
  | .notDirectory => 20
  | .isDirectory => 21
  | .nameTooLong => 36
  | .tooManyLinks => 40
  | .nullCharacter => 0

def FileFault.name : FileFault → String
  | .missing => "No such file or directory"
  | .exists_ => "File exists"
  | .notDirectory => "Not a directory"
  | .isDirectory => "Is a directory"
  | .nameTooLong => "File name too long"
  | .tooManyLinks => "Too many levels of symbolic links"
  | .nullCharacter => "embedded null byte"

/-- A refused operation on a path. -/
structure FileError where
  fault : FileFault
  path : String
deriving DecidableEq, Repr

def FileError.message (e : FileError) : String :=
  if e.fault == .nullCharacter then e.fault.name
  else s!"[Errno {e.fault.code}] {e.fault.name}: {Text.quoted e.path}"

namespace FileTree

/-- The file system that holds only its root. -/
def empty : FileTree := ⟨[], [], 0⟩

def node? (t : FileTree) (l : Location) : Option Node :=
  if l.isEmpty then some .directory else t.nodes.lookup l

/-- What a path leads to. -/
inductive Target
  /-- A node and its location. -/
  | node (l : Location) (n : Node)
  /-- Nothing yet, at this location in a directory that is there. -/
  | absent (l : Location)
deriving DecidableEq, Repr

def Target.location : Target → Location
  | .node l _ => l
  | .absent l => l

def maxName : Nat := 255

def maxPath : Nat := 4095

/-- The most links that are followed on one path. -/
def maxLinks : Nat := 40

/-- What a path is walked along for: for what stands at its end, for the name at its end,
which may be that of a link, or for a file that is created when it is not there. -/
inductive Purpose
  | content | name | creation
deriving DecidableEq, Repr

/-- The names along a path, points included; a slash at the end counts as one more
name, which is empty. -/
def namesOf (path : String) : List String :=
  let trailing := if path.toList.getLast? == some '/' then [""] else []
  Path.pieces path ++ trailing

/-- Walk from a directory along names up to the end or to a link that has to be
followed, which gives the place to go on from.  No file is created by a name with a slash
behind it. -/
def descend (t : FileTree) (purpose : Purpose) (dir : Location) :
    List String → Except FileFault (Target ⊕ (Location × List String))
  | [] => .ok (.inl (.node dir .directory))
  | name :: rest =>
    if name == "." || name.isEmpty then t.descend purpose dir rest
    else if name == ".." then t.descend purpose dir.dropLast rest
    else if purpose == .creation && rest == [""] then .error .isDirectory
    else if maxName < name.utf8ByteSize then .error .nameTooLong
    else
      let l := dir ++ [name]
      match t.node? l with
      | none => if rest.isEmpty then .ok (.inl (.absent l)) else .error .missing
      | some .directory => t.descend purpose l rest
      | some (.file id) =>
        if rest.isEmpty then .ok (.inl (.node l (.file id))) else .error .notDirectory
      | some (.link target) =>
        if rest.isEmpty && purpose == .name then .ok (.inl (.node l (.link target)))
        else
          let start := if target.toList.head? == some '/' then [] else dir
          .ok (.inr (start, namesOf target ++ rest))

/-- Walk from a directory along names, following at most a number of links. -/
def walk (t : FileTree) (purpose : Purpose) : Nat → Location → List String →
    Except FileFault Target
  | links, dir, names =>
    match t.descend purpose dir names with
    | .error fault => .error fault
    | .ok (.inl target) => .ok target
    | .ok (.inr (dir, names)) =>
      match links with
      | 0 => .error .tooManyLinks
      | links + 1 => t.walk purpose links dir names

/-- What a path leads to from a working directory. -/
def locate (t : FileTree) (cwd : Location) (purpose : Purpose) (path : String) :
    Except FileFault Target :=
  if path.toList.contains '\x00' then .error .nullCharacter
  else if path.isEmpty then .error .missing
  else if maxPath < path.utf8ByteSize then .error .nameTooLong
  else
    let start := if path.toList.head? == some '/' then [] else cwd
    t.walk purpose maxLinks start (namesOf path)

/-- The node that a path leads to, links followed. -/
def status (t : FileTree) (cwd : Location) (path : String) :
    Except FileFault (Location × Node) :=
  match t.locate cwd .content path with
  | .error fault => .error fault
  | .ok (.absent _) => .error .missing
  | .ok (.node l n) => .ok (l, n)

def bytesOf (t : FileTree) (id : Nat) : ByteArray :=
  (t.contents.lookup id).getD ByteArray.empty

def read (t : FileTree) (cwd : Location) (path : String) : Except FileFault ByteArray :=
  match t.status cwd path with
  | .error fault => .error fault
  | .ok (_, .file id) => .ok (t.bytesOf id)
  | .ok _ => .error .isDirectory

def setBytes (t : FileTree) (id : Nat) (bytes : ByteArray) : FileTree :=
  { t with contents := Keyed.put id bytes t.contents }

/-- Add an empty file at a location. -/
def create (t : FileTree) (l : Location) : FileTree × Nat :=
  ({ nodes := Keyed.put l (.file t.next) t.nodes
     contents := Keyed.put t.next ByteArray.empty t.contents
     next := t.next + 1 }, t.next)

/-- Open the file that a path leads to, and create it when it is not there. -/
def openFile (t : FileTree) (cwd : Location) (path : String) :
    Except FileFault (FileTree × Nat) :=
  match t.locate cwd .creation path with
  | .error fault => .error fault
  | .ok (.absent l) => .ok (t.create l)
  | .ok (.node _ (.file id)) => .ok (t, id)
  | .ok (.node _ _) => .error .isDirectory

/-- Write the file that a path leads to anew. -/
def write (t : FileTree) (cwd : Location) (path : String) (bytes : ByteArray) :
    Except FileFault FileTree := do
  let (t, id) ← t.openFile cwd path
  .ok (t.setBytes id bytes)

/-- Take the name at a location away. -/
def erase (t : FileTree) (l : Location) : FileTree :=
  { t with nodes := Keyed.erase l t.nodes }

/-- Remove the file or the link that a path names; links at its end are not followed. -/
def unlink (t : FileTree) (cwd : Location) (path : String) : Except FileFault FileTree :=
  match t.locate cwd .name path with
  | .error fault => .error fault
  | .ok (.absent _) => .error .missing
  | .ok (.node _ .directory) => .error .isDirectory
  | .ok (.node l _) => .ok (t.erase l)

def makeDirectory (t : FileTree) (cwd : Location) (path : String) :
    Except FileFault FileTree :=
  match t.locate cwd .name path with
  | .error fault => .error fault
  | .ok (.node _ _) => .error .exists_
  | .ok (.absent l) => .ok { t with nodes := Keyed.put l .directory t.nodes }

/-- Make a symbolic link.  It has to lead somewhere, if only by its text. -/
def makeLink (t : FileTree) (cwd : Location) (path target : String) :
    Except FileFault FileTree :=
  if target.toList.contains '\x00' || path.toList.contains '\x00' then .error .nullCharacter
  else if target.isEmpty then .error .missing
  else if maxPath < target.utf8ByteSize then .error .nameTooLong
  else match t.locate cwd .name path with
  | .error fault => .error fault
  | .ok (.node _ _) => .error .exists_
  | .ok (.absent l) => .ok { t with nodes := Keyed.put l (.link target) t.nodes }

/-- Whether a fault only says that there is nothing usable at a path. -/
def saysAbsent : FileFault → Bool
  | .missing | .notDirectory | .tooManyLinks | .nullCharacter => true
  | _ => false

/-- Whether there is something at a path, links followed. -/
def holds (t : FileTree) (cwd : Location) (path : String) : Except FileFault Bool :=
  match t.status cwd path with
  | .ok _ => .ok true
  | .error fault => if saysAbsent fault then .ok false else .error fault

/-- Whether there is a directory at a path, links followed. -/
def holdsDirectory (t : FileTree) (cwd : Location) (path : String) : Except FileFault Bool :=
  match t.status cwd path with
  | .ok (_, .directory) => .ok true
  | .ok _ => .ok false
  | .error fault => if saysAbsent fault then .ok false else .error fault

/-- A directory that could not be made is fine when it is there already. -/
def keepDirectory (t : FileTree) (cwd : Location) (p : Path) (fault : FileFault) :
    FileTree × Option FileError :=
  match t.holdsDirectory cwd p.text with
  | .ok true => (t, none)
  | .ok false => (t, some ⟨fault, p.text⟩)
  | .error fault => (t, some ⟨fault, p.text⟩)

/-- Make a directory with all those above it; one that is there already is fine, and those
that were made before a failure stay.  The fuel bounds how many are made. -/
def makeDirectoriesFrom (cwd : Location) : Nat → FileTree → Path → FileTree × Option FileError
  | 0, t, _ => (t, none)
  | fuel + 1, t, p =>
    match t.makeDirectory cwd p.text with
    | .ok t => (t, none)
    | .error .missing =>
      if p.parent == p then (t, some ⟨.missing, p.text⟩)
      else
        match makeDirectoriesFrom cwd fuel t p.parent with
        | (t, some e) => (t, some e)
        | (t, none) =>
          match t.makeDirectory cwd p.text with
          | .ok t => (t, none)
          | .error .missing => (t, some ⟨.missing, p.text⟩)
          | .error fault => t.keepDirectory cwd p fault
    | .error fault => t.keepDirectory cwd p fault

def makeDirectories (t : FileTree) (cwd : Location) (p : Path) : FileTree × Option FileError :=
  makeDirectoriesFrom cwd (p.segments.length + 1) t p

/-- Where something stands when one location has got the name of another. -/
def renamed (source target l : Location) : Location :=
  match source.isPrefixOf? l with
  | some names => target ++ names
  | none => l

/-- Give what stands at one location, with all that stands below it, the name of another, in
place of what was there. -/
def rename (t : FileTree) (source target : Location) : FileTree :=
  let others := t.nodes.filter fun e => e.1 != target
  { t with nodes := others.map fun e => (renamed source target e.1, e.2) }

/-- Give what one path names the name at another, in place of a file or a link that has it.
Links at the ends are not followed.  No directory takes the place of something else. -/
def move (t : FileTree) (cwd : Location) (source target : String) :
    Except FileFault FileTree :=
  match t.locate cwd .name source, t.locate cwd .name target with
  | .error fault, _ => .error fault
  | .ok (.absent _), _ => .error .missing
  | .ok (.node _ _), .error fault => .error fault
  | .ok (.node l _), .ok (.absent k) => .ok (t.rename l k)
  | .ok (.node _ _), .ok (.node _ .directory) => .error .isDirectory
  | .ok (.node _ .directory), .ok (.node _ _) => .error .notDirectory
  | .ok (.node l _), .ok (.node k _) => .ok (t.rename l k)

/-- What stands below a location, each with the names that lead there. -/
def below (t : FileTree) (l : Location) : List (Location × Node) :=
  t.nodes.filterMap fun e =>
    match l.isPrefixOf? e.1 with
    | some [] | none => none
    | some names => some (names, e.2)

end FileTree

end FindingLedger
