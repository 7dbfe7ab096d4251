/-
A journal: where records are written to.

A journal is set up with a console and perhaps a file.  The console takes the records
that matter enough, the file takes all of them.  A file that has grown too large is
put aside under a numbered name before the next record is written.
-/
import FindingLedger.FileTree
import FindingLedger.Journal.Record
import FindingLedger.Settings.Basic
import FindingLedger.Text.Utf8

namespace FindingLedger

/-- A file that records are appended to.  The identity is that of the file that is
open. -/
structure JournalFile where
  path : String
  id : Nat
  json : Bool
  maxBytes : Int
  backups : Int
deriving DecidableEq, Repr

/-- Where records go. -/
inductive Sink
  | console (rank : Nat) (json : Bool)
  | file (f : JournalFile)
deriving DecidableEq, Repr

/-- A journal.  Rank zero stands for the rank of the surroundings, and a journal that
passes on also tells these. -/
structure Journal where
  sinks : List Sink
  rank : Nat
  passesOn : Bool
deriving DecidableEq, Repr

/-- How a journal is set up. -/
structure JournalSetup where
  rank : Nat
  file : Option Path
  json : Bool
  maxFileSize : Int
  backups : Int
deriving DecidableEq, Repr

namespace Journal

/-- The journal that was never set up. -/
def unset : Journal := ⟨[], 0, true⟩

/-- The rank from which on the surroundings show records. -/
def surroundingRank : Nat := 30

def lowestRank : Nat := 10

/-- The rank where another name is given than those known. -/
def usualRank : Nat := 20

/-- Names of ranks that are no names of thresholds. -/
def otherRanks : List (String × Nat) := [("WARN", 30), ("FATAL", 50), ("NOTSET", 0)]

def thresholdRank : Threshold → Nat
  | .debug => 10
  | .info => 20
  | .warning => 30
  | .error => 40
  | .critical => 50

/-- The rank that a word stands for, in whatever case. -/
def rankOf (word : String) : Nat :=
  match Threshold.named? word with
  | some t => thresholdRank t
  | none => (otherRanks.lookup (Text.upper word)).getD usualRank

/-- The file with a name; an empty name stands for none. -/
def fileNamed? (name : String) : Option Path :=
  if name.isEmpty then none else some (.ofString name)

def setupOf (s : JournalSettings) : JournalSetup :=
  ⟨thresholdRank s.level, s.file, s.jsonFormat, s.maxFileSize, s.backupCount⟩

/-- The number of bytes in a unit of file sizes. -/
def sizeUnit : Int := 1024 * 1024

/-- The absolute path of a file, its points resolved without regard to links. -/
def absolute (cwd : Location) (p : Path) : String :=
  let base : Path := ⟨.root, cwd⟩
  let joined := base.join p
  Path.text ⟨joined.anchor, Path.resolved joined.segments⟩

/-- Open the file of a journal; directories above it are made. -/
def openFile (t : FileTree) (cwd : Location) (s : JournalSetup) (p : Path) :
    Except (FileTree × FileError) (FileTree × JournalFile) :=
  match t.makeDirectories cwd p.parent with
  | (t, some e) => .error (t, e)
  | (t, none) =>
    let path := absolute cwd p
    match t.openFile cwd path with
    | .error fault => .error (t, ⟨fault, path⟩)
    | .ok (t, id) => .ok (t, ⟨path, id, s.json, s.maxFileSize * sizeUnit, s.backups⟩)

/-- Set a journal up anew.  When its file can not be opened, the console is set up and
the rest stays as it was. -/
def setUp (j : Journal) (t : FileTree) (cwd : Location) (s : JournalSetup) :
    FileTree × Journal × Option FileError :=
  let console := Sink.console s.rank s.json
  match s.file with
  | none => (t, ⟨[console], s.rank, false⟩, none)
  | some p =>
    match openFile t cwd s p with
    | .ok (t, f) => (t, ⟨[console, .file f], lowestRank, false⟩, none)
    | .error (t, e) => (t, { j with sinks := [console] }, some e)

/-- The rank from which on the journal takes records. -/
def effectiveRank (j : Journal) : Nat := if j.rank == 0 then surroundingRank else j.rank

def takes (j : Journal) (r : Record) : Bool := j.effectiveRank ≤ r.rank

/-- The name that a file gets when it is put aside. -/
def asideName (path : String) (n : Nat) : String := s!"{path}.{n}"

/-- Whether there is something at an absolute path. -/
def isThere (t : FileTree) (path : String) : Bool :=
  match t.holds [] path with
  | .ok b => b
  | .error _ => false

/-- Remove what has a name that is to be given anew.  A directory can not be removed. -/
def clear (t : FileTree) (path : String) : Except FileFault FileTree :=
  if isThere t path then t.unlink [] path else .ok t

/-- Move every file that was put aside on by one, the oldest first; `n` are left.  It ends at
the first that can not be moved, with what is done by then. -/
def moveAside (path : String) : Nat → FileTree → Except FileTree FileTree
  | 0, t => .ok t
  | n + 1, t =>
    let source := asideName path (n + 1)
    let target := asideName path (n + 2)
    if isThere t source then
      match clear t target with
      | .error _ => .error t
      | .ok t =>
        match t.move [] source target with
        | .error _ => .error t
        | .ok t => moveAside path n t
    else moveAside path n t

/-- Put a file aside, after those that were put aside before. -/
def putAside (t : FileTree) (f : JournalFile) : Except FileTree FileTree :=
  match moveAside f.path (f.backups.toNat - 1) t with
  | .error t => .error t
  | .ok t =>
    match clear t (asideName f.path 1) with
    | .error _ => .error t
    | .ok t =>
      if isThere t f.path then (t.move [] f.path (asideName f.path 1)).mapError fun _ => t
      else .ok t

/-- Put a file aside, and open a new one under its name.  Without backups the file
stays. -/
def rotate (t : FileTree) (f : JournalFile) : Except FileTree (FileTree × JournalFile) :=
  match if 0 < f.backups then putAside t f else .ok t with
  | .error t => .error t
  | .ok t =>
    match t.openFile [] f.path with
    | .error _ => .error t
    | .ok (t, id) => .ok (t, { f with id })

/-- Whether the name of a file stands for a directory now. -/
def isHidden (t : FileTree) (f : JournalFile) : Bool :=
  match t.holdsDirectory [] f.path with
  | .ok b => b
  | .error _ => false

/-- Whether a file has to be put aside before a line is written. -/
def isFull (t : FileTree) (f : JournalFile) (line : String) : Bool :=
  !isHidden t f && 0 < f.maxBytes && f.maxBytes ≤ (t.bytesOf f.id).size + line.length

/-- Append a line to a file.  It is lost where the file has to be put aside and can not
be. -/
def append (t : FileTree) (f : JournalFile) (line : String) : FileTree × JournalFile :=
  match if isFull t f line then rotate t f else .ok (t, f) with
  | .error t => (t, f)
  | .ok (t, f) => (t.setBytes f.id (t.bytesOf f.id ++ line.toUTF8), f)

/-- Write a record to a sink; the lines that the console shows. -/
def write (now : Moment) (r : Record) (t : FileTree) :
    Sink → FileTree × Sink × List String
  | .console rank json =>
    let shown :=
      if r.rank < rank then []
      else if json then [r.jsonLine now]
      else r.consoleLines now
    (t, .console rank json, shown)
  | .file f =>
    let line := if f.json then r.jsonLine now else r.fileLine now
    let (t, f) := append t f (line ++ "\n")
    (t, .file f, [])

def writeAll (now : Moment) (r : Record) (t : FileTree) :
    List Sink → FileTree × List Sink × List String
  | [] => (t, [], [])
  | s :: rest =>
    let (t, s, shown) := write now r t s
    let (t, rest, more) := writeAll now r t rest
    (t, s :: rest, shown ++ more)

/-- Take a record; the lines that are shown.  Where nothing is set up a record is shown
bare. -/
def take (j : Journal) (now : Moment) (r : Record) (t : FileTree) :
    FileTree × Journal × List String :=
  if !j.takes r then (t, j, [])
  else if j.sinks.isEmpty then (t, j, [r.bareLine])
  else
    let (t, sinks, shown) := writeAll now r t j.sinks
    (t, { j with sinks }, shown)

def takeAll (j : Journal) (now : Moment) (rs : List Record) (t : FileTree) :
    FileTree × Journal × List String :=
  rs.foldl
    (fun (t, j, shown) r =>
      let (t, j, more) := j.take now r t
      (t, j, shown ++ more))
    (t, j, [])

end Journal

end FindingLedger
