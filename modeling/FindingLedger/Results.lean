/-
Lint results: an object of JSON with a list of findings for every file.
-/
import FindingLedger.Baseline.Basic
import FindingLedger.FileTree
import FindingLedger.Json.Read
import FindingLedger.Text.Utf8

namespace FindingLedger

/-- Why there are no lint results. -/
inductive ResultsFault
  | unreadable (e : FileError)
  | encoding (e : Utf8Error)
  | json (e : Json.Error)
  /-- The value is no object. -/
  | notObject
  /-- What stands for the findings of a file has no members; its type. -/
  | notIterable (typeName : String)
  | finding (f : FindingFault)
deriving DecidableEq, Repr

def ResultsFault.message : ResultsFault → String
  | .unreadable e => e.message
  | .encoding e => e.message
  | .json e => e.message
  | .notObject => "Expected a JSON object mapping file paths to lint errors"
  | .notIterable typeName => s!"'{typeName}' object is not iterable"
  | .finding f => f.message

/-- Whether the fault is told to the user; a status that is no text, a position without
bounds and collections inside of too many others are not expected. -/
def ResultsFault.isExpected : ResultsFault → Bool
  | .finding (.statusType _) | .finding .infinite => false
  | .json e => e.isOfText
  | _ => true

/-- Lint results by file.  A file whose name is broken is a stray: no baseline lists it. -/
structure Results where
  files : Findings
  strays : List (BrokenText × List Finding)

namespace Results

/-- The members of the value that stands for the findings of a file: the characters of a
text, the names of an object. -/
def membersOf : Datum → Except ResultsFault (List Datum)
  | .list items | .tuple items => .ok items
  | .scalar (.text s) => .ok (s.toList.map fun c => .text c.toString)
  | .scalar (.broken t) => .ok (t.glyphs.map fun g => .scalar (.ofGlyphs [g]))
  | .scalar (.bytes bs) => .ok (bs.map fun b => .int b.toNat)
  | .dict entries => .ok (entries.map fun e => .scalar e.1)
  | .set items => .ok (items.map .scalar)
  | v => .error (.notIterable v.typeName)

/-- The findings that members stand for. -/
def findingsOf : List Datum → Except ResultsFault (List Finding)
  | [] => .ok []
  | v :: rest => do
    let f ← (Finding.ofDatum v).mapError .finding
    let fs ← findingsOf rest
    .ok (f :: fs)

/-- The findings of all files, each with what stands for its name. -/
def ofEntries : List (Scalar × Datum) → Except ResultsFault (List (Scalar × List Finding))
  | [] => .ok []
  | (file, v) :: rest => do
    let members ← membersOf v
    let fs ← findingsOf members
    let others ← ofEntries rest
    .ok ((file, fs) :: others)

/-- The name that a scalar stands for, if it is not broken. -/
def name? : Scalar → Option String
  | .broken _ => none
  | s => some s.display

/-- The broken name that a scalar stands for, if it is one. -/
def stray? : Scalar → Option BrokenText
  | .broken t => some t
  | _ => none

def ofFindings (fs : List (Scalar × List Finding)) : Results where
  files := fs.filterMap fun e => (name? e.1).map (·, e.2)
  strays := fs.filterMap fun e => (stray? e.1).map (·, e.2)

/-- The lint results that a value stands for. -/
def ofDatum : Datum → Except ResultsFault Results
  | .dict entries => (ofEntries entries).map ofFindings
  | _ => .error .notObject

/-- The first finding of the first stray that has one, in the order of the names. -/
def firstStray? (r : Results) : Option (BrokenText × Finding) :=
  ((r.strays.filterMap fun e => e.2.head?.map (e.1, ·)).mergeSort
    fun a b => !b.1.precedes a.1).head?

/-- The lint results in the bytes of a file. -/
def ofBytes (bytes : List UInt8) : Except ResultsFault Results := do
  let text ← (Utf8.decodeLines bytes).mapError .encoding
  let v ← (Json.read text).mapError .json
  ofDatum v

def ofFile (t : FileTree) (cwd : Location) (path : Path) : Except ResultsFault Results :=
  match t.read cwd path.text with
  | .error fault => .error (.unreadable ⟨fault, path.text⟩)
  | .ok bytes => ofBytes bytes.toList

/-- The value that stands for findings by file. -/
def toDatum (fs : Findings) : Datum :=
  .dict (fs.map fun f => (.text f.1, .list (f.2.map Finding.toDatum)))

end Results

end FindingLedger
