/-
Baseline documents.

A file element names a file; the error elements below it, at any depth, are its
accepted findings.  Namespaces and all other elements and attributes play no role.
-/
import FindingLedger.Baseline.Basic
import FindingLedger.Xml.Document

namespace FindingLedger

namespace Baseline

/-- Why a document is no baseline document. -/
inductive DocumentFault
  /-- It is no document at all. -/
  | malformed (e : Xml.Error)
  /-- Its bytes could not be read; what the reader of the bytes said. -/
  | unreadable (text : String)
  /-- An error element of a file lacks an attribute. -/
  | missing (file : String) (attributeName : String)
  /-- An attribute of an error element of a file is no numeral. -/
  | notNumeral (file : String) (e : NumeralError)
deriving DecidableEq, Repr

def DocumentFault.message : DocumentFault → String
  | .malformed e => s!"Malformed baseline document: {e.message}"
  | .unreadable text => s!"Unable to read baseline document: {text}"
  | .missing file attributeName =>
    s!"Error element in file '{file}' misses attribute {Text.quoted attributeName}"
  | .notNumeral file e =>
    s!"Error element in file '{file}' has a non-numeric position: {e.message}"

/-- The findings of a baseline document, and how many of its rule ids named no rule
set. -/
structure Document where
  files : Findings
  legacy : Nat

namespace Document

def empty : Document := ⟨[], 0⟩

def position (file : String) (e : Element) (attributeName : String) :
    Except DocumentFault Int :=
  match e.attribute? attributeName with
  | none => .error (.missing file attributeName)
  | some value => (Numeral.read value).mapError (.notNumeral file)

/-- The finding of an error element of a file, and whether its rule id named no rule
set. -/
def findingOf (file : String) (e : Element) : Except DocumentFault (Finding × Bool) := do
  let line ← position file e "line"
  let column ← position file e "column"
  let source := (e.attribute? "source").getD ""
  .ok (⟨line, column, .text (RuleId.normalize source), .text "", .inBaseline⟩,
    !RuleId.hasSet source)

def findingsOf (file : String) : List Element → Except DocumentFault (List (Finding × Bool))
  | [] => .ok []
  | e :: rest => do
    let f ← findingOf file e
    let fs ← findingsOf file rest
    .ok (f :: fs)

/-- Add the findings of a file element; a later element of the same file takes the place
of an earlier one. -/
def addFile (d : Document) (e : Element) : Except DocumentFault Document := do
  let file := (e.attribute? "name").getD ""
  let fs ← findingsOf file (e.named "error")
  .ok ⟨Keyed.put file (fs.map (·.1)) d.files, d.legacy + (fs.filter (·.2)).length⟩

/-- Add the findings of file elements. -/
def addFiles (d : Document) : List Element → Except DocumentFault Document
  | [] => .ok d
  | e :: rest => do
    let d ← d.addFile e
    d.addFiles rest

def ofElement (root : Element) : Except DocumentFault Document :=
  empty.addFiles (root.named "file")

def ofBytes (bs : List UInt8) : Except DocumentFault Document :=
  match Xml.read bs with
  | .error e => .error (.malformed e)
  | .ok root => ofElement root

/-- The baseline document of bytes whose reader fails behind them.  What the document
says is never known, but a fault in the bytes shows before the failure. -/
def ofBrokenBytes (bs : List UInt8) (text : String) : Except DocumentFault Document :=
  match Xml.read bs with
  | .error e => .error (if e.isAtEnd then .unreadable text else .malformed e)
  | .ok _ => .error (.unreadable text)

def count (d : Document) : Nat := d.files.count

end Document

end Baseline

end FindingLedger
