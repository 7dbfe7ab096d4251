/-
Loading a baseline from a file.

A file that is not there gives a baseline that says so.  One that is no baseline
document is deleted, so that it can be made anew.
-/
import FindingLedger.Baseline.Document
import FindingLedger.Journal.Record
import FindingLedger.Settings.Basic
import FindingLedger.Storage

namespace FindingLedger

namespace Baseline

/-- What is said of a baseline file that could not be opened. -/
def unopenableText (text : String) : String := s!"Unable to open baseline file: {text}"

/-- Why there is no baseline document at a path. -/
inductive FileFault
  /-- The file could not be opened. -/
  | unopenable (e : FileError)
  /-- It holds something else. -/
  | document (f : DocumentFault)
deriving DecidableEq, Repr

/-- What the fault says, without the path of the file. -/
def FileFault.reason : FileFault → String
  | .unopenable e => unopenableText e.message
  | .document f => f.message

def FileFault.message (f : FileFault) (path : Path) : String :=
  s!"{f.reason}\nPath: {path.text}"

def Document.ofFile (t : FileTree) (cwd : Location) (path : Path) : Except FileFault Document :=
  match t.read cwd path.text with
  | .error fault => .error (.unopenable ⟨fault, path.text⟩)
  | .ok bytes => (Document.ofBytes bytes.toList).mapError .document

/-- Why the file at a path is refused. -/
structure Refusal where
  fault : FileFault
  path : Path
deriving DecidableEq, Repr

def Refusal.message (r : Refusal) : String := r.fault.message r.path

/-- The baseline document in the file at a path, or a refusal that tells the path. -/
def Document.atPath (t : FileTree) (cwd : Location) (path : Path) : Except Refusal Document :=
  (ofFile t cwd path).mapError fun fault => ⟨fault, path⟩

def Document.ofContent : FileContent → Except DocumentFault Document
  | .whole bytes => ofBytes bytes
  | .broken bytes text => ofBrokenBytes bytes text

/-- The baseline document that a storage has at a path, or the reason why there is none. -/
def Document.ofStorage {σ : Type} (st : Storage σ) (s : σ) (path : Path) :
    Except String Document :=
  match st.read s path.text with
  | .error text => .error (unopenableText text)
  | .ok r => (Document.ofContent r).mapError DocumentFault.message

/-- A file system is a storage in which the same documents are found. -/
theorem Document.ofStorage_storage (t : FileTree) (cwd : Location) (path : Path) :
    ofStorage (FileTree.storage cwd) t path = (ofFile t cwd path).mapError FileFault.reason := by
  rw [ofStorage, ofFile]
  dsimp only [FileTree.storage]
  cases t.read cwd path.text with
  | error fault => rfl
  | ok bytes =>
    dsimp only [ofContent]
    cases ofBytes bytes.toList <;> rfl

/-- What an attempt to load a baseline comes to: the storage afterwards, the baseline, and
the notes made on the way. -/
structure Attempt (σ : Type) where
  tree : σ
  baseline : Baseline
  notes : List Note

/-- What loading a baseline from the file system comes to. -/
abbrev Loaded := Attempt FileTree

def blankPath : String := "Path for loading baseline may not be blank or empty"

/-- What the user is told about rule ids without a rule set. -/
def legacyMessage (path : String) (count : Nat) : String :=
  s!"Baseline file '{path}' contains {count} reference(s) " ++
    "to rule ids without a rule set id. For those references the rule set id " ++
    "'standard' is assumed. It is advised to regenerate this baseline file."

/-- What the user is told about a file that is no baseline document. -/
def unparsedMessage (path reason : String) : String :=
  s!"Unable to parse baseline file: {path} ({reason})"

/-- What the user is told about a file that can not be deleted. -/
def undeletedMessage (path reason : String) : String :=
  s!"Unable to delete baseline file: {path} ({reason})"

section Attempt

variable {σ : Type}

def ofDocument (s : σ) (path : String) (d : Document) : Attempt σ :=
  let message := legacyMessage path d.legacy
  let diagnostics := if 0 < d.legacy then [message] else []
  let loaded : Note := ⟨.debug, "Baseline loaded",
    [("path", .text path), ("files", .int d.files.length), ("errors", .int d.count)]⟩
  ⟨s, valid path d.files d.legacy diagnostics,
    diagnostics.map (fun m => ⟨.warning, m, []⟩) ++ [loaded]⟩

/-- What is noted about a file that is no baseline document. -/
def unparsedNote (path reason : String) : Note :=
  ⟨.error, "Unable to parse baseline file", [("path", .text path), ("reason", .text reason)]⟩

/-- The baseline of a file that is no baseline document and was deleted. -/
def ofDeleted (s : σ) (path reason : String) : Attempt σ :=
  ⟨s, invalid path [unparsedMessage path reason],
    [unparsedNote path reason,
      ⟨.info, "Deleted invalid baseline file", [("path", .text path)]⟩]⟩

/-- The baseline of a file that is no baseline document and can not be deleted. -/
def ofUndeleted (s : σ) (path reason refusal : String) : Attempt σ :=
  ⟨s, invalid path [unparsedMessage path reason, undeletedMessage path refusal],
    [unparsedNote path reason,
      ⟨.error, "Unable to delete baseline file",
        [("path", .text path), ("reason", .text refusal)]⟩]⟩

/-- The baseline of a file that is no baseline document, which is deleted. -/
def ofReason (st : Storage σ) (s : σ) (path reason : String) : Attempt σ :=
  match st.unlink s (Path.ofString path).text with
  | .ok s => ofDeleted s path reason
  | .error refusal => ofUndeleted s path reason refusal

/-- The baseline of a path where nothing is found. -/
def ofAbsence (s : σ) (path : String) (notes : List Note) : Attempt σ :=
  ⟨s, notFound path,
    notes ++ [⟨.debug, "Baseline file not found", [("path", .text path)]⟩]⟩

/-- Try to load the baseline at a path that is not blank. -/
def attempt (st : Storage σ) (s : σ) (path : String) : Attempt σ :=
  let target := Path.ofString path
  match st.holds s target.text with
  | .error reason =>
    ofAbsence s path [⟨.debug, "Baseline file can not be accessed",
      [("path", .text path), ("reason", .text reason)]⟩]
  | .ok false => ofAbsence s path []
  | .ok true =>
    match Document.ofStorage st s target with
    | .ok d => ofDocument s path d
    | .error reason => ofReason st s path reason

/-- Try to load the baseline at a path; there is none at a blank path. -/
def attempt? (st : Storage σ) (s : σ) (path : String) : Option (Attempt σ) :=
  if Text.isBlankText path then none else some (attempt st s path)

end Attempt

/-- The baseline of a file of the file system that is no baseline document. -/
def ofFault (t : FileTree) (cwd : Location) (path : String) (f : FileFault) : Loaded :=
  ofReason (FileTree.storage cwd) t path f.reason

/-- Load the baseline at a path of the file system that is not blank. -/
def loadAt (t : FileTree) (cwd : Location) (path : String) : Loaded :=
  attempt (FileTree.storage cwd) t path

/-- Load the baseline at a path of the file system; there is none at a blank path. -/
def load? (t : FileTree) (cwd : Location) (path : String) : Option Loaded :=
  attempt? (FileTree.storage cwd) t path

/-- Load the baseline that settings ask for: a disabled one when they turn it off. -/
def loadConfigured? (t : FileTree) (cwd : Location) (s : BaselineSettings) : Option Loaded :=
  if s.enabled then load? t cwd s.path.text else some ⟨t, disabled, []⟩

/-- A file of the file system that is no baseline document is deleted, if it can be. -/
theorem ofFault_eq (t : FileTree) (cwd : Location) (path : String) (f : FileFault) :
    ofFault t cwd path f =
      match t.unlink cwd (Path.ofString path).text with
      | .ok t => ofDeleted t path f.reason
      | .error fault =>
        ofUndeleted t path f.reason (FileError.message ⟨fault, (Path.ofString path).text⟩) := by
  rw [ofFault, ofReason]
  dsimp only [FileTree.storage]
  cases t.unlink cwd (Path.ofString path).text <;> rfl

/-- Loading from the file system looks whether something is there, then at the document. -/
theorem loadAt_eq (t : FileTree) (cwd : Location) (path : String) :
    loadAt t cwd path =
      match t.holds cwd (Path.ofString path).text with
      | .error fault =>
        ofAbsence t path [⟨.debug, "Baseline file can not be accessed",
          [("path", .text path),
            ("reason", .text (FileError.message ⟨fault, (Path.ofString path).text⟩))]⟩]
      | .ok false => ofAbsence t path []
      | .ok true =>
        match Document.ofFile t cwd (Path.ofString path) with
        | .ok d => ofDocument t path d
        | .error f => ofFault t cwd path f := by
  rw [loadAt, attempt]
  rw [Document.ofStorage_storage]
  dsimp only [FileTree.storage]
  rcases t.holds cwd (Path.ofString path).text with fault | isThere
  · rfl
  · cases isThere with
    | false => rfl
    | true => cases Document.ofFile t cwd (Path.ofString path) <;> rfl

/-- The component that loads baselines. -/
def loader : Component := ⟨"loader", some "baseline"⟩

end Baseline

end FindingLedger
