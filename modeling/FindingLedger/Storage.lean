/-
Places that keep files, as far as they are asked for one file here.

A storage may refuse whatever it is asked, with a text that says why, and a file that was
opened need not be read to its end.  The file system of this library is one of them.
-/
import FindingLedger.FileTree

namespace FindingLedger

/-- What is read of a file that was opened. -/
inductive FileContent
  /-- All of its bytes. -/
  | whole (bytes : List UInt8)
  /-- The bytes before reading failed, and what was said then. -/
  | broken (bytes : List UInt8) (text : String)
deriving DecidableEq, Repr

/-- A place that keeps files.  What it refuses leaves it as it is. -/
structure Storage (σ : Type) where
  /-- Whether there is something at a path, links followed. -/
  holds : σ → String → Except String Bool
  /-- What is read of the file at a path, if it can be opened. -/
  read : σ → String → Except String FileContent
  /-- The state in which the name at the end of a path is removed. -/
  unlink : σ → String → Except String σ

/-- A file system as seen from a working directory.  Files that can be opened are read to
their end. -/
def FileTree.storage (cwd : Location) : Storage FileTree where
  holds t path := (t.holds cwd path).mapError fun fault => FileError.message ⟨fault, path⟩
  read t path :=
    match t.read cwd path with
    | .error fault => .error (FileError.message ⟨fault, path⟩)
    | .ok bytes => .ok (.whole bytes.toList)
  unlink t path := (t.unlink cwd path).mapError fun fault => FileError.message ⟨fault, path⟩

end FindingLedger
