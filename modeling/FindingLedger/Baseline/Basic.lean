/-
Baselines: the findings that were accepted once, by file.

A baseline comes out of an attempt to load it.  Only a valid one holds findings, and
only a disabled one has no path; both are part of its type.
-/
import FindingLedger.Finding
import FindingLedger.Keyed

namespace FindingLedger

/-- Findings by file, in the order in which the files came. -/
abbrev Findings := List (String × List Finding)

namespace Findings

/-- The number of findings in all files. -/
def count : Findings → Nat
  | [] => 0
  | f :: rest => f.2.length + count rest

end Findings

/-- What came out of an attempt to load a baseline. -/
inductive Baseline.Status
  | disabled | valid | notFound | invalid
deriving DecidableEq, Repr

namespace Baseline.Status

def all : List Status := [disabled, valid, notFound, invalid]

def name : Status → String
  | disabled => "DISABLED"
  | valid => "VALID"
  | notFound => "NOT_FOUND"
  | invalid => "INVALID"

def word : Status → String
  | disabled => "disabled"
  | valid => "valid"
  | notFound => "not_found"
  | invalid => "invalid"

def ofWord? (s : String) : Option Status :=
  all.find? fun status => status.word == s

theorem ofWord?_word (status : Status) : ofWord? status.word = some status := by
  cases status <;> decide +kernel

/-- The status that a value stands for. -/
def ofDatum? : Datum → Option Status
  | .scalar (.text s) => ofWord? s
  | _ => none

/-- What is said of a value that stands for no status. -/
def refusal (v : Datum) : String :=
  s!"{v.quoted} is not a valid BaselineStatus"

/-- Whether a baseline of this status may suppress findings. -/
def suppresses : Status → Bool
  | valid => true
  | _ => false

end Baseline.Status

/-- The outcome of an attempt to load a baseline. -/
structure Baseline where
  status : Baseline.Status
  path : Option String
  files : Findings
  /-- The number of rule ids without a rule set that were read. -/
  legacy : Int
  /-- Messages for the user. -/
  diagnostics : List String
  files_of_not_valid : status ≠ .valid → files = []
  path_of_not_disabled : status ≠ .disabled → path.isSome

/-- Why parts make no baseline. -/
inductive BaselineFault
  | findings (status : Baseline.Status)
  | path (status : Baseline.Status)
deriving DecidableEq, Repr

def BaselineFault.message : BaselineFault → String
  | .findings status => s!"Baseline with status {status.name} can not contain lint errors"
  | .path status => s!"Baseline with status {status.name} requires a path"

namespace Baseline

/-- The baseline of given parts, if they fit together. -/
def make (status : Status) (path : Option String) (files : Findings) (legacy : Int)
    (diagnostics : List String) : Except BaselineFault Baseline :=
  if hf : status ≠ .valid → files = [] then
    if hp : status ≠ .disabled → path.isSome then
      .ok ⟨status, path, files, legacy, diagnostics, hf, hp⟩
    else .error (.path status)
  else .error (.findings status)

/-- The baseline of a consumer that asked for none. -/
def disabled : Baseline :=
  ⟨.disabled, none, [], 0, [], fun _ => rfl, fun h => absurd rfl h⟩

def notFound (path : String) : Baseline :=
  ⟨.notFound, some path, [], 0, [], fun _ => rfl, fun _ => rfl⟩

/-- The baseline of a file that could not be read. -/
def invalid (path : String) (diagnostics : List String) : Baseline :=
  ⟨.invalid, some path, [], 0, diagnostics, fun _ => rfl, fun _ => rfl⟩

def valid (path : String) (files : Findings) (legacy : Int) (diagnostics : List String) :
    Baseline :=
  ⟨.valid, some path, files, legacy, diagnostics, fun h => absurd rfl h, fun _ => rfl⟩

/-- The findings of a file; none for a file that is not in the baseline. -/
def findingsOf (b : Baseline) (file : String) : List Finding :=
  (b.files.lookup file).getD []

/-- The findings of a file that are suppressed: none unless the status allows it. -/
def suppressed (b : Baseline) (file : String) : List Finding :=
  if b.status.suppresses then b.findingsOf file else []

end Baseline

end FindingLedger
