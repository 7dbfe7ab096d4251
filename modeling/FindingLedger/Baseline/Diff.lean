/-
Live findings against a baseline.

The findings of every file fall into two lists, those that the baseline suppresses
and those that are new, each in the order of the live ones.  A file is listed in a
part when it has findings there.
-/
import FindingLedger.Baseline.Basic

namespace FindingLedger

/-- Live findings, parted by a baseline. -/
structure Diff where
  fresh : Findings
  suppressed : Findings

namespace Diff

def empty : Diff := ⟨[], []⟩

/-- The number of new findings. -/
def freshCount (d : Diff) : Nat := d.fresh.count

/-- The number of findings that the baseline suppresses. -/
def suppressedCount (d : Diff) : Nat := d.suppressed.count

def hasFresh (d : Diff) : Bool := 0 < d.freshCount

/-- Part the findings of one file: the new ones, and those among the known ones. -/
def part (known : List Finding) : List Finding → Except RuleFault (List Finding × List Finding)
  | [] => .ok ([], [])
  | f :: rest => do
    let isKnown ← Finding.isAmong known f
    let (fresh, suppressed) ← part known rest
    .ok (if isKnown then (fresh, f :: suppressed) else (f :: fresh, suppressed))

def list (file : String) (findings : List Finding) (rest : Findings) : Findings :=
  if findings.isEmpty then rest else (file, findings) :: rest

end Diff

/-- Compare live findings with a baseline. -/
def Baseline.diff (b : Baseline) : Findings → Except RuleFault Diff
  | [] => .ok .empty
  | (file, findings) :: rest => do
    let (fresh, suppressed) ← Diff.part (b.suppressed file) findings
    let d ← b.diff rest
    .ok ⟨Diff.list file fresh d.fresh, Diff.list file suppressed d.suppressed⟩

end FindingLedger
