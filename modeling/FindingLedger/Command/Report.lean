/-
What the user is shown: the state of a baseline, its files, and new findings.
-/
import FindingLedger.Baseline.Diff
import FindingLedger.Command.Progress
import FindingLedger.Console.Table

namespace FindingLedger

namespace Command

/-- The name and the number of the version. -/
def version : String := "1.0.0"

def statusStyle : Baseline.Status → String
  | .disabled => "dim"
  | .valid => "green"
  | .notFound => "yellow"
  | .invalid => "red"

/-- The state of a baseline as a marked text. -/
def summary (b : Baseline) : String :=
  let path := match b.path with
    | some p => [s!"[bold]Path:[/] {Markup.escape p}"]
    | none => []
  let counts :=
    if b.status == .valid then
      [s!"[bold]Files:[/] {b.files.length}", s!"[bold]Lint errors:[/] {b.files.count}"]
    else []
  "\n".intercalate
    ([s!"[bold]Status:[/] [{statusStyle b.status}]{b.status.name}[/]"] ++ path ++ counts ++
      b.diagnostics.map fun d => s!"[yellow]{Markup.escape d}[/]")

/-- The state of a baseline in a frame. -/
def summaryLines (b : Baseline) : List String :=
  (Console.panel "Baseline" (Markup.lines (summary b))).map String.ofList

def inOrder (texts : List String) : List String :=
  (texts.mergeSort fun a b => a ≤ b).eraseDups

/-- The files of findings in the order of their names. -/
def byName (fs : Findings) : Findings := fs.mergeSort fun a b => a.1 ≤ b.1

def ruleSets (fs : List Finding) : List String :=
  inOrder (fs.map fun f => (RuleId.split f.rule.display).1)

def fileRow (file : String) (fs : List Finding) : List Console.Cell :=
  [Markup.lines (Markup.escape file), [(toString fs.length).toList],
    Markup.lines (Markup.escape (", ".intercalate (ruleSets fs)))]

def filesTable (b : Baseline) : Console.Table where
  title := "Lint Errors per File"
  columns := [⟨"File", false⟩, ⟨"Errors", true⟩, ⟨"Rule sets", false⟩]
  rows := (byName b.files).map fun f => fileRow f.1 f.2

/-- The table of the files of a baseline, line by line. -/
def filesLines (b : Baseline) : List String := (filesTable b).lines.map String.ofList

def versionLines : List String :=
  let content := s!"[bold]lintbaseline[/] v{version}\n\nBaselines of accepted lint errors"
  (Console.panel "Version Info" (Markup.lines content)).map String.ofList

/-- The marked text that a value is printed as; a broken text has none. -/
def printable (v : Datum) : Except RunFault (Option String) :=
  match v with
  | .scalar (.text s) => .ok (some (Markup.escape s))
  | .scalar (.broken _) => .ok none
  | v => .error (.notText v.typeName)

/-- A new finding of a file as a marked text.  That its values are texts is looked at before any
of them is encoded. -/
def findingText (file : String) (f : Finding) : Except RunFault String := do
  let detail ← printable f.detail
  let rule ← printable f.rule
  match detail, rule with
  | some detail, some rule =>
    .ok s!"[cyan]{Markup.escape file}[/]:{f.location}: {detail} [yellow]({rule})[/]"
  | _, _ => .error .notEncodable

/-- Why a finding of a stray can not be shown. -/
def strayFault (f : Finding) : RunFault :=
  match findingText "" f with
  | .error fault => fault
  | .ok _ => .notEncodable

/-- The counts of a diff as a marked text, below an empty line. -/
def countsText (d : Diff) : String :=
  s!"\n[bold]New:[/] {d.freshCount}  " ++
    s!"[bold]Suppressed by baseline:[/] {d.suppressedCount}"

end Command

end FindingLedger
