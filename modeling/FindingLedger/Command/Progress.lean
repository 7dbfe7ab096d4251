/-
How far a run of the program has come, and how it ends.
-/
import FindingLedger.Baseline.Load
import FindingLedger.Console.Markup
import FindingLedger.Journal.Basic
import FindingLedger.Results
import FindingLedger.Settings.Load

namespace FindingLedger

namespace Command

/-- What a run takes from its surroundings. -/
structure Surroundings where
  cwd : Location
  home : Path
  environment : Environment
  now : Moment

/-- Why a run breaks off without a word to the user. -/
inductive RunFault
  | file (e : FileError)
  | settings (f : Settings.LoadFault)
  | results (f : ResultsFault)
  | rule (f : RuleFault)
  /-- A value to be printed that is no text; its type. -/
  | notText (typeName : String)
  /-- A broken text to be printed. -/
  | notEncodable
  /-- A path of the baseline that is blank. -/
  | blankPath

def RunFault.message : RunFault → String
  | .file e => e.message
  | .settings f => f.message
  | .results f => f.message
  | .rule f => f.message
  | .notText typeName => s!"expected string or bytes-like object, got '{typeName}'"
  | .notEncodable => "surrogates not allowed"
  | .blankPath => Baseline.blankPath

/-- How a run ends. -/
inductive Ending
  | exit (status : Nat)
  | crash (f : RunFault)

/-- The status of a run that went well. -/
def success : Nat := 0

/-- The status of a run that found new findings. -/
def newFindings : Nat := 1

/-- The status of a run that could not be followed. -/
def misuse : Nat := 2

/-- The status of a run without a baseline that can be used. -/
def noBaseline : Nat := 3

/-- How far a run has come: the file system, the journal, and the lines on the two
outputs. -/
structure Progress where
  tree : FileTree
  journal : Journal
  shown : List String
  told : List String

namespace Progress

def «show» (p : Progress) (ls : List String) : Progress := { p with shown := p.shown ++ ls }

/-- Write lines to the other output. -/
def tell (p : Progress) (ls : List String) : Progress := { p with told := p.told ++ ls }

def print (p : Progress) (marked : String) : Progress :=
  p.show ((Markup.lines marked).map String.ofList)

def setUp (s : Surroundings) (p : Progress) (setup : JournalSetup) :
    Progress × Option FileError :=
  let (tree, journal, fault) := p.journal.setUp p.tree s.cwd setup
  ({ p with tree, journal }, fault)

/-- Write notes of a component into the journal. -/
def note (s : Surroundings) (p : Progress) (c : Component) (notes : List Note) : Progress :=
  let records := notes.map fun n => c.record n none
  let (tree, journal, told) := p.journal.takeAll s.now records p.tree
  { p with tree, journal, told := p.told ++ told }

end Progress

end Command

end FindingLedger
