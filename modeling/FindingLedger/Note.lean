/-
Notes that a component makes while it works, for whoever keeps a journal.
-/
import FindingLedger.Datum

namespace FindingLedger

/-- How much a note matters. -/
inductive Level
  | debug | info | warning | error
deriving DecidableEq, Repr

def Level.word : Level → String
  | .debug => "debug"
  | .info => "info"
  | .warning => "warning"
  | .error => "error"

/-- The rank of a level: the more a note matters, the higher. -/
def Level.rank : Level → Nat
  | .debug => 10
  | .info => 20
  | .warning => 30
  | .error => 40

/-- A note: a message, and named values that go with it. -/
structure Note where
  level : Level
  message : String
  context : List (String × Datum)

end FindingLedger
