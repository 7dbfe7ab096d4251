/-
Records of a journal, and the lines that they are written as.

A record is written in one of four forms: as an object of JSON on one line, as a line
of a file with its parts between bars, as lines of a console with the message in a
column of its own, or bare.
-/
import FindingLedger.Json.Write
import FindingLedger.Note
import FindingLedger.Text.Screen

namespace FindingLedger

/-- A record: who made it, how much it matters, what it says, named values that go with
it, and what went wrong. -/
structure Record where
  logger : String
  rank : Nat
  message : String
  context : Datum
  exception : Option String

/-- A component that makes records, and the part of the program that it belongs to. -/
structure Component where
  name : String
  parent : Option String
deriving DecidableEq, Repr

namespace Component

/-- The name that all names of loggers start with. -/
def root : String := "lintbaseline"

def logger (c : Component) : String :=
  ".".intercalate ([root, c.parent.getD "", c.name].filter fun p => !p.isEmpty)

/-- A message followed by named values. -/
def messageWith (message : String) (context : List (String × Datum)) : String :=
  " | ".intercalate (message :: context.map fun e => s!"{e.1}={e.2.display}")

def record (c : Component) (n : Note) (exception : Option String) : Record :=
  let named : List (Scalar × Datum) := n.context.map fun e => (.text e.1, e.2)
  { logger := c.logger
    rank := n.level.rank
    message := messageWith n.message n.context
    context := .dict (Datum.ofEntries ((.text "component", .text c.name) :: named))
    exception }

/-- What a record tells of a value that was given in place of an exception: that there
was none.  Of a value that counts as nothing it tells nothing. -/
def absentException (v : Datum) : Option String :=
  if v.truthy then some "NoneType: None" else none

end Component

def rankNames : List (Nat × String) :=
  [(0, "NOTSET"), (10, "DEBUG"), (20, "INFO"), (30, "WARNING"), (40, "ERROR"),
   (50, "CRITICAL")]

def rankName (rank : Nat) : String := (rankNames.lookup rank).getD s!"Level {rank}"

namespace Moment

/-- A point in time with its day, the letter between day and time, its parts of a
second, and its offset. -/
def iso (m : Moment) : String :=
  let micro := if m.micro == 0 then "" else "." ++ padded 6 m.micro
  let clock := s!"{padded 2 m.hour}:{padded 2 m.minute}:{padded 2 m.second}"
  s!"{m.day.display}T{clock}{micro}{displayOffset (m.offset.getD 0)}"

/-- A point in time to the thousandth of a second. -/
def stamp (m : Moment) : String :=
  let clock := s!"{padded 2 m.hour}:{padded 2 m.minute}:{padded 2 m.second}"
  s!"{m.day.display} {clock},{padded 3 (m.micro / 1000)}"

/-- A point in time between brackets, month first. -/
def bracketed (m : Moment) : String :=
  let day := s!"{padded 2 m.day.month}/{padded 2 m.day.day}/{padded 2 (m.day.year % 100)}"
  s!"[{day} {padded 2 m.hour}:{padded 2 m.minute}:{padded 2 m.second}]"

end Moment

namespace Record

def withBelow (text : String) : Option String → String
  | none => text
  | some below => text ++ "\n" ++ below

/-- The record as an object of JSON.  The context is left out when it says nothing. -/
def object (r : Record) (now : Moment) : List (Scalar × Datum) :=
  [(.text "timestamp", .text now.iso), (.text "level", .text (rankName r.rank)),
   (.text "logger", .text r.logger), (.text "message", .text r.message)] ++
    (if r.context.truthy then [(.text "context", r.context)] else []) ++
    (r.exception.map fun e => ((.text "exception", .text e) : Scalar × Datum)).toList

def jsonLine (r : Record) (now : Moment) : String :=
  String.ofList (Json.write (.dict (r.object now)))

def fileLine (r : Record) (now : Moment) : String :=
  withBelow (" | ".intercalate [now.stamp, r.logger, rankName r.rank, r.message]) r.exception

/-- The record as it is shown where no journal is set up. -/
def bareLine (r : Record) : String := withBelow r.message r.exception

/-- The record as lines of a console: in front of the message stand the time and the
name of the rank, and below them blanks. -/
def consoleLines (r : Record) (now : Moment) : List String :=
  let rank := (rankName r.rank).toList.rightpad 8 ' '
  let front := now.bracketed.toList ++ ' ' :: rank ++ [' ']
  ((Text.screenLines r.bareLine.toList).zipIdx).map fun (line, i) =>
    let front := if i == 0 then front else List.replicate front.length ' '
    String.ofList (Text.trimEnd (front ++ line))

end Record

end FindingLedger
