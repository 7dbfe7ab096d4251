/-
Values that come from documents: configuration files, lint results, environment
variables and the command line.

A value is a scalar, a path, or a collection of values.  Dictionaries keep their
entries in the order of insertion, and their keys are scalars.  A collection that holds
itself is cut off where it is met again.
-/
import FindingLedger.Decimal.Whole
import FindingLedger.Text.Broken
import FindingLedger.Text.Numeral

namespace FindingLedger

/-- A calendar day. -/
structure Day where
  year : Nat
  month : Nat
  day : Nat
deriving DecidableEq, Repr

/-- A point in time; the offset from universal time is in seconds. -/
structure Moment where
  day : Day
  hour : Nat
  minute : Nat
  second : Nat
  micro : Nat
  offset : Option Int
deriving DecidableEq, Repr

/-- A value without parts; what a dictionary key can be. -/
inductive Scalar
  | null
  | bool (b : Bool)
  | int (n : Int)
  | float (x : Float)
  | text (s : String)
  | broken (t : BrokenText)
  | bytes (bs : List UInt8)
  | day (d : Day)
  | moment (m : Moment)
deriving DecidableEq, Repr

/-- Kinds of collections that may hold themselves. -/
inductive Cycle
  | list | dict
deriving DecidableEq, Repr

/-- A value of a document. -/
inductive Datum
  | scalar (s : Scalar)
  | path (text : String)
  | list (items : List Datum)
  | tuple (items : List Datum)
  | set (items : List Scalar)
  | dict (entries : List (Scalar × Datum))
  /-- A collection inside of itself. -/
  | again (cycle : Cycle)
deriving Inhabited

namespace Datum

abbrev null : Datum := .scalar .null

abbrev bool (b : Bool) : Datum := .scalar (.bool b)

abbrev int (n : Int) : Datum := .scalar (.int n)

abbrev text (s : String) : Datum := .scalar (.text s)

end Datum

def Scalar.ofGlyphs (gs : List Glyph) : Scalar :=
  match Glyph.assemble gs with
  | .inl t => .broken t
  | .inr s => .text s

def Scalar.typeName : Scalar → String
  | .null => "NoneType"
  | .bool _ => "bool"
  | .int _ => "int"
  | .float _ => "float"
  | .text _ | .broken _ => "str"
  | .bytes _ => "bytes"
  | .day _ => "date"
  | .moment _ => "datetime"

def Datum.typeName : Datum → String
  | .scalar s => s.typeName
  | .path _ => "PosixPath"
  | .list _ | .again .list => "list"
  | .tuple _ => "tuple"
  | .set _ => "set"
  | .dict _ | .again .dict => "dict"

/-- A day as the call that makes it. -/
def Day.quoted (d : Day) : String :=
  s!"datetime.date({d.year}, {d.month}, {d.day})"

/-- A duration in seconds as the call that makes it: whole days, which may be
negative, and the seconds of the last day. -/
def Moment.quotedSpan (seconds : Int) : String :=
  let days := Int.fdiv seconds 86400
  let rest := Int.fmod seconds 86400
  let parts := (if days == 0 then [] else [s!"days={days}"]) ++
    (if rest == 0 then [] else [s!"seconds={rest}"])
  let shown := if parts.isEmpty then "0" else ", ".intercalate parts
  s!"datetime.timedelta({shown})"

/-- A point in time as the call that makes it; zeros at the end are left out. -/
def Moment.quoted (m : Moment) : String :=
  let fields := [m.day.year, m.day.month, m.day.day, m.hour, m.minute] ++
    (if m.micro == 0 then if m.second == 0 then [] else [m.second] else [m.second, m.micro])
  let zone := match m.offset with
    | none => []
    | some 0 => ["tzinfo=datetime.timezone.utc"]
    | some seconds => [s!"tzinfo=datetime.timezone({quotedSpan seconds})"]
  let shown := ", ".intercalate (fields.map toString ++ zone)
  s!"datetime.datetime({shown})"

/-- A number with at least `width` digits. -/
def Moment.padded (width n : Nat) : String :=
  String.ofList (Decimal.padded width n)

/-- A day in the order year, month, day. -/
def Day.display (d : Day) : String :=
  s!"{Moment.padded 4 d.year}-{Moment.padded 2 d.month}-{Moment.padded 2 d.day}"

/-- The offset from universal time in hours and minutes, and seconds if it has any. -/
def Moment.displayOffset (seconds : Int) : String :=
  let n := seconds.natAbs
  let sign := if seconds < 0 then "-" else "+"
  let tail := if n % 60 == 0 then "" else ":" ++ padded 2 (n % 60)
  s!"{sign}{padded 2 (n / 3600)}:{padded 2 (n / 60 % 60)}{tail}"

/-- A point in time, day first. -/
def Moment.display (m : Moment) : String :=
  let micro := if m.micro == 0 then "" else "." ++ padded 6 m.micro
  let clock := s!"{padded 2 m.hour}:{padded 2 m.minute}:{padded 2 m.second}"
  let zone := (m.offset.map displayOffset).getD ""
  s!"{m.day.display} {clock}{micro}{zone}"

/-- A scalar as it is written in a program. -/
def Scalar.quoted : Scalar → String
  | .null => "None"
  | .bool true => "True"
  | .bool false => "False"
  | .int n => toString n
  | .float x => Decimal.ofFloat x
  | .text s => Text.quoted s
  | .broken t => Glyph.quoted t.glyphs
  | .bytes bs => Text.quotedBytes bs
  | .day d => d.quoted
  | .moment m => m.quoted

/-- A scalar as it is shown to a reader: texts stand for themselves, and halves for their
escapes. -/
def Scalar.display : Scalar → String
  | .text s => s
  | .broken t => t.escaped
  | .day d => d.display
  | .moment m => m.display
  | s => s.quoted

mutual

/-- A value as it is written in a program. -/
def Datum.quoted : Datum → String
  | .scalar s => s.quoted
  | .path t => s!"PosixPath({Text.quoted t})"
  | .list items => "[" ++ ", ".intercalate (quotedItems items) ++ "]"
  | .tuple [item] => "(" ++ item.quoted ++ ",)"
  | .tuple items => "(" ++ ", ".intercalate (quotedItems items) ++ ")"
  | .set [] => "set()"
  | .set items => "\x7b" ++ ", ".intercalate (items.map Scalar.quoted) ++ "\x7d"
  | .dict entries => "\x7b" ++ ", ".intercalate (quotedEntries entries) ++ "\x7d"
  | .again .list => "[...]"
  | .again .dict => "\x7b...\x7d"

/-- The items of a collection, each as it is written in a program. -/
def Datum.quotedItems : List Datum → List String
  | [] => []
  | item :: rest => item.quoted :: quotedItems rest

/-- The entries of a dictionary, each as it is written in a program. -/
def Datum.quotedEntries : List (Scalar × Datum) → List String
  | [] => []
  | (key, value) :: rest => (key.quoted ++ ": " ++ value.quoted) :: quotedEntries rest

end

/-- A value as it is shown to a reader. -/
def Datum.display : Datum → String
  | .scalar s => s.display
  | .path t => t
  | v => v.quoted

/-- A scalar that stands for yes: not absent, not zero, not empty. -/
def Scalar.truthy : Scalar → Bool
  | .null => false
  | .bool b => b
  | .int n => n != 0
  | .float x => x != 0.0
  | .text s => !s.isEmpty
  | .bytes bs => !bs.isEmpty
  | _ => true

/-- A value that stands for yes. -/
def Datum.truthy : Datum → Bool
  | .scalar s => s.truthy
  | .path _ => true
  | .list items => !items.isEmpty
  | .tuple items => !items.isEmpty
  | .set items => !items.isEmpty
  | .dict entries => !entries.isEmpty
  | .again _ => true

/-- Whether a scalar has a text: a whole number has one if it has no more digits than a
numeral may have. -/
def Scalar.isWritable : Scalar → Bool
  | .int n => n.natAbs < Decimal.tenTo Numeral.maxDigits
  | _ => true

mutual

/-- Whether a value has a text. -/
def Datum.isWritable : Datum → Bool
  | .scalar s => s.isWritable
  | .list items | .tuple items => itemsWritable items
  | .set items => items.all Scalar.isWritable
  | .dict entries => entriesWritable entries
  | .path _ | .again _ => true

def Datum.itemsWritable : List Datum → Bool
  | [] => true
  | item :: rest => item.isWritable && itemsWritable rest

def Datum.entriesWritable : List (Scalar × Datum) → Bool
  | [] => true
  | (key, value) :: rest => key.isWritable && value.isWritable && entriesWritable rest

end

/-- The number of days from the first of March of the year zero on. -/
def Day.count (d : Day) : Int :=
  let early := d.month ≤ 2
  let year : Int := if early then (d.year : Int) - 1 else d.year
  let month : Int := if early then d.month + 9 else d.month - 3
  365 * year + Int.fdiv year 4 - Int.fdiv year 100 + Int.fdiv year 400 +
    Int.fdiv (153 * month + 2) 5 + d.day - 1

/-- The number of millionths of a second at which a point in time lies, as far as its offset
tells. -/
def Moment.count (m : Moment) : Int :=
  let seconds := m.day.count * 86400 + m.hour * 3600 + m.minute * 60 + m.second
  (seconds - m.offset.getD 0) * 1000000 + m.micro

/-- Whether two points in time are the same one; where only one of them has an offset, they
are not. -/
def Moment.sameAs (a b : Moment) : Bool :=
  a.offset.isSome == b.offset.isSome && a.count == b.count

/-- The whole number that a truth value, a whole number or a whole floating-point
number stands for. -/
def Scalar.exactInt? : Scalar → Option Int
  | .bool b => some (if b then 1 else 0)
  | .int n => some n
  | .float x => Decimal.exactInt? x
  | _ => none

/-- Whether two scalars are the same value: numbers are compared by value, whatever
their type. -/
def Scalar.sameAs : Scalar → Scalar → Bool
  | .text s, .text t => s == t
  | .float x, .float y => x == y
  | .moment m, .moment n => m.sameAs n
  | a, b =>
    match a.exactInt?, b.exactInt? with
    | some m, some n => m == n
    | none, none => a == b
    | _, _ => false

namespace Datum

def find? (key : Scalar) (entries : List (Scalar × Datum)) : Option Datum :=
  (entries.find? fun e => e.1.sameAs key).map (·.2)

/-- Set the value of a key: in place when the key is there, else at the end. -/
def put (key : Scalar) (value : Datum) : List (Scalar × Datum) → List (Scalar × Datum)
  | [] => [(key, value)]
  | (k, v) :: rest =>
    if k.sameAs key then (k, value) :: rest else (k, v) :: put key value rest

/-- The dictionary that entries make when they are set one after the other. -/
def ofEntries (entries : List (Scalar × Datum)) : List (Scalar × Datum) :=
  entries.foldl (fun done e => put e.1 e.2 done) []

end Datum

mutual

/-- Whether two values are the same: item by item, and for dictionaries key by key. -/
def Datum.sameAs : Datum → Datum → Bool
  | .scalar a, .scalar b => a.sameAs b
  | .path a, .path b => a == b
  | .list xs, .list ys => sameItems xs ys
  | .tuple xs, .tuple ys => sameItems xs ys
  | .set xs, .set ys => xs.length == ys.length && xs.all fun x => ys.any x.sameAs
  | .dict xs, .dict ys => xs.length == ys.length && sameEntries xs ys
  | _, _ => false

/-- Whether two lists of values are the same. -/
def Datum.sameItems : List Datum → List Datum → Bool
  | [], [] => true
  | x :: xs, y :: ys => x.sameAs y && sameItems xs ys
  | _, _ => false

/-- Whether every entry of the first list has the same value in the second. -/
def Datum.sameEntries : List (Scalar × Datum) → List (Scalar × Datum) → Bool
  | [], _ => true
  | (key, value) :: rest, ys =>
    (match find? key ys with
     | some other => value.sameAs other
     | none => false) && sameEntries rest ys

end

end FindingLedger
