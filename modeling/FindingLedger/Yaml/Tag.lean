/-
The types that nodes of a YAML document are marked with.

A plain scalar without a tag has the first type whose pattern fits its text, and is a
text if none does.
-/
import FindingLedger.Text.Broken
import FindingLedger.Yaml.Character

namespace FindingLedger

namespace Yaml

/-- The type of a node. -/
inductive Tag
  | null | bool | int | float | binary | timestamp | orderedMap | pairs | set | text
  | sequence | mapping
  /-- The key under which other mappings are merged. -/
  | merge
  /-- The key of a mapping's default value. -/
  | value
  /-- A type that has no values here. -/
  | other (name : String)
deriving DecidableEq, Repr

/-- What the names of the standard types start with. -/
def standardFront : String := "tag:yaml.org,2002:"

/-- The standard types and their names. -/
def standardTags : List (String × Tag) :=
  [("null", .null), ("bool", .bool), ("int", .int), ("float", .float), ("binary", .binary),
   ("timestamp", .timestamp), ("omap", .orderedMap), ("pairs", .pairs), ("set", .set),
   ("str", .text), ("seq", .sequence), ("map", .mapping), ("merge", .merge),
   ("value", .value)]

def Tag.ofName (name : String) : Tag :=
  match standardTags.find? fun e => standardFront ++ e.1 == name with
  | some e => e.2
  | none => .other name

def Tag.name : Tag → String
  | .other name => name
  | t => standardFront ++ ((standardTags.find? fun e => e.2 == t).map (·.1)).getD ""

namespace Tag

def boolWords : List String :=
  ["yes", "Yes", "YES", "no", "No", "NO", "true", "True", "TRUE", "false", "False", "FALSE",
   "on", "On", "ON", "off", "Off", "OFF"]

/-- Words for infinity and for no number, behind the point. -/
def infinityWords : List String := ["inf", "Inf", "INF"]

/-- Words for no number, behind the point. -/
def noNumberWords : List String := ["nan", "NaN", "NAN"]

def nullWords : List String := ["", "~", "null", "Null", "NULL"]

/-- The text without a sign at its front. -/
def unsigned : List Char → List Char
  | '-' :: cs => cs
  | '+' :: cs => cs
  | cs => cs

/-- Digits of a base below ten, and underscores. -/
def isDigitBelow (base : Nat) (c : Char) : Bool :=
  (c.isDigit && c.toNat < '0'.toNat + base) || c == '_'

def isDigitOrMark (c : Char) : Bool := c.isDigit || c == '_'

/-- Parts behind colons, each a number below sixty: at least one, and nothing else. -/
def isSixties (cs : List Char) : Bool :=
  match cs with
  | ':' :: a :: b :: rest =>
    if b.isDigit then isDigitBelow 6 a && a != '_' && (rest.isEmpty || isSixties rest)
    else a.isDigit && isSixties (b :: rest)
  | [':', a] => a.isDigit
  | _ => false
termination_by cs.length

/-- Whole numbers: binary, octal, decimal, hexadecimal, or with parts of sixty. -/
def isInt (cs : List Char) : Bool :=
  match unsigned cs with
  | ['0'] => true
  | '0' :: 'b' :: rest => !rest.isEmpty && rest.all (isDigitBelow 2)
  | '0' :: 'x' :: rest => !rest.isEmpty && rest.all fun c => isHexDigit c || c == '_'
  | '0' :: rest => rest.all (isDigitBelow 8)
  | c :: rest =>
    c.isDigit &&
      (let tail := rest.dropWhile isDigitOrMark
       tail.isEmpty || isSixties tail)
  | [] => false

/-- An exponent with a sign, or nothing. -/
def isExponent : List Char → Bool
  | [] => true
  | e :: sign :: rest =>
    (e == 'e' || e == 'E') && (sign == '-' || sign == '+') && !rest.isEmpty &&
      rest.all Char.isDigit
  | _ => false

/-- The point of a number with parts of sixty, and digits. -/
def isSixtiesPoint (cs : List Char) : Bool :=
  let digits := (cs.reverse.takeWhile isDigitOrMark).length
  let front := cs.take (cs.length - digits)
  front.getLast? == some '.' && isSixties front.dropLast

/-- Floating-point numbers, which have a point. -/
def isFloat (cs : List Char) : Bool :=
  let body := unsigned cs
  match body with
  | '.' :: rest =>
    let word := String.ofList rest
    infinityWords.contains word ||
      (body.length == cs.length &&
        (noNumberWords.contains word ||
          (rest.head?.any Char.isDigit && isExponent (rest.dropWhile isDigitOrMark))))
  | c :: rest =>
    c.isDigit &&
      match rest.dropWhile isDigitOrMark with
      | '.' :: tail => isExponent (tail.dropWhile isDigitOrMark)
      | tail => isSixtiesPoint tail
  | [] => false

/-- The digits at the front, if there are at least `low` and at most `high`, and what
follows them. -/
def splitDigits (low high : Nat) (cs : List Char) : Option (List Char × List Char) :=
  let digits := cs.takeWhile Char.isDigit
  if low ≤ digits.length && digits.length ≤ high then some (digits, cs.drop digits.length)
  else none

/-- The text behind a character, if it starts with it. -/
def behind (c : Char) : List Char → Option (List Char)
  | [] => none
  | d :: rest => if c == d then some rest else none

/-- The parts of a timestamp, each by its digits. -/
structure TimeParts where
  year : List Char
  month : List Char
  day : List Char
  /-- Hour, minute and second. -/
  clock : Option (List Char × List Char × List Char)
  fraction : List Char
  /-- The offset from universal time: its sign, its hours and its minutes; `none` is
  universal time itself. -/
  zone : Option (Option (Bool × List Char × List Char))
deriving DecidableEq, Repr

/-- Read the offset from universal time up to the end. -/
def readZone (cs : List Char) : Option (Option (Option (Bool × List Char × List Char))) :=
  match cs.dropWhile fun c => c == ' ' || c == '\t' with
  | [] => if cs.isEmpty then some none else none
  | ['Z'] => some (some none)
  | c :: rest =>
    if c == '-' || c == '+' then do
      let (hours, rest) ← splitDigits 1 2 rest
      match rest with
      | [] => some (some (some (c == '-', hours, [])))
      | rest => do
        let (minutes, rest) ← splitDigits 2 2 (← behind ':' rest)
        if rest.isEmpty then some (some (some (c == '-', hours, minutes))) else none
    else none

/-- What stands between a day and a time: a letter, or blanks. -/
def behindDay : List Char → Option (List Char)
  | [] => none
  | c :: rest =>
    if c == 'T' || c == 't' then some rest
    else if c == ' ' || c == '\t' then
      some (rest.dropWhile fun c => c == ' ' || c == '\t')
    else none

/-- A text without a line feed at its end, unless it is nothing else.  Patterns let one
stand behind what they describe. -/
def withoutFinalBreak (cs : List Char) : List Char :=
  if 1 < cs.length && cs.getLast? == some '\n' then cs.dropLast else cs

/-- Read a timestamp: a day, and perhaps a time. -/
def readTime (cs : List Char) : Option TimeParts := do
  let (year, cs) ← splitDigits 4 4 (withoutFinalBreak cs)
  let (month, cs) ← splitDigits 1 2 (← behind '-' cs)
  let (day, cs) ← splitDigits 1 2 (← behind '-' cs)
  if cs.isEmpty then some ⟨year, month, day, none, [], none⟩
  else
    let (hour, cs) ← splitDigits 1 2 (← behindDay cs)
    let (minute, cs) ← splitDigits 2 2 (← behind ':' cs)
    let (second, cs) ← splitDigits 2 2 (← behind ':' cs)
    let fraction := match cs with
      | '.' :: rest => rest.takeWhile Char.isDigit
      | _ => []
    let cs := match cs with
      | '.' :: rest => rest.dropWhile Char.isDigit
      | cs => cs
    some ⟨year, month, day, some (hour, minute, second), fraction, ← readZone cs⟩

/-- Timestamps: a day alone only with all its digits. -/
def isTimestamp (cs : List Char) : Bool :=
  match readTime cs with
  | none => false
  | some t => t.clock.isSome || (t.month.length == 2 && t.day.length == 2)

/-- The characters that the type of a scalar and its value are read from, unless it is a text.  No
other type has a half in its form, so the replacement character, which none has either, stands
for one. -/
def formOf (text : List Glyph) : List Char := Glyph.charsWith (Char.ofNat 0xfffd) text

/-- The type of a plain scalar. -/
def ofPlain (cs : List Char) : Tag :=
  let cs := withoutFinalBreak cs
  let s := String.ofList cs
  if nullWords.contains s then .null
  else if boolWords.contains s then .bool
  else if isFloat cs then .float
  else if isInt cs then .int
  else if isTimestamp cs then .timestamp
  else if s == "<<" then .merge
  else if s == "=" then .value
  else if s == "!" || s == "&" || s == "*" then .other (standardFront ++ "yaml")
  else .text

end Tag

end Yaml

end FindingLedger
