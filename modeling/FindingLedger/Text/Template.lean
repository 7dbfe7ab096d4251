/-
Templates: texts with places that values are filled in.

A place starts with a percent sign and ends with a letter that says how its value is
written.  Between them may stand the name of the value in parentheses, marks for sign and
filling, the least width, and, behind a point, the precision.  An asterisk takes a number
from the values.
-/
import FindingLedger.Decimal.Places
import FindingLedger.Decimal.Whole
import FindingLedger.Datum

namespace FindingLedger

namespace Template

/-- Why values do not fit a template. -/
inductive Fault
  | tooFew
  | leftOver
  | noMapping
  | incompleteName
  | unknownName (name : String)
  | starValue
  | wideWidth
  | widePrecision
  /-- The width or the precision of an asterisk is no number of a size. -/
  | starRange (size : String)
  /-- More digits are asked for than a whole number can be filled up with. -/
  | longPrecision
  | incomplete
  /-- No letter that says how a value is written, at a position. -/
  | unsupported (c : Char) (pos : Nat)
  | notReal (c : Char) (typeName : String)
  | notWhole (c : Char) (typeName : String)
  | notFloat (typeName : String)
  | notCharacter
  | characterRange
  | notANumber
  | infinite
  /-- A whole number beyond all floating-point ones. -/
  | tooLarge
  /-- A width for which there is no memory. -/
  | noRoom
deriving DecidableEq, Repr

/-- The code of a character in hexadecimal digits. -/
def codeText (c : Char) : String := String.ofList (Nat.toDigits 16 c.toNat)

/-- A character, or a question mark where it can not be shown. -/
def shownChar (c : Char) : Char := if 31 ≤ c.toNat && c.toNat < 127 then c else '?'

def Fault.message : Fault → String
  | .tooFew => "not enough arguments for format string"
  | .leftOver => "not all arguments converted during string formatting"
  | .noMapping => "format requires a mapping"
  | .incompleteName => "incomplete format key"
  | .unknownName name => Text.quoted name
  | .starValue => "* wants int"
  | .wideWidth => "width too big"
  | .widePrecision => "precision too big"
  | .starRange size => s!"Python int too large to convert to C {size}"
  | .longPrecision => "precision too large"
  | .incomplete => "incomplete format"
  | .unsupported c pos =>
    s!"unsupported format character '{shownChar c}' (0x{codeText c}) at index {pos}"
  | .notReal c typeName => s!"%{c} format: a real number is required, not {typeName}"
  | .notWhole c typeName => s!"%{c} format: an integer is required, not {typeName}"
  | .notFloat typeName => s!"must be real number, not {typeName}"
  | .notCharacter => "%c requires int or char"
  | .characterRange => "%c arg not in range(0x110000)"
  | .notANumber => "cannot convert float NaN to integer"
  | .infinite => "cannot convert float infinity to integer"
  | .tooLarge => "int too large to convert to float"
  | .noRoom => ""

/-- What a template is filled with. -/
inductive Values
  | sequence (items : List Datum)
  /-- Named values, which also stand for one value as a whole. -/
  | mapping (entries : List (Scalar × Datum))

/-- What is left while a template is filled: values, and the template. -/
structure State where
  values : List Datum
  rest : List Char

/-- Work on what is left. -/
abbrev Filling := StateT State (Except Fault)

def nextValue : Filling Datum := do
  let s ← get
  match s.values with
  | [] => throw .tooFew
  | v :: rest =>
    set { s with values := rest }
    pure v

/-- Take characters from the front of the template as long as a class holds them. -/
def takeWhile (p : Char → Bool) : Filling (List Char) := do
  let s ← get
  let front := s.rest.takeWhile p
  set { s with rest := s.rest.drop front.length }
  pure front

/-- Take a character from the front of the template, if it is there. -/
def takeChar (c : Char) : Filling Bool := do
  let s ← get
  if s.rest.head? == some c then
    set { s with rest := s.rest.drop 1 }
    pure true
  else pure false

/-- Split a text at the parenthesis that closes one already open; others may stand inside
of it in pairs. -/
def splitName (depth : Nat) (done : List Char) : List Char → Option (List Char × List Char)
  | [] => none
  | ')' :: rest =>
    match depth with
    | 0 => some (done.reverse, rest)
    | n + 1 => splitName n (')' :: done) rest
  | '(' :: rest => splitName (depth + 1) ('(' :: done) rest
  | c :: rest => splitName depth (c :: done) rest

/-- Take a name in parentheses, and its value as the only one that is left. -/
def takeName (values : Values) : Filling Unit := do
  if ← takeChar '(' then
    match values with
    | .sequence _ => throw .noMapping
    | .mapping entries =>
      match splitName 0 [] (← get).rest with
      | none => throw .incompleteName
      | some (name, rest) =>
        let name := String.ofList name
        match Datum.find? (.text name) entries with
        | none => throw (.unknownName name)
        | some v => set ({ values := [v], rest } : State)
  else pure ()

/-- The number that digits stand for. -/
def numberOf (cs : List Char) : Nat := cs.foldl (fun n c => n * 10 + (c.toNat - '0'.toNat)) 0

/-- What a width or a precision may be: a number with a sign in some bits. -/
structure Extent where
  bits : Nat
  /-- What numbers of the size are called. -/
  size : String
  /-- What is wrong with digits beyond the size. -/
  fault : Fault

/-- Numbers from here on are too great, and those below its negative too small. -/
def Extent.bound (e : Extent) : Nat := Decimal.twoTo (e.bits - 1)

def widths : Extent := ⟨64, "ssize_t", .wideWidth⟩

def precisions : Extent := ⟨32, "int", .widePrecision⟩

/-- The whole number of an asterisk. -/
def starNumber (e : Extent) : Filling Int := do
  let n ← match ← nextValue with
    | .scalar (.int n) => pure n
    | .scalar (.bool b) => pure (if b then 1 else 0)
    | _ => throw .starValue
  if n < -(e.bound : Int) || (e.bound : Int) ≤ n then throw (.starRange e.size)
  return n

/-- Take a number, by an asterisk or by its digits. -/
def takeNumber (e : Extent) : Filling (Option Int) := do
  if ← takeChar '*' then return some (← starNumber e)
  let digits ← takeWhile Char.isDigit
  if digits.isEmpty then return none
  let n := numberOf digits
  if e.bound ≤ n then throw e.fault
  return some n

/-- How a value is written. -/
structure Layout where
  left : Bool
  plus : Bool
  blank : Bool
  alternate : Bool
  zero : Bool
  width : Nat
  precision : Option Nat
deriving DecidableEq, Repr

/-- Marks that may stand in front of the width. -/
def marks : List Char := ['-', '+', ' ', '#', '0']

/-- Take the layout of a place.  A negative width puts the value to the left. -/
def takeLayout : Filling Layout := do
  let given ← takeWhile marks.contains
  let width := (← takeNumber widths).getD 0
  let precision ←
    if ← takeChar '.' then
      pure (some ((← takeNumber precisions).getD 0).toNat)
    else pure none
  pure
    { left := given.contains '-' || width < 0
      plus := given.contains '+'
      blank := given.contains ' '
      alternate := given.contains '#'
      zero := given.contains '0'
      width := width.natAbs
      precision }

/-- Take the letter of a place; a letter for the size of a number may stand in front of
it. -/
def takeLetter : Filling Char := do
  let s ← get
  let rest := match s.rest with
    | c :: rest => if c == 'h' || c == 'l' || c == 'L' then rest else c :: rest
    | [] => []
  match rest with
  | [] => throw .incomplete
  | c :: rest =>
    set { s with rest }
    pure c

def Layout.place (l : Layout) (cs : List Char) : List Char :=
  let blanks := List.replicate (l.width - cs.length) ' '
  if l.left then cs ++ blanks else blanks ++ cs

/-- A text cut to the precision, in its width. -/
def Layout.placeText (l : Layout) (s : String) : List Char :=
  let cs := s.toList
  l.place (match l.precision with
    | some n => cs.take n
    | none => cs)

/-- A number in its width: its sign, what stands in front of its digits, and the digits.
Zeros may fill the width behind the sign. -/
def Layout.placeNumber (l : Layout) (negative : Bool) (front digits : List Char) :
    List Char :=
  let sign := if negative then ['-'] else if l.plus then ['+'] else if l.blank then [' '] else []
  let zeros :=
    if l.zero && !l.left then l.width - (sign.length + front.length + digits.length) else 0
  l.place (sign ++ front ++ List.replicate zeros '0' ++ digits)

/-- The whole number of a value, a fraction cut off. -/
def wholeOf (c : Char) : Datum → Except Fault Int
  | .scalar (.int n) => .ok n
  | .scalar (.bool b) => .ok (if b then 1 else 0)
  | .scalar (.float x) =>
    match Decimal.truncate? x with
    | some n => .ok n
    | none => .error (if x.isNaN then .notANumber else .infinite)
  | v => .error (.notReal c v.typeName)

/-- The whole number of a value that is one. -/
def exactOf (c : Char) : Datum → Except Fault Int
  | .scalar (.int n) => .ok n
  | .scalar (.bool b) => .ok (if b then 1 else 0)
  | v => .error (.notWhole c v.typeName)

/-- The greatest precision of a whole number: with it, a sign and two more characters, a
text has a length that a precision may have. -/
def maxDigits : Nat := precisions.bound - 4

def Layout.placeWhole (l : Layout) (base : Nat) (front : List Char) (n : Int) :
    Except Fault (List Char) :=
  if maxDigits < l.precision.getD 0 then .error .longPrecision
  else
    let digits := Nat.toDigits base n.natAbs
    let zeros := l.precision.getD 0 - digits.length
    .ok (l.placeNumber (n < 0) (if l.alternate then front else [])
      (List.replicate zeros '0' ++ digits))

/-- The floating-point number of a value. -/
def floatOf : Datum → Except Fault Float
  | .scalar (.float x) => .ok x
  | .scalar (.int n) =>
    let x := Float.ofInt n
    if x.isInf then .error .tooLarge else .ok x
  | .scalar (.bool b) => .ok (if b then 1.0 else 0.0)
  | v => .error (.notFloat v.typeName)

/-- The number of places where no precision is given. -/
def usualPlaces : Nat := 6

def Layout.placeFloat (l : Layout) (letter : Char) (x : Float) : List Char :=
  let places := l.precision.getD usualPlaces
  let b := Decimal.Binary.ofBits x.toBits
  let digits :=
    if x.isNaN then ['n', 'a', 'n']
    else if x.isInf then ['i', 'n', 'f']
    else if letter == 'f' then Decimal.fixed places l.alternate b
    else if letter == 'e' then Decimal.scientific places l.alternate b
    else Decimal.general places l.alternate b
  l.placeNumber (!x.isNaN && Decimal.isNegative x) [] digits

/-- A value as it is written in a program, in characters of ASCII. -/
def asciiQuoted (v : Datum) : String :=
  String.ofList (v.quoted.toList.flatMap fun c =>
    if c.toNat < 128 then [c] else Text.codeEscape c)

def characterOf : Datum → Except Fault String
  | .scalar (.text s) => if s.length == 1 then .ok s else .error .notCharacter
  | .scalar (.int n) =>
    if 0 ≤ n && n < 0x110000 then .ok (Char.ofNat n.toNat).toString else .error .characterRange
  | .scalar (.bool b) => .ok (Char.ofNat (if b then 1 else 0)).toString
  | _ => .error .notCharacter

/-- Write a value; the letter stands at a position. -/
def write (l : Layout) (letter : Char) (pos : Nat) (v : Datum) : Except Fault (List Char) :=
  match letter with
  | 's' => .ok (l.placeText v.display)
  | 'r' => .ok (l.placeText v.quoted)
  | 'a' => .ok (l.placeText (asciiQuoted v))
  | 'c' => (characterOf v).map fun s => l.place s.toList
  | 'd' | 'i' | 'u' => wholeOf letter v >>= l.placeWhole 10 []
  | 'o' => exactOf letter v >>= l.placeWhole 8 ['0', 'o']
  | 'x' => exactOf letter v >>= l.placeWhole 16 ['0', 'x']
  | 'X' => (exactOf letter v >>= l.placeWhole 16 ['0', 'x']).map (·.map Char.toUpper)
  | 'e' | 'f' | 'g' => (floatOf v).map (l.placeFloat letter)
  | 'E' | 'F' | 'G' => (floatOf v).map fun x =>
    (l.placeFloat letter.toLower x).map Char.toUpper
  | c => .error (.unsupported c pos)

/-- There is no memory for a place of this width. -/
def maxRoom : Nat := Decimal.twoTo 32

/-- Fill one place, whose percent sign was just read, in a template of some length. -/
def fillPlace (values : Values) (size : Nat) : Filling (List Char) := do
  if ← takeChar '%' then return ['%']
  takeName values
  let layout ← takeLayout
  let letter ← takeLetter
  let pos := size - (← get).rest.length - 1
  let v ← nextValue
  let tooWide := maxRoom ≤ layout.width
  match write { layout with width := if tooWide then 0 else layout.width } letter pos v with
  | .ok cs => if tooWide then throw .noRoom else pure cs
  | .error fault => throw fault

/-- Fill the rest of a template.  The fuel bounds the number of characters. -/
def fillFrom (values : Values) (size : Nat) : Nat → Filling (List Char)
  | 0 => pure []
  | fuel + 1 => do
    let s ← get
    match s.rest with
    | [] => pure []
    | c :: rest =>
      set { s with rest }
      let front ← if c == '%' then fillPlace values size else pure [c]
      return front ++ (← fillFrom values size fuel)

/-- Fill a template.  All values of a sequence have to find a place. -/
def fill (template : String) (values : Values) : Except Fault String := do
  let cs := template.toList
  let start := match values with
    | .sequence items => items
    | .mapping entries => [.dict entries]
  let (text, s) ← (fillFrom values cs.length cs.length).run ⟨start, cs⟩
  match values with
  | .sequence _ => if s.values.isEmpty then .ok (String.ofList text) else .error .leftOver
  | .mapping _ => .ok (String.ofList text)

/-- The values that the arguments of a message stand for: a dictionary alone names
values. -/
def valuesOf : List Datum → Values
  | [.dict (e :: rest)] => .mapping (e :: rest)
  | items => .sequence items

/-- A message with its arguments filled in.  Without arguments it stands as it is. -/
def message (template : String) (arguments : List Datum) : Except Fault String :=
  if arguments.isEmpty then .ok template else fill template (valuesOf arguments)

end Template

end FindingLedger
