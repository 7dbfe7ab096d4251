/-
The values that the texts of scalars stand for, each by its type.
-/
import FindingLedger.Decimal.Read
import FindingLedger.Text.Base64
import FindingLedger.Text.CaseMap
import FindingLedger.Yaml.Fault
import FindingLedger.Yaml.Tag

namespace FindingLedger

namespace Yaml

namespace ScalarText

/-- A whole number to a base, which its own mark may stand before. -/
def wholeOf (base : Nat) (text : List Char) : Except ScalarFault Int :=
  if base == 10 then
    match Numeral.read (String.ofList text) with
    | .ok n => .ok n
    | .error (.tooLong n) => .error (.tooLong n)
    | .error (.malformed s) => .error (.whole base s)
  else
    let (negative, body) := Numeral.splitSign (Text.trimBy Text.isSpace text)
    let letters := match base with
      | 2 => ['b', 'B']
      | 8 => ['o', 'O']
      | _ => ['x', 'X']
    let body := match body with
      | '0' :: c :: rest => if letters.contains c then rest else body
      | body => body
    let digits := body.map fun c =>
      match Text.digitValue? c with
      | some d => some d
      | none => if isHexDigit c then some (hexValue c) else none
    if body.isEmpty || digits.any (fun d => d.all (base ≤ ·)) then
      .error (.whole base (String.ofList text))
    else
      let n : Int := ((digits.filterMap id).foldl (fun n d => n * base + d) 0 : Nat)
      .ok (if negative then -n else n)

/-- The parts of a text between colons. -/
def splitColons (done : List Char) : List Char → List (List Char)
  | [] => [done.reverse]
  | c :: rest =>
    if c == ':' then done.reverse :: splitColons [] rest else splitColons (c :: done) rest

/-- The whole numbers of parts. -/
def wholeParts : List (List Char) → Except ScalarFault (List Int)
  | [] => .ok []
  | p :: rest => do .ok ((← wholeOf 10 p) :: (← wholeParts rest))

def floatParts : List (List Char) → Except ScalarFault (List Float)
  | [] => .ok []
  | p :: rest => do
    match Decimal.read? (String.ofList p) with
    | some x => .ok (x :: (← floatParts rest))
    | none => .error (.float (String.ofList p))

def withoutMarks (text : List Char) : List Char := text.filter (· != '_')

/-- The whole number that an unsigned text stands for: its front tells the base. -/
def unsignedInt (text : List Char) : Except ScalarFault Int :=
  match text with
  | [] => .error .empty
  | ['0'] => .ok 0
  | '0' :: 'b' :: rest => wholeOf 2 rest
  | '0' :: 'x' :: rest => wholeOf 16 rest
  | '0' :: _ => wholeOf 8 text
  | _ =>
    if text.contains ':' then do
      .ok ((← wholeParts (splitColons [] text)).foldl (fun n d => n * 60 + d) 0)
    else wholeOf 10 text

/-- The whole number that a text stands for. -/
def intOf (text : List Char) : Except ScalarFault Int :=
  match withoutMarks text with
  | [] => .error .empty
  | '-' :: rest => do .ok (-(← unsignedInt rest))
  | '+' :: rest => unsignedInt rest
  | text => unsignedInt text

/-- The sum of parts of sixty, begun with the last.  Every weight has to be a number. -/
def sumSixties (parts : List Float) : Except ScalarFault Float := do
  let (sum, _) ← parts.reverse.foldlM
    (fun ((sum, base) : Float × Nat) x =>
      let weight := Float.ofNat base
      if weight.isInf then .error .tooLarge else .ok (sum + x * weight, base * 60))
    ((0.0 : Float), 1)
  .ok sum

/-- A floating-point number in small letters and without underscores. -/
def plainFloat (text : List Char) : List Char :=
  (Text.lower (String.ofList (withoutMarks text))).toList

/-- Whether a text is the word for no number, which stands for one and the same value
wherever it is used. -/
def isNoNumber (text : List Char) : Bool :=
  match plainFloat text with
  | '-' :: rest | '+' :: rest => rest == ".nan".toList
  | text => text == ".nan".toList

/-- The number that an unsigned text stands for. -/
def unsignedFloat (text : List Char) : Except ScalarFault Float :=
  if text == ".inf".toList then .ok (1.0 / 0.0)
  else if text == ".nan".toList then .ok (0.0 / 0.0)
  else if text.contains ':' then do
    sumSixties (← floatParts (splitColons [] text))
  else
    match Decimal.read? (String.ofList text) with
    | some x => .ok x
    | none => .error (.float (String.ofList text))

/-- The number that a text stands for. -/
def floatOf (text : List Char) : Except ScalarFault Float :=
  match plainFloat text with
  | [] => .error .empty
  | '-' :: rest => do .ok (-(← unsignedFloat rest))
  | '+' :: rest => unsignedFloat rest
  | text => unsignedFloat text

/-- The truth value that a text stands for. -/
def boolOf (text : List Char) : Except ScalarFault Bool :=
  let word := Text.lower (String.ofList text)
  if ["yes", "true", "on"].contains word then .ok true
  else if ["no", "false", "off"].contains word then .ok false
  else .error (.bool word)

/-- Years that have a day more. -/
def isLeap (year : Nat) : Bool := year % 4 == 0 && (year % 100 != 0 || year % 400 == 0)

def daysIn (year month : Nat) : Nat :=
  if month == 2 then if isLeap year then 29 else 28
  else if [4, 6, 9, 11].contains month then 30
  else 31

def dayOf (year month day : Nat) : Except CalendarFault Day :=
  if year == 0 then .error (.year year)
  else if month == 0 || 12 < month then .error .month
  else if day == 0 || daysIn year month < day then .error .day
  else .ok ⟨year, month, day⟩

/-- The number that decimal digits stand for. -/
def digitsOf (cs : List Char) : Nat := Json.digitsValue cs

/-- The offset from universal time in seconds. -/
def offsetOf (zone : Option (Option (Bool × List Char × List Char))) :
    Except CalendarFault (Option Int) :=
  match zone with
  | none => .ok none
  | some none => .ok (some 0)
  | some (some (negative, hours, minutes)) =>
    let n : Int := digitsOf hours * 3600 + digitsOf minutes * 60
    let seconds := if negative then -n else n
    if 86400 ≤ n then .error (.offset seconds) else .ok (some seconds)

/-- The point in time that a text stands for, or the day. -/
def timeOf (t : Tag.TimeParts) : Except CalendarFault Scalar := do
  let year := digitsOf t.year
  let month := digitsOf t.month
  let day := digitsOf t.day
  match t.clock with
  | none => .ok (.day (← dayOf year month day))
  | some (hour, minute, second) =>
    let micro := digitsOf ((t.fraction ++ List.replicate 6 '0').take 6)
    let offset ← offsetOf t.zone
    let day ← dayOf year month day
    let hour := digitsOf hour
    let minute := digitsOf minute
    let second := digitsOf second
    if 23 < hour then .error .hour
    else if 59 < minute then .error .minute
    else if 59 < second then .error .second
    else .ok (.moment ⟨day, hour, minute, second, micro, offset⟩)

/-- The point in time or the day that a text stands for. -/
def timestampOf (text : List Char) : Except ScalarFault Scalar :=
  match Tag.readTime text with
  | none => .error .timestamp
  | some t => (timeOf t).mapError .calendar

/-- A character as it is told apart in a message. -/
def escapedChar (c : Char) : String :=
  let digits (width : Nat) := String.ofList (Text.hexDigits width c.toNat)
  if c.toNat < 0x100 then "\\x" ++ digits 2
  else if c.toNat < 0x10000 then "\\u" ++ digits 4
  else "\\U" ++ digits 8

def notAscii (text : List Char) : String :=
  let pos := (text.takeWhile fun c => c.toNat < 0x80).length
  let run := (text.drop pos).takeWhile fun c => 0x80 ≤ c.toNat
  let place := match run with
    | [c] => s!"character '{escapedChar c}' in position {pos}"
    | run => s!"characters in position {pos}-{pos + run.length - 1}"
  s!"'ascii' codec can't encode {place}: ordinal not in range(128)"

/-- The bytes that a text stands for. -/
def binaryOf (text : List Char) : Except Problem (List UInt8) :=
  if text.any fun c => 0x80 ≤ c.toNat then .error (.notAscii (notAscii text))
  else (Text.base64Bytes text).mapError fun f => .notBase64 f.message

end ScalarText

end Yaml

end FindingLedger
