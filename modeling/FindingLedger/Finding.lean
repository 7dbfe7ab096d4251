/-
Findings of a linter: a position, a rule, a text for the reader, and where the
finding stands in the reporting.
-/
import FindingLedger.Decimal.Whole
import FindingLedger.RuleId
import FindingLedger.Text.CaseMap
import FindingLedger.Text.Numeral

namespace FindingLedger

/-- Where a finding stands in the reporting. -/
inductive Finding.Status
  | correctable | notCorrectable | corrected | inBaseline | parserFailure | ruleFailure
deriving DecidableEq, Repr

namespace Finding.Status

def all : List Status :=
  [correctable, notCorrectable, corrected, inBaseline, parserFailure, ruleFailure]

/-- The word that stands for a status in documents. -/
def word : Status → String
  | correctable => "lint_can_be_autocorrected"
  | notCorrectable => "lint_can_not_be_autocorrected"
  | corrected => "format_is_autocorrected"
  | inBaseline => "baseline_ignored"
  | parserFailure => "parse_exception"
  | ruleFailure => "rule_engine_exception"

def ofWord? (s : String) : Option Status :=
  all.find? fun status => status.word == s

theorem ofWord?_word (status : Status) : ofWord? status.word = some status := by
  cases status <;> decide +kernel

end Finding.Status

/-- A finding.  The rule and the text are values as a document gives them; a finding
of a baseline has texts in both places. -/
structure Finding where
  line : Int
  column : Int
  rule : Datum
  detail : Datum
  status : Finding.Status

/-- Why a value is no finding. -/
inductive FindingFault
  /-- A field is missing. -/
  | missing (field : String)
  /-- The value has no fields: a list, a text, a byte string, or another value of this type. -/
  | listIndex
  | textIndex
  | byteIndex
  | notSubscriptable (typeName : String)
  /-- The value has fields but can not tell what stands for a missing one. -/
  | notNumeral (e : NumeralError)
  /-- A broken text or a byte string that is no numeral, between quotes. -/
  | malformedNumeral (quoted : String)
  /-- A position of this type. -/
  | notNumber (typeName : String)
  /-- A position that is infinite, or no number. -/
  | infinite
  | notANumber
  /-- A status of this type. -/
  | statusType (typeName : String)
  /-- A word that stands for no status, between quotes. -/
  | unknownStatus (quoted : String)
deriving DecidableEq, Repr

def FindingFault.message : FindingFault → String
  | .missing field => Text.quoted field
  | .listIndex => "list indices must be integers or slices, not str"
  | .textIndex => "string indices must be integers, not 'str'"
  | .byteIndex => "byte indices must be integers or slices, not str"
  | .notSubscriptable typeName => s!"'{typeName}' object is not subscriptable"
  | .notNumeral e => e.message
  | .malformedNumeral quoted => Numeral.malformedText quoted
  | .notNumber typeName =>
    "int() argument must be a string, a bytes-like object or a real number, not " ++
      s!"'{typeName}'"
  | .infinite => "cannot convert float infinity to integer"
  | .notANumber => "cannot convert float NaN to integer"
  | .statusType typeName => s!"'{typeName}' object has no attribute 'lower'"
  | .unknownStatus quoted => s!"{quoted} is not a valid LintErrorStatus"

namespace Finding

/-- The whole number of a value that is read like some text.  `quoted` is the value itself
between quotes. -/
def wholeLike (text quoted : String) : Except FindingFault Int :=
  match Numeral.read text with
  | .ok n => .ok n
  | .error (.tooLong digits) => .error (.notNumeral (.tooLong digits))
  | .error (.malformed _) => .error (.malformedNumeral quoted)

/-- A character that no numeral holds, which what is no ASCII or no character is read as. -/
def noDigit : Char := '?'

/-- Bytes as the text that they are read like. -/
def textOfBytes (bs : List UInt8) : String :=
  String.ofList (bs.map fun b => if b < 0x80 then Char.ofNat b.toNat else noDigit)

/-- The whole number that a value stands for; a fraction is cut off. -/
def wholeOf : Datum → Except FindingFault Int
  | .scalar (.bool b) => .ok (if b then 1 else 0)
  | .scalar (.int n) => .ok n
  | .scalar (.float x) =>
    match Decimal.truncate? x with
    | some n => .ok n
    | none => .error (if x.isNaN then .notANumber else .infinite)
  | .scalar (.text s) => (Numeral.read s).mapError .notNumeral
  | .scalar (.broken t) =>
    wholeLike (String.ofList (Glyph.charsWith noDigit t.glyphs)) (Glyph.quoted t.glyphs)
  | .scalar (.bytes bs) => wholeLike (textOfBytes bs) (Text.quotedBytes bs)
  | v => .error (.notNumber v.typeName)

/-- The fields of a value that stands for a finding. -/
def fieldsOf : Datum → Except FindingFault (List (Scalar × Datum))
  | .dict entries => .ok entries
  | .list _ | .tuple _ => .error .listIndex
  | .scalar (.text _) | .scalar (.broken _) => .error .textIndex
  | .scalar (.bytes _) => .error .byteIndex
  | v => .error (.notSubscriptable v.typeName)

def field (entries : List (Scalar × Datum)) (name : String) : Except FindingFault Datum :=
  match Datum.find? (.text name) entries with
  | some v => .ok v
  | none => .error (.missing name)

/-- Lower case of a byte that is a letter of ASCII. -/
def lowerByte (b : UInt8) : UInt8 := if 0x41 ≤ b && b ≤ 0x5a then b + 0x20 else b

/-- The status that a value stands for, in any letter case. -/
def statusOf : Datum → Except FindingFault Status
  | .scalar (.text s) =>
    let word := Text.lower s
    match Status.ofWord? word with
    | some status => .ok status
    | none => .error (.unknownStatus (Text.quoted word))
  | .scalar (.broken t) => .error (.unknownStatus (Glyph.quoted (Glyph.lower [] t.glyphs)))
  | .scalar (.bytes bs) => .error (.unknownStatus (Text.quotedBytes (bs.map lowerByte)))
  | v => .error (.statusType v.typeName)

/-- The finding that a value stands for.  The text for the reader and the status may be
missing. -/
def ofDatum (v : Datum) : Except FindingFault Finding := do
  let entries ← fieldsOf v
  let line ← wholeOf (← field entries "line")
  let column ← wholeOf (← field entries "col")
  let rule ← field entries "rule_id"
  let detail := (Datum.find? (.text "detail") entries).getD (.text "")
  let status ← statusOf
    ((Datum.find? (.text "status") entries).getD (.text Status.notCorrectable.word))
  .ok ⟨line, column, rule, detail, status⟩

/-- The value that stands for a finding. -/
def toDatum (f : Finding) : Datum :=
  .dict [ (.text "line", .int f.line), (.text "col", .int f.column), (.text "rule_id", f.rule),
    (.text "detail", f.detail), (.text "status", .text f.status.word) ]

/-- The position of a finding: line, colon, column. -/
def location (f : Finding) : String :=
  s!"{f.line}:{f.column}"

/-- Whether two findings are the same in every field. -/
def equals (a b : Finding) : Bool :=
  a.line == b.line && a.column == b.column && a.rule.sameAs b.rule &&
    a.detail.sameAs b.detail && a.status == b.status

/-- Whether two findings are of the same rule at the same position, whatever their text
and their status.  The rules are only looked at when the positions agree. -/
def matches_ (a b : Finding) : Except RuleFault Bool :=
  if a.column == b.column && a.line == b.line then do
    let x ← RuleId.normalizeValue a.rule
    let y ← RuleId.normalizeValue b.rule
    .ok (x.sameAs y)
  else .ok false

/-- Whether a finding matches one of a list; the list is searched up to the first. -/
def isAmong (known : List Finding) (f : Finding) : Except RuleFault Bool :=
  match known with
  | [] => .ok false
  | k :: rest => do if ← k.matches_ f then .ok true else isAmong rest f

end Finding

end FindingLedger
