/-
From dictionaries to settings.

Each setting takes the values of its type and those that stand for one of them, such
as the text of a number.  Names that no setting has are ignored.  All complaints about
a dictionary are collected, in the order of the settings.
-/
import FindingLedger.Settings.Basic
import FindingLedger.Text.Utf8

namespace FindingLedger

namespace Settings

/-- What is wrong with a value. -/
inductive Flaw
  /-- A section that is no dictionary. -/
  | section_ (model : String)
  | path
  | blankPath
  | boolType
  | boolWord
  | textType
  | textBytes
  | level (word : String)
  | intType
  | intText
  | intFraction
  | infinite
  | intSize
deriving DecidableEq, Repr

def Flaw.kind : Flaw → String
  | .section_ _ => "model_type"
  | .path => "path_type"
  | .blankPath | .level _ => "value_error"
  | .boolType => "bool_type"
  | .boolWord => "bool_parsing"
  | .textType => "string_type"
  | .textBytes => "string_unicode"
  | .intType => "int_type"
  | .intText => "int_parsing"
  | .intFraction => "int_from_float"
  | .infinite => "finite_number"
  | .intSize => "int_parsing_size"

/-- The words of thresholds as a set, in alphabetical order. -/
def thresholdWords : String :=
  Datum.display (.set (["CRITICAL", "DEBUG", "ERROR", "INFO", "WARNING"].map .text))

def Flaw.message : Flaw → String
  | .section_ model => s!"Input should be a valid dictionary or instance of {model}"
  | .path => "Input is not a valid path for <class 'pathlib.Path'>"
  | .blankPath => "Value error, Baseline path may not be blank or empty"
  | .boolType => "Input should be a valid boolean"
  | .boolWord => "Input should be a valid boolean, unable to interpret input"
  | .textType => "Input should be a valid string"
  | .textBytes => "Input should be a valid string, unable to parse raw data as a unicode string"
  | .level word =>
    s!"Value error, Invalid log level: {word}. Must be one of {thresholdWords}"
  | .intType => "Input should be a valid integer"
  | .intText => "Input should be a valid integer, unable to parse string as an integer"
  | .intFraction =>
    "Input should be a valid integer, got a number with a fractional part"
  | .infinite => "Input should be a finite number"
  | .intSize => "Unable to parse input string as an integer, exceeded maximum size"

/-- Whether the documentation has a page about a flaw. -/
def Flaw.isDocumented : Flaw → Bool
  | .path => false
  | _ => true

/-- A flaw, the names that lead to the value, and the value. -/
structure Complaint where
  place : List String
  flaw : Flaw
  value : Datum

/-- The longest value in bytes that a complaint shows as a whole. -/
def maxShown : Nat := 50

/-- The characters at the front of a text, up to a number of bytes. -/
def frontBytes : Nat → List Char → List Char
  | _, [] => []
  | n, c :: rest =>
    let size := (Utf8.encode c.toString).length
    if size ≤ n then c :: frontBytes (n - size) rest else []

/-- What is shown of a value: its text, shortened in the middle when it is long. -/
def shownValue (v : Datum) : String :=
  let s := if v.isWritable then v.quoted else s!"<unprintable {v.typeName} object>"
  if s.utf8ByteSize ≤ maxShown then s
  else
    let cs := s.toList
    let front := frontBytes 25 cs
    let back := (frontBytes 24 cs.reverse).reverse
    String.ofList front ++ "..." ++ String.ofList back

/-- The address of the page about a kind of flaws. -/
def pageAddress (kind : String) : String :=
  "https://" ++ "errors.pydantic.dev/2.14/v/" ++ kind

def Complaint.message (c : Complaint) : String :=
  let page :=
    if c.flaw.isDocumented then
      s!"\n    For further information visit {pageAddress c.flaw.kind}"
    else ""
  ".".intercalate c.place ++ "\n  " ++ c.flaw.message ++
    s!" [type={c.flaw.kind}, input_value={shownValue c.value}, " ++
    s!"input_type={c.value.typeName}]" ++ page

def subject : String := "LintBaselineConfig"

def complaintsMessage (cs : List Complaint) : String :=
  let plural := if cs.length == 1 then "" else "s"
  "\n".intercalate
    (s!"{cs.length} validation error{plural} for {subject}" :: cs.map Complaint.message)

def yesWords : List String := ["1", "on", "t", "true", "y", "yes"]

def noWords : List String := ["0", "off", "f", "false", "n", "no"]

/-- A word as a truth value; the letters of ASCII may be large or small. -/
def wordToBool (s : String) : Except Flaw Bool :=
  let word := s.toLower
  if yesWords.contains word then .ok true
  else if noWords.contains word then .ok false
  else .error .boolWord

/-- A whole number as a truth value: one of 64 bits with a sign is read, and is to be
zero or one. -/
def intToBool (n : Int) : Except Flaw Bool :=
  let bound : Int := Decimal.twoTo 63
  if n == 0 then .ok false
  else if n == 1 then .ok true
  else if n < -bound || bound ≤ n then .error .boolType
  else .error .boolWord

/-- A floating-point number as a truth value: a whole one between the ends of 64 bits
stands for its number. -/
def floatToBool (x : Float) : Except Flaw Bool :=
  match Decimal.exactInt? x with
  | some n => if n.natAbs < Decimal.twoTo 63 then intToBool n else .error .boolType
  | none => .error .boolType

def bytesText? (bs : List UInt8) : Option String :=
  (Utf8.decode bs).toOption.map String.ofList

/-- A value as a truth value. -/
def toBool : Datum → Except Flaw Bool
  | .scalar (.bool b) => .ok b
  | .scalar (.text s) => wordToBool s
  | .scalar (.broken _) => .error .textBytes
  | .scalar (.bytes bs) =>
    match bytesText? bs with
    | some s => wordToBool s
    | none => .error .boolWord
  | .scalar (.int n) => intToBool n
  | .scalar (.float x) => floatToBool x
  | _ => .error .boolType

/-- The number of digits that a numeral has at most. -/
def maxNumeral : Nat := 4300

/-- A digit that is no zero. -/
def isCounting (c : Char) : Bool :=
  c.isDigit && c != '0'

/-- Drop the zeros in front of a numeral, and underscores among them; the last of them
stays when no other digit follows.  Zeros may also stand before the sign of what
follows.  `none` for what is no numeral. -/
def dropZeros (before : Char) : List Char → Option (List Char)
  | [] => some [before]
  | c :: rest =>
    if c == '0' || c == '_' then dropZeros c rest
    else if isCounting c || c == '-' then some (c :: rest)
    else if c == '.' then some (before :: c :: rest)
    else none

def dropFraction (cs : List Char) : List Char :=
  let tail := cs.dropWhile (· != '.')
  match tail with
  | _ :: zero :: rest =>
    if (zero :: rest).all (· == '0') then cs.takeWhile (· != '.') else cs
  | _ => cs

/-- Drop underscores, each of which has to stand between two others. -/
def dropMarks (cs : List Char) : Option (List Char) :=
  if cs.head? == some '_' || cs.getLast? == some '_' then none
  else if (cs.zip cs.tail).any fun e => e.1 == '_' && e.2 == '_' then none
  else some (cs.filter (· != '_'))

/-- A sign, then digits of ASCII: a zero alone, or at most `maxNumeral` digits the
first of which is no zero. -/
def readDigits (cs : List Char) : Except Flaw Int :=
  let (negative, digits) := match cs with
    | '-' :: rest => (true, rest)
    | cs => (false, cs)
  match digits with
  | ['0'] => .ok 0
  | c :: _ =>
    if !isCounting c then .error .intText
    else if maxNumeral < (digits.takeWhile Char.isDigit).length then .error .intSize
    else if !digits.all Char.isDigit then .error .intText
    else
      let n : Nat := digits.foldl (fun n c => n * 10 + (c.toNat - '0'.toNat)) 0
      .ok (if negative then -(n : Int) else n)
  | [] => .error .intText

/-- The digits of a numeral, behind its sign if it is below zero, without what may
stand around and among them. -/
def plainNumeral (s : String) : Option (List Char) :=
  let (sign, cs) := match Text.trimBy Text.isSpace s.toList with
    | '+' :: rest => ([], rest)
    | '-' :: rest => (['-'], rest)
    | cs => ([], cs)
  let cs := match cs with
    | '0' :: rest => dropZeros '0' rest
    | c :: _ => if isCounting c then some cs else none
    | [] => none
  (cs.bind fun cs => dropMarks (dropFraction cs)).map (sign ++ ·)

/-- A text as a whole number. -/
def textToInt (s : String) : Except Flaw Int :=
  match plainNumeral s with
  | none => .error .intText
  | some cs => readDigits cs

/-- A floating-point number as a whole number of at most 63 bits. -/
def floatToInt (x : Float) : Except Flaw Int :=
  if !x.isFinite then .error .infinite
  else match Decimal.exactInt? x with
    | none => .error .intFraction
    | some n => if n.natAbs < Decimal.twoTo 63 then .ok n else .error .intSize

/-- A value as a whole number. -/
def toInt : Datum → Except Flaw Int
  | .scalar (.int n) => .ok n
  | .scalar (.bool b) => .ok (if b then 1 else 0)
  | .scalar (.float x) => floatToInt x
  | .scalar (.text s) => textToInt s
  | .scalar (.broken _) => .error .textBytes
  | .scalar (.bytes bs) =>
    match bytesText? bs with
    | some s => textToInt s
    | none => .error .intText
  | _ => .error .intType

/-- A value as a path.  No file has a name that can not be encoded, so a broken text is refused
here and not where the file is looked for. -/
def toPath : Datum → Except Flaw Path
  | .scalar (.text s) => .ok (.ofString s)
  | .scalar (.broken _) => .error .textBytes
  | .path s => .ok (.ofString s)
  | _ => .error .path

/-- A value as the path of the baseline, whose text may not be blank. -/
def toBaselinePath : Datum → Except Flaw Path
  | .scalar (.text s) =>
    if Text.isBlankText s then .error .blankPath else .ok (.ofString s)
  | v => toPath v

/-- A value as the path of a file, or as none. -/
def toOptionalPath : Datum → Except Flaw (Option Path)
  | .scalar .null => .ok none
  | v => (toPath v).map some

def wordToThreshold (s : String) : Except Flaw Threshold :=
  match Threshold.named? s with
  | some t => .ok t
  | none => .error (.level s)

def toThreshold : Datum → Except Flaw Threshold
  | .scalar (.text s) => wordToThreshold s
  | .scalar (.broken t) => .error (.level t.escaped)
  | .scalar (.bytes bs) =>
    match bytesText? bs with
    | some s => wordToThreshold s
    | none => .error .textBytes
  | _ => .error .textType

/-- What checking gives: a value, or complaints. -/
abbrev Checked (α : Type) := Except (List Complaint) α

/-- Check two things; the complaints about both are collected. -/
def Checked.both {α β : Type} (a : Checked α) (b : Checked β) : Checked (α × β) :=
  match a, b with
  | .ok x, .ok y => .ok (x, y)
  | .error e, .error f => .error (e ++ f)
  | .error e, .ok _ | .ok _, .error e => .error e

/-- Check a setting of a section: its value when it is given, else the default. -/
def checkField {α : Type} (sectionName key : String) (entries : List (Scalar × Datum))
    (fallback : α) (convert : Datum → Except Flaw α) : Checked α :=
  match Datum.find? (.text key) entries with
  | none => .ok fallback
  | some v => (convert v).mapError fun flaw => [⟨[sectionName, key], flaw, v⟩]

/-- Check a section: its settings when it is given as a dictionary, else the default. -/
def checkSection {α : Type} (sectionName model : String) (entries : List (Scalar × Datum))
    (fallback : α) (convert : List (Scalar × Datum) → Checked α) : Checked α :=
  match Datum.find? (.text sectionName) entries with
  | none => .ok fallback
  | some (.dict inner) => convert inner
  | some v => .error [⟨[sectionName], .section_ model, v⟩]

def checkBaseline (entries : List (Scalar × Datum)) : Checked BaselineSettings :=
  let field {α : Type} := @checkField α baselineSection
  let d := default.baseline
  ((field "enabled" entries d.enabled toBool).both
    (field "path" entries d.path toBaselinePath)).map fun (enabled, path) => ⟨enabled, path⟩

def checkJournal (entries : List (Scalar × Datum)) : Checked JournalSettings :=
  let field {α : Type} := @checkField α journalSection
  let d := default.journal
  ((field "level" entries d.level toThreshold).both
    ((field "file" entries d.file toOptionalPath).both
      ((field "json_format" entries d.jsonFormat toBool).both
        ((field "max_file_size_mb" entries d.maxFileSize toInt).both
          (field "backup_count" entries d.backupCount toInt))))).map
    fun (level, file, json, size, count) => ⟨level, file, json, size, count⟩

def check (entries : List (Scalar × Datum)) : Checked Settings :=
  ((checkSection baselineSection "BaselineSettings" entries default.baseline checkBaseline).both
    (checkSection journalSection "LoggingConfig" entries default.journal checkJournal)).map
    fun (baseline, journal) => ⟨baseline, journal⟩

end Settings

end FindingLedger
