/-
Writing a YAML document of sections, each with settings that are scalars.

A text is written plainly when it reads back as that text.  Else it stands between
single quotes, or, when it holds characters that these can not keep, between double
quotes, with escapes for all that is not printable ASCII.  Long lines are folded at
single spaces; what follows a fold is indented further than the setting.
-/
import FindingLedger.Datum
import FindingLedger.Yaml.Tag

namespace FindingLedger

namespace Yaml

/-- How far a line may reach before it is folded. -/
def lineWidth : Nat := 80

def isAsciiPrintable (c : Char) : Bool := 0x20 ≤ c.toNat && c.toNat ≤ 0x7e

/-- Whether a character starts something else than a plain scalar, given what follows
it. -/
def startsOther (c : Char) (rest : List Char) : Bool :=
  "#,[]\x7b\x7d&*!|>'\"%@".toList.contains c || c.toNat == 0x60 ||
    ((c == '?' || c == ':' || c == '-') && isGap (rest.headD endOfText))

/-- Whether a colon or a comment cuts a text off, given the character before it. -/
def isCutFrom (before : Char) : List Char → Bool
  | [] => false
  | c :: rest =>
    (c == ':' && isGap (rest.headD endOfText)) || (c == '#' && isGap before) ||
      isCutFrom c rest

/-- Whether a text can stand plainly in a block mapping, its type aside. -/
def allowsPlain (cs : List Char) : Bool :=
  match cs with
  | [] => false
  | c :: rest =>
    cs.all isAsciiPrintable && c != ' ' && cs.getLast? != some ' ' &&
      cs.take 3 != ['-', '-', '-'] && cs.take 3 != ['.', '.', '.'] &&
      !startsOther c rest && !isCutFrom c rest

/-- Whether a space and a line break stand next to each other. -/
def hasLooseBreak : List Char → Bool
  | ' ' :: '\n' :: _ => true
  | '\n' :: ' ' :: _ => true
  | _ :: rest => hasLooseBreak rest
  | [] => false

/-- Whether single quotes keep a text. -/
def allowsSingle (cs : List Char) : Bool :=
  cs.all (fun c => isAsciiPrintable c || c == '\n') && !hasLooseBreak cs

/-- A line break and the indentation of the next line. -/
def newLine (indent : Nat) : List Char := '\n' :: List.replicate indent ' '

/-- Split a text into runs of spaces, of line breaks, and of other characters. -/
def runsOf (cs : List Char) : List (List Char) :=
  cs.splitBy fun a b =>
    (a == ' ') == (b == ' ') && (a == '\n') == (b == '\n')

/-- Write the runs of a text up to the end.  `inside` tells that the run is not the
first.  `written` gives the form of a run that is no gap. -/
def writeRuns (written : List Char → List Char) (indent : Nat) :
    Nat → Bool → List (List Char) → List Char
  | _, _, [] => []
  | column, inside, run :: rest =>
    match run with
    | '\n' :: _ =>
      '\n' :: (run ++ List.replicate indent ' ') ++ writeRuns written indent indent true rest
    | [' '] =>
      if lineWidth < column && inside && !rest.isEmpty then
        newLine indent ++ writeRuns written indent indent true rest
      else ' ' :: writeRuns written indent (column + 1) true rest
    | run =>
      let shown := written run
      shown ++ writeRuns written indent (column + shown.length) true rest

/-- A text that stands for itself. -/
def writePlain (column indent : Nat) (cs : List Char) : List Char :=
  writeRuns id indent column false (runsOf cs)

/-- A text between single quotes; a quote is written twice. -/
def writeSingle (column indent : Nat) (cs : List Char) : List Char :=
  let twice (run : List Char) := run.flatMap fun c => if c == '\'' then ['\'', '\''] else [c]
  '\'' :: writeRuns twice indent (column + 1) false (runsOf cs) ++ ['\'']

def shortEscapes : List (Char × Char) :=
  [('\x00', '0'), ('\x07', 'a'), ('\x08', 'b'), ('\t', 't'), ('\n', 'n'), ('\x0b', 'v'),
   ('\x0c', 'f'), ('\r', 'r'), ('\x1b', 'e'), ('"', '"'), ('\\', '\\'), ('\x85', 'N'),
   ('\xa0', '_'), ('\u2028', 'L'), ('\u2029', 'P')]

/-- A code point in hexadecimal capitals. -/
def capitalHex (width n : Nat) : List Char :=
  let digits := (Nat.toDigits 16 n).map Char.toUpper
  List.replicate (width - digits.length) '0' ++ digits

/-- A character between double quotes as an escape, if it needs one. -/
def escape? (c : Char) : Option (List Char) :=
  match shortEscapes.lookup c with
  | some e => some ['\\', e]
  | none =>
    if isAsciiPrintable c then none
    else if c.toNat ≤ 0xff then some ('\\' :: 'x' :: capitalHex 2 c.toNat)
    else if c.toNat ≤ 0xffff then some ('\\' :: 'u' :: capitalHex 4 c.toNat)
    else some ('\\' :: 'U' :: capitalHex 8 c.toNat)

/-- A fold between double quotes: the line break is escaped, and so is a space behind
it. -/
def doubleFold (indent : Nat) (spaceFollows : Bool) : List Char :=
  '\\' :: newLine indent ++ if spaceFollows then ['\\'] else []

/-- Write what stands between double quotes.  `run` are the characters that were read
and not counted into the column yet, last first; `first` tells that none was read
before. -/
def writeDoubleFrom (indent column : Nat) (run : List Char) (first : Bool) :
    List Char → List Char
  | [] => run.reverse
  | c :: rest =>
    let mayFold := !first && !rest.isEmpty
    match escape? c with
    | some shown =>
      let column := column + run.length + shown.length
      let before := run.reverse ++ shown
      if mayFold && lineWidth + 1 < column then
        let spaceFollows := rest.head? == some ' '
        before ++ doubleFold indent spaceFollows ++
          writeDoubleFrom indent (indent + if spaceFollows then 1 else 0) [] false rest
      else before ++ writeDoubleFrom indent column [] false rest
    | none =>
      if mayFold && (c == ' ' || run.isEmpty) && lineWidth < column + run.length then
        let isSpace := c == ' '
        run.reverse ++ doubleFold indent isSpace ++
          writeDoubleFrom indent (indent + if isSpace then 1 else 0) [c] false rest
      else writeDoubleFrom indent column (c :: run) false rest

/-- A text between double quotes. -/
def writeDouble (column indent : Nat) (cs : List Char) : List Char :=
  '"' :: writeDoubleFrom indent (column + 1) [] true cs ++ ['"']

def writeText (column indent : Nat) (s : String) : List Char :=
  let cs := s.toList
  if allowsPlain cs && Tag.ofPlain cs == .text then writePlain column indent cs
  else if allowsSingle cs then writeSingle column indent cs
  else writeDouble column indent cs

def settingIndent : Nat := 2

def writeSetting (name : String) (value : Scalar) : List Char :=
  let front := List.replicate settingIndent ' ' ++ name.toList ++ [':', ' ']
  let shown := match value with
    | .text s => writeText front.length (2 * settingIndent) s
    | .null => "null".toList
    | .bool b => (if b then "true" else "false").toList
    | s => s.display.toList
  front ++ shown ++ ['\n']

/-- A section: its name, and its settings line by line. -/
def writeSection (name : String) (settings : List (String × Scalar)) : List Char :=
  name.toList ++ [':', '\n'] ++ settings.flatMap fun e => writeSetting e.1 e.2

def writeSections (sections : List (String × List (String × Scalar))) : List Char :=
  sections.flatMap fun e => writeSection e.1 e.2

end Yaml

end FindingLedger
