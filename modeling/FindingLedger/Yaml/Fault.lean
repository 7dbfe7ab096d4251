/-
What can be wrong with a YAML document, and how it is told.

Most faults are problems at a place, met while something else was going on at a place
before it.
-/
import FindingLedger.Datum
import FindingLedger.Text.Numeral
import FindingLedger.Text.Utf8
import FindingLedger.Yaml.Character

namespace FindingLedger

namespace Yaml

/-- A line and a column, both from zero on. -/
structure Mark where
  line : Nat
  column : Nat
deriving DecidableEq, Repr

/-- Which part of the reading finds a fault. -/
inductive Stage
  | scanning | parsing | composing | constructing
deriving DecidableEq, Repr

/-- What was going on when a problem was met. -/
inductive Activity
  | scanningNext
  | scanningKey
  | scanningDirective
  | scanningAlias
  | scanningAnchor
  | scanningTag
  | parsingTag
  | parsingDirective
  | scanningBlockScalar
  | scanningQuoted
  | scanningDoubleQuoted
  | parsingNode
  | parsingBlockNode
  | parsingFlowNode
  | parsingBlockCollection
  | parsingBlockMapping
  | parsingFlowSequence
  | parsingFlowMapping
  | singleDocument
  | firstAnchor (name : String)
  | constructingMapping
  | constructingOrderedMap
  | constructingPairs
deriving DecidableEq, Repr

/-- What was going on, in words. -/
def Activity.message : Activity → String
  | .scanningNext => "while scanning for the next token"
  | .scanningKey => "while scanning a simple key"
  | .scanningDirective => "while scanning a directive"
  | .scanningAlias => "while scanning an alias"
  | .scanningAnchor => "while scanning an anchor"
  | .scanningTag => "while scanning a tag"
  | .parsingTag => "while parsing a tag"
  | .parsingDirective => "while parsing a directive"
  | .scanningBlockScalar => "while scanning a block scalar"
  | .scanningQuoted => "while scanning a quoted scalar"
  | .scanningDoubleQuoted => "while scanning a double-quoted scalar"
  | .parsingNode => "while parsing a node"
  | .parsingBlockNode => "while parsing a block node"
  | .parsingFlowNode => "while parsing a flow node"
  | .parsingBlockCollection => "while parsing a block collection"
  | .parsingBlockMapping => "while parsing a block mapping"
  | .parsingFlowSequence => "while parsing a flow sequence"
  | .parsingFlowMapping => "while parsing a flow mapping"
  | .singleDocument => "expected a single document in the stream"
  | .firstAnchor name => s!"found duplicate anchor {Text.quoted name}; first occurrence"
  | .constructingMapping => "while constructing a mapping"
  | .constructingOrderedMap => "while constructing an ordered map"
  | .constructingPairs => "while constructing pairs"

/-- What is wrong. -/
inductive Problem
  /-- Something was expected, and this character was found. -/
  | expectedBut (expected : String) (found : Char)
  | badStart (c : Char)
  | noColon
  | entriesNotAllowed
  | keysNotAllowed
  | valuesNotAllowed
  | zeroIndentation
  | hexEscape (digits : Nat) (found : Char)
  | unknownEscape (c : Char)
  | endOfStream
  | separator
  | uriEscape (found : Char)
  | uriText (text : String)
  | noDocumentStart (token : String)
  | duplicateVersion
  | version
  | duplicateHandle (handle : String)
  | undefinedHandle (handle : String)
  | noContent (token : String)
  | noBlockEnd (token : String)
  | noSequenceEnd (token : String)
  | noMappingEnd (token : String)
  | anotherDocument
  | undefinedAlias (name : String)
  | secondAnchor
  | notScalar (node : String)
  | notSequence (node : String)
  | notMapping (node : String)
  | unhashable
  | mergeItem (node : String)
  | mergeValue (node : String)
  | noSequence (node : String)
  | noPair (node : String)
  | pairCount (count : Nat)
  | notAscii (text : String)
  | notBase64 (text : String)
  | unknownTag (tag : String)
deriving DecidableEq, Repr

def shown (c : Char) : String := Text.quoted c.toString

def Problem.message : Problem → String
  | .expectedBut expected found => s!"expected {expected}, but found {shown found}"
  | .badStart c => s!"found character {shown c} that cannot start any token"
  | .noColon => "could not find expected ':'"
  | .entriesNotAllowed => "sequence entries are not allowed here"
  | .keysNotAllowed => "mapping keys are not allowed here"
  | .valuesNotAllowed => "mapping values are not allowed here"
  | .zeroIndentation => "expected indentation indicator in the range 1-9, but found 0"
  | .hexEscape digits found =>
    s!"expected escape sequence of {digits} hexadecimal numbers, but found {shown found}"
  | .unknownEscape c => s!"found unknown escape character {shown c}"
  | .endOfStream => "found unexpected end of stream"
  | .separator => "found unexpected document separator"
  | .uriEscape found =>
    s!"expected URI escape sequence of 2 hexadecimal numbers, but found {shown found}"
  | .uriText text => text
  | .noDocumentStart token => s!"expected '<document start>', but found {Text.quoted token}"
  | .duplicateVersion => "found duplicate YAML directive"
  | .version => "found incompatible YAML document (version 1.* is required)"
  | .duplicateHandle handle => s!"duplicate tag handle {Text.quoted handle}"
  | .undefinedHandle handle => s!"found undefined tag handle {Text.quoted handle}"
  | .noContent token => s!"expected the node content, but found {Text.quoted token}"
  | .noBlockEnd token => s!"expected <block end>, but found {Text.quoted token}"
  | .noSequenceEnd token => s!"expected ',' or ']', but got {Text.quoted token}"
  | .noMappingEnd token => "expected ',' or '\x7d', but got " ++ Text.quoted token
  | .anotherDocument => "but found another document"
  | .undefinedAlias name => s!"found undefined alias {Text.quoted name}"
  | .secondAnchor => "second occurrence"
  | .notScalar node => s!"expected a scalar node, but found {node}"
  | .notSequence node => s!"expected a sequence node, but found {node}"
  | .notMapping node => s!"expected a mapping node, but found {node}"
  | .unhashable => "found unhashable key"
  | .mergeItem node => s!"expected a mapping for merging, but found {node}"
  | .mergeValue node =>
    s!"expected a mapping or list of mappings for merging, but found {node}"
  | .noSequence node => s!"expected a sequence, but found {node}"
  | .noPair node => s!"expected a mapping of length 1, but found {node}"
  | .pairCount count => s!"expected a single mapping item, but found {count} items"
  | .notAscii text => s!"failed to convert base64 data into ascii: {text}"
  | .notBase64 text => s!"failed to decode base64 data: {text}"
  | .unknownTag tag => s!"could not determine a constructor for the tag {Text.quoted tag}"

/-- What is wrong with the parts of a day or a time. -/
inductive CalendarFault
  | year (n : Nat) | month | day | hour | minute | second
  /-- An offset of at least a day; the days and seconds of it. -/
  | offset (seconds : Int)
deriving DecidableEq, Repr

def CalendarFault.message : CalendarFault → String
  | .year n => s!"year {n} is out of range"
  | .month => "month must be in 1..12"
  | .day => "day is out of range for month"
  | .hour => "hour must be in 0..23"
  | .minute => "minute must be in 0..59"
  | .second => "second must be in 0..59"
  | .offset seconds =>
    "offset must be a timedelta strictly between -timedelta(hours=24) and " ++
      s!"timedelta(hours=24), not {Moment.quotedSpan seconds}."

/-- What is wrong with the text of a scalar whose tag is given. -/
inductive ScalarFault
  /-- A number without any digits. -/
  | empty
  /-- No whole number to this base. -/
  | whole (base : Nat) (text : String)
  | tooLong (digits : Nat)
  | float (text : String)
  | bool (text : String)
  | timestamp
  /-- A timestamp is looked for in a node that is no scalar. -/
  | noTimestampText
  | calendar (f : CalendarFault)
  /-- The parts of a number weigh more than any number. -/
  | tooLarge
deriving DecidableEq, Repr

def ScalarFault.message : ScalarFault → String
  | .empty => "string index out of range"
  | .whole base text =>
    s!"invalid literal for int() with base {base}: {(Text.quoted text).take Numeral.shownChars}"
  | .tooLong digits => (NumeralError.tooLong digits).message
  | .float text => s!"could not convert string to float: {Text.quoted text}"
  | .bool text => Text.quoted text
  | .timestamp => "'NoneType' object has no attribute 'groupdict'"
  | .noTimestampText => "expected string or bytes-like object, got 'list'"
  | .tooLarge => "int too large to convert to float"
  | .calendar f => f.message

/-- Why a document has no value. -/
inductive Error
  /-- Bytes that are no text. -/
  | encoding (e : Utf8Error)
  /-- A character that no document holds, after so many characters. -/
  | unprintable (c : Char) (pos : Nat)
  /-- A problem at a place, and what was going on. -/
  | marked (stage : Stage) (context : Option (Activity × Option Mark)) (what : Problem)
    (mark : Mark)
  /-- An escape of a code point that there is not. -/
  | codePoint
  /-- An escape of a number that is too great for a code point to be told. -/
  | codeRange
  /-- Nodes inside of too many others. -/
  | tooDeep
  /-- A scalar whose text does not fit its tag. -/
  | scalar (f : ScalarFault)
deriving DecidableEq, Repr

def Mark.message (file : String) (m : Mark) : String :=
  s!"  in \"{file}\", line {m.line + 1}, column {m.column + 1}"

/-- The code point of a character, with at least four digits. -/
def shownCode (c : Char) : String :=
  let digits := Nat.toDigits 16 c.toNat
  String.ofList (List.replicate (4 - digits.length) '0' ++ digits)

/-- The text of the error in a file.  The place of what was going on is left out when
it is that of the problem. -/
def Error.message (file : String) : Error → String
  | .encoding e => e.message
  | .unprintable c pos =>
    s!"unacceptable character #x{shownCode c}: special characters are not allowed\n" ++
      s!"  in \"{file}\", position {pos}"
  | .marked _ context what mark =>
    let before := match context with
      | none => []
      | some (activity, none) => [activity.message]
      | some (activity, some m) =>
        activity.message :: if m == mark then [] else [m.message file]
    "\n".intercalate (before ++ [what.message, mark.message file])
  | .codePoint => "chr() arg not in range(0x110000)"
  | .codeRange => "Python int too large to convert to C int"
  | .tooDeep => "maximum recursion depth exceeded"
  | .scalar f => f.message

end Yaml

end FindingLedger
