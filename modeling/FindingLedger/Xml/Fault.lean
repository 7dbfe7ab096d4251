/-
What can be wrong with a document, and where.

A place is a position in characters from the start; lines and columns are counted
from it, a line ending being a line feed, a carriage return, or both in this order.
-/
import FindingLedger.Xml.Source

namespace FindingLedger

namespace Xml

/-- What is wrong at a place of a document. -/
inductive Fault
  | syntactic
  | noElement
  | invalidToken
  | unclosedToken
  | partialCharacter
  | mismatchedTag
  | duplicateAttribute
  | junkAfterRoot
  | illegalParameterReference
  | undefinedEntity
  /-- A reference that could not be resolved, since declarations may be missing. -/
  | unresolvedEntity (reference : List Char)
  /-- Such a reference that ends inside of a character. -/
  | cutReference (e : Utf8Error)
  | recursiveReference
  | unbalancedEntity
  | badCharacterReference
  | unparsedReference
  | externalReference
  | misplacedDeclaration
  | unknownEncoding
  | incorrectEncoding
  | unclosedCdata
  | unboundPrefix
  | undeclaredPrefix
  | malformedDeclaration
  | publicIdentifier
  | reservedXml
  | reservedXmlns
  | reservedNamespace
  | amplification
deriving DecidableEq, Repr

/-- How many bytes of an unresolved reference a message shows. -/
def shownReference : Nat := 100

/-- The characters of a text that its first `size` bytes in UTF-8 show; one that is cut
shows as the replacement character. -/
def firstBytes : Nat → List Char → List Char
  | 0, _ | _, [] => []
  | size + 1, c :: rest =>
    if c.utf8Size ≤ size + 1 then c :: firstBytes (size + 1 - c.utf8Size) rest
    else [Char.ofNat 0xfffd]

/-- The first characters of a text that take no more than `size` bytes in UTF-8. -/
def fitting (size : Nat) : List Char → List Char
  | [] => []
  | c :: rest => if c.utf8Size ≤ size then c :: fitting (size - c.utf8Size) rest else []

/-- How many bytes in UTF-8 a piece of a text has at most that is converted in pieces. -/
def pieceSize : Nat := 1024

/-- The fault of a piece that starts with an ampersand: it is taken for a reference, whose
name ends before the last byte. -/
def referenceFault (piece : List Char) : Fault :=
  match Utf8.decode (Utf8.encode (String.ofList piece)).tail.dropLast with
  | .error e => .cutReference e
  | .ok _ => .unresolvedEntity piece

/-- The fault of a reference that can not be resolved. -/
def Encoding.unresolved (e : Encoding) (reference : List Char) : Fault :=
  referenceFault (if e.isDirect then reference else fitting pieceSize reference)

/-- The fault of the first piece of a text that starts with an ampersand, and its position.
The text goes on behind a part of a piece, which `room` more bytes fit into. -/
def pieceFault? (room pos : Nat) : List Char → Option (Fault × Nat)
  | [] => none
  | c :: rest =>
    if c.utf8Size ≤ room then pieceFault? (room - c.utf8Size) (pos + 1) rest
    else if c == '&' then some (referenceFault (fitting pieceSize (c :: rest)), pos)
    else pieceFault? (pieceSize - c.utf8Size) (pos + 1) rest

def Fault.message : Fault → String
  | .syntactic => "syntax error"
  | .noElement => "no element found"
  | .invalidToken => "not well-formed (invalid token)"
  | .unclosedToken => "unclosed token"
  | .partialCharacter => "partial character"
  | .mismatchedTag => "mismatched tag"
  | .duplicateAttribute => "duplicate attribute"
  | .junkAfterRoot => "junk after document element"
  | .illegalParameterReference => "illegal parameter entity reference"
  | .undefinedEntity => "undefined entity"
  | .unresolvedEntity reference =>
    "undefined entity " ++ String.ofList (firstBytes shownReference reference)
  | .cutReference e => e.message
  | .recursiveReference => "recursive entity reference"
  | .unbalancedEntity => "asynchronous entity"
  | .badCharacterReference => "reference to invalid character number"
  | .unparsedReference => "reference to binary entity"
  | .externalReference => "reference to external entity in attribute"
  | .misplacedDeclaration => "XML or text declaration not at start of entity"
  | .unknownEncoding => "unknown encoding"
  | .incorrectEncoding => "encoding specified in XML declaration is incorrect"
  | .unclosedCdata => "unclosed CDATA section"
  | .unboundPrefix => "unbound prefix"
  | .undeclaredPrefix => "must not undeclare prefix"
  | .malformedDeclaration => "XML declaration not well-formed"
  | .publicIdentifier => "illegal character(s) in public id"
  | .reservedXml =>
    "reserved prefix (xml) must not be undeclared or bound to another namespace name"
  | .reservedXmlns => "reserved prefix (xmlns) must not be declared or undeclared"
  | .reservedNamespace => "prefix must not be bound to one of the reserved namespace names"
  | .amplification =>
    "limit on input amplification factor (from DTD and entities) breached"

/-- Why the name of an encoding can not be used. -/
inductive EncodingFault
  | unknown (name : String)
  | transform (name : String)
  | multiByte
  /-- The decoder of host names does not replace faulty parts. -/
  | hostName (name : String)
  /-- The encoding has no text. -/
  | undefined (name : String)
  /-- Only ASCII may stand before the last separator. -/
  | label
deriving DecidableEq, Repr

def EncodingFault.message : EncodingFault → String
  | .unknown name => s!"unknown encoding: {name}"
  | .transform name =>
    s!"'{name}' is not a text encoding; use codecs.decode() to handle arbitrary codecs"
  | .multiByte => "multi-byte encodings are not supported"
  | .hostName name =>
    s!"decoding with '{name}' codec failed (UnicodeError: Unsupported error handling replace)"
  | .undefined name =>
    s!"decoding with '{name}' codec failed (UnicodeError: undefined encoding)"
  | .label => "'ascii' codec can't decode byte 0x80 in position 82: ordinal not in range(128)"

/-- Why a document can not be read. -/
inductive Error
  /-- A fault at a line and a column; `atEnd` tells that only the end of the document
  shows it. -/
  | malformed (what : Fault) (line column : Nat) (atEnd : Bool)
  /-- The declared encoding can not be used. -/
  | badEncoding (what : EncodingFault)
  /-- A reference that can not be resolved ends inside of a character. -/
  | cutReference (e : Utf8Error)
deriving DecidableEq, Repr

def Error.message : Error → String
  | .malformed what line column _ => s!"{what.message}: line {line}, column {column}"
  | .badEncoding what => what.message
  | .cutReference e => e.message

/-- Whether more bytes could have made the document a good one. -/
def Error.isAtEnd : Error → Bool
  | .malformed _ _ _ atEnd => atEnd
  | .badEncoding _ | .cutReference _ => false

/-- The line, from one on, and the column, from zero on, after `count` more
characters. -/
def advance (line column : Nat) : Nat → List Char → Nat × Nat
  | 0, _ | _, [] => (line, column)
  | 1, '\r' :: _ => (line + 1, 0)
  | n + 2, '\r' :: '\n' :: rest => advance (line + 1) 0 n rest
  | n + 1, c :: rest =>
    if c == '\n' || c == '\r' then advance (line + 1) 0 n rest
    else advance line (column + 1) n rest

/-- The line and the column of a position. -/
def place (chars : List Char) (pos : Nat) : Nat × Nat :=
  advance 1 0 pos chars

/-- A fault at a position; whether only the end of the document shows it. -/
structure Stop where
  fault : Fault
  pos : Nat
  atEnd : Bool
deriving DecidableEq, Repr

def Stop.error (chars : List Char) (s : Stop) : Error :=
  match s.fault with
  | .cutReference e => .cutReference e
  | fault =>
    let (line, column) := place chars s.pos
    .malformed fault line column s.atEnd

end Xml

end FindingLedger
