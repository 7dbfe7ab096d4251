/-
The characters of a document.

The first bytes tell whether a character takes one or more bytes of eight bits or
units of two bytes.  Decoding stops at the first bytes that stand for nothing and
marks the place by a character that is legal nowhere, as it marks a character that
the end of the document cuts.  The encoding also says how many bytes a
character takes and, for some characters, whether names may hold them.
-/
import FindingLedger.Text.CodePage
import FindingLedger.Text.Utf8
import FindingLedger.Xml.Name

namespace FindingLedger

namespace Xml

/-- How bytes stand for characters. -/
inductive Encoding
  | utf8
  | utf16 (bigEndian : Bool)
  | latin
  | ascii
  | page (upper : List Char)
deriving DecidableEq, Repr

/-- The characters of a document. -/
structure Source where
  chars : List Char
  /-- Whether half a unit of two bytes follows them. -/
  isOdd : Bool
deriving DecidableEq, Repr

/-- The mark for bytes that stand for nothing. -/
def fault : Char := '\x00'

/-- The mark for bytes that start a character beyond ASCII but do not go on with it. -/
def brokenChar : Char := '\uffff'

/-- The mark for the bytes at the end that are only the first ones of a character. -/
def cutChar : Char := '\ufffe'

/-- The number of bytes of a character, by its first byte; `none` for a byte that
can not be the first. -/
def utf8Size? (lead : UInt8) : Option Nat :=
  if lead < 0x80 then some 1
  else if lead < 0xc0 then none
  else if lead < 0xe0 then some 2
  else if lead < 0xf0 then some 3
  else if lead < 0xf5 then some 4
  else none

/-- The characters before a mark, last first, the mark, and the bytes behind it; these
only have to be as many as they are. -/
def markAt (mark : Char) (done : List Char) (rest : List UInt8) : Source :=
  ⟨done.reverse ++ mark :: rest.map fun _ => fault, false⟩

/-- Decode bytes as UTF-8; `done` holds the characters before them, last first. -/
def decodeUtf8 (done : List Char) (bs : List UInt8) : Source :=
  match bs with
  | [] => ⟨done.reverse, false⟩
  | b :: rest =>
    match utf8Size? b with
    | none => markAt fault done rest
    | some size =>
      if (rest.take (size - 1)).length < size - 1 then markAt cutChar done rest
      else match Utf8.shape? b with
        | none => markAt brokenChar done rest
        | some (n, lo, hi) =>
          match _h : Utf8.takeContinuation lo hi 1 (Utf8.leadBits b n) n rest with
          | .error _ => markAt brokenChar done rest
          | .ok (code, rest') =>
            if Char.ofNat code == cutChar then markAt brokenChar done rest
            else decodeUtf8 (Char.ofNat code :: done) rest'
termination_by bs.length
decreasing_by
  have : rest'.length ≤ rest.length := Utf8.takeContinuation_length (by assumption)
  simp only [List.length_cons]
  omega

def unitOf (bigEndian : Bool) (a b : UInt8) : Nat :=
  if bigEndian then a.toNat * 256 + b.toNat else b.toNat * 256 + a.toNat

/-- Decode bytes as UTF-16.  The first unit of a pair takes any unit as the second one,
of which only the last ten bits count. -/
def decodeUtf16 (bigEndian : Bool) (done : List Char) : List UInt8 → Source
  | [] => ⟨done.reverse, false⟩
  | [_] => ⟨done.reverse, true⟩
  | a :: b :: rest =>
    let unit := unitOf bigEndian a b
    if 0xd800 ≤ unit && unit < 0xdc00 then
      match rest with
      | c :: d :: rest =>
        let low := unitOf bigEndian c d % 0x400
        decodeUtf16 bigEndian (Char.ofNat (0x10000 + (unit - 0xd800) * 0x400 + low) :: done) rest
      | _ => markAt cutChar done []
    else if (0xdc00 ≤ unit && unit < 0xe000) || 0xfffe ≤ unit then markAt fault done rest
    else decodeUtf16 bigEndian (Char.ofNat unit :: done) rest

/-- The character of a byte under an encoding of one byte a character. -/
def Encoding.single (e : Encoding) (b : UInt8) : Char :=
  match e with
  | .page upper =>
    let c := CodePage.charOf upper b
    if c == CodePage.hole then fault else c
  | .ascii => if b < 0x80 then Char.ofNat b.toNat else fault
  | _ => Char.ofNat b.toNat

def Encoding.decode (e : Encoding) (bs : List UInt8) : Source :=
  match e with
  | .utf8 => decodeUtf8 [] bs
  | .utf16 bigEndian => decodeUtf16 bigEndian [] bs
  | e => ⟨bs.map e.single, false⟩

/-- The number of bytes that an ASCII character takes. -/
def Encoding.unitSize : Encoding → Nat
  | .utf16 _ => 2
  | _ => 1

/-- The number of bytes that a character takes.  A mark stands for one byte, whatever
the character would have taken. -/
def Encoding.charSize (e : Encoding) (c : Char) : Nat :=
  match e with
  | .utf8 => if c == brokenChar || c == cutChar then 1 else c.utf8Size
  | .utf16 _ => if c.toNat < 0x10000 then 2 else 4
  | _ => 1

/-- The number of bytes that the first `count` characters of a text take, beyond
`sum`. -/
def Encoding.sizeOf (e : Encoding) (sum : Nat) : Nat → List Char → Nat
  | 0, _ | _, [] => sum
  | count + 1, c :: rest => e.sizeOf (sum + e.charSize c) count rest

/-- Whether texts are handed on as they are, and not converted in pieces. -/
def Encoding.isDirect : Encoding → Bool
  | .utf8 | .ascii => true
  | _ => false

/-- Whether the first unit of a character shows which class it is of. -/
def Encoding.showsClass (e : Encoding) (c : Char) : Bool :=
  match e with
  | .utf8 => c.toNat < 0x80
  | .utf16 _ => c.toNat < 0x100
  | _ => true

/-- The ordinal indicators and the micro sign, which are letters only where the first
256 characters are classified by a table of their own. -/
def isOrdinal (c : Char) : Bool :=
  c == '\xaa' || c == '\xb5' || c == '\xba'

/-- Whether the first 256 characters are classified by a table of their own. -/
def Encoding.hasLatinTable : Encoding → Bool
  | .latin | .utf16 _ => true
  | _ => false

/-- A character that a name may start with in a text of the encoding. -/
def Encoding.isNameStart (e : Encoding) (c : Char) : Bool :=
  Xml.isNameStart c || (e.hasLatinTable && isOrdinal c)

/-- A character that a name may go on with in a text of the encoding. -/
def Encoding.isNameChar (e : Encoding) (c : Char) : Bool :=
  Xml.isNameChar c || (e.hasLatinTable && isOrdinal c)

/-- A letter that is known as one by its first unit. -/
def Encoding.isKeywordChar (e : Encoding) (c : Char) : Bool :=
  e.showsClass c && e.isNameStart c

/-- A character that may be the start of a name, as far as its first unit shows. -/
def Encoding.mayStartName (e : Encoding) (c : Char) : Bool :=
  !e.showsClass c || e.isNameStart c

/-- The encoding that the first bytes show, and whether they are a mark of their own
that is no part of the document.  `none` if more bytes are needed to tell. -/
def detect? : List UInt8 → Option (Encoding × Bool)
  | [b] => if [0xfe, 0xff, 0xef, 0x00, 0x3c].contains b then none else some (.utf8, false)
  | 0xfe :: 0xff :: _ => some (.utf16 true, true)
  | 0xff :: 0xfe :: _ => some (.utf16 false, true)
  | 0x3c :: 0x00 :: _ => some (.utf16 false, false)
  | [0xef, 0xbb] => none
  | 0xef :: 0xbb :: 0xbf :: _ => some (.utf8, true)
  | a :: b :: _ =>
    if a == 0 then some (.utf16 true, false)
    else if b == 0 then some (.utf16 false, false)
    else some (.utf8, false)
  | [] => some (.utf8, false)

/-- What a declaration of an encoding calls for. -/
inductive Declared
  | encoding (e : Encoding)
  /-- Units of two bytes, in the order that the document has shown. -/
  | wide
  /-- A name to be looked up. -/
  | other
deriving DecidableEq, Repr

/-- The encodings that are known without looking them up. -/
def declared (name : String) : Declared :=
  match (name.map Char.toUpper) with
  | "ISO-8859-1" => .encoding .latin
  | "US-ASCII" => .encoding .ascii
  | "UTF-8" => .encoding .utf8
  | "UTF-16" => .wide
  | "UTF-16BE" => .encoding (.utf16 true)
  | "UTF-16LE" => .encoding (.utf16 false)
  | _ => .other

end Xml

end FindingLedger
