/-
The pieces that markup is made of: names, references, attributes, tags, comments
and instructions.

A scanner takes the characters from a position on, in a text of an encoding, which
decides on the letters of names.  It finds a piece, meets a character that can not
stand where it stands, or runs into the end of the text, which may cut a character.
-/
import FindingLedger.Xml.Source

namespace FindingLedger

namespace Xml

/-- What a scanner comes to. -/
inductive Scan (α : Type)
  /-- A piece, the position behind it, and what follows. -/
  | found (value : α) (pos : Nat) (rest : List Char)
  /-- A character that can not stand at this position. -/
  | invalid (pos : Nat)
  /-- The end of the text, inside of a piece. -/
  | ended
  /-- A character that the end of the text cuts. -/
  | cut
deriving Repr

namespace Scan

variable {α β : Type}

/-- Go on scanning behind a piece. -/
def andThen (s : Scan α) (next : α → Nat → List Char → Scan β) : Scan β :=
  match s with
  | found value pos rest => next value pos rest
  | invalid pos => invalid pos
  | ended => ended
  | cut => cut

def map (f : α → β) (s : Scan α) : Scan β :=
  s.andThen fun value pos rest => found (f value) pos rest

/-- A character at a position that is none of those that may stand there; where any
characters may stand, one that is cut might have been one of them. -/
def at_ (c : Char) (pos : Nat) : Scan α :=
  if c == cutChar then cut else invalid pos

/-- A piece that a cut character must not follow, since it could be part of it. -/
def unlessCut (rest : List Char) (s : Scan α) : Scan α :=
  if rest.head? == some cutChar then cut else s

end Scan

def scanName (e : Encoding) (pos : Nat) : List Char → Scan (List Char)
  | [] => .ended
  | c :: rest =>
    if e.isNameStart c then
      let part := rest.takeWhile e.isNameChar
      let rest := rest.dropWhile e.isNameChar
      .unlessCut rest (.found (c :: part) (pos + 1 + part.length) rest)
    else .at_ c pos

/-- A name with at most one colon, which stands between two names. -/
def scanQualified (e : Encoding) (pos : Nat) (cs : List Char) : Scan (List Char) :=
  (scanName e pos cs).andThen fun first pos rest =>
    match rest with
    | ':' :: rest =>
      (scanName e (pos + 1) rest).andThen fun second pos rest =>
        match rest with
        | ':' :: _ => .invalid pos
        | rest => .found (first ++ ':' :: second) pos rest
    | rest => .found first pos rest

/-- What a reference refers to. -/
inductive Reference
  | code (n : Nat)
  | entity (name : List Char)
deriving DecidableEq, Repr

/-- The value of a hexadecimal digit. -/
def hexValue (c : Char) : Nat :=
  if c.isDigit then c.toNat - '0'.toNat
  else if 'a' ≤ c then c.toNat - 'a'.toNat + 10
  else c.toNat - 'A'.toNat + 10

def isHexDigit (c : Char) : Bool :=
  c.isDigit || ('a' ≤ c && c ≤ 'f') || ('A' ≤ c && c ≤ 'F')

/-- Digits to a base, and the semicolon behind them. -/
def scanCode (base : Nat) (isDigit : Char → Bool) (pos : Nat) (cs : List Char) : Scan Reference :=
  let digits := cs.takeWhile isDigit
  match cs.dropWhile isDigit with
  | [] => .ended
  | c :: rest =>
    if digits.isEmpty || c != ';' then .invalid (pos + digits.length)
    else .found (.code (digits.foldl (fun n d => n * base + hexValue d) 0))
      (pos + digits.length + 1) rest

/-- A reference, from behind its ampersand on. -/
def scanReference (e : Encoding) (pos : Nat) : List Char → Scan Reference
  | '#' :: 'x' :: rest => scanCode 16 isHexDigit (pos + 2) rest
  | '#' :: rest => scanCode 10 Char.isDigit (pos + 1) rest
  | cs =>
    (scanName e pos cs).andThen fun name pos rest =>
      match rest with
      | [] => .ended
      | ';' :: rest => .found (.entity name) (pos + 1) rest
      | _ => .invalid pos

/-- The text of an attribute value up to its quotation mark; references in it are
kept as they are, once they have proved well-formed. -/
def scanValue (e : Encoding) (mark : Char) (pos : Nat) (done : List Char) :
    List Char → Scan (List Char)
  | [] => .ended
  | c :: rest =>
    if c == mark then .found done.reverse (pos + 1) rest
    else if c == '<' || !isLegal c then .at_ c pos
    else if c == '&' then
      match scanReference e (pos + 1) rest with
      | .found _ _ _ => scanValue e mark (pos + 1) (c :: done) rest
      | .invalid pos => .invalid pos
      | .ended => .ended
      | .cut => .cut
    else scanValue e mark (pos + 1) (c :: done) rest

/-- An attribute of a tag: its name and its value, with their positions. -/
structure RawAttribute where
  namePos : Nat
  name : List Char
  valuePos : Nat
  value : List Char
deriving DecidableEq, Repr

/-- Skip white space; the end of the text is never skipped to. -/
def scanSpace (pos : Nat) (cs : List Char) : Scan Unit :=
  match cs.dropWhile isSpace with
  | [] => .ended
  | rest => .found () (pos + (cs.takeWhile isSpace).length) rest

/-- An attribute: a name, an equals sign and a value between quotation marks. -/
def scanAttribute (e : Encoding) (pos : Nat) (cs : List Char) : Scan RawAttribute :=
  (scanQualified e pos cs).andThen fun name pos' rest =>
  (scanSpace pos' rest).andThen fun _ pos' rest =>
    match rest with
    | '=' :: rest =>
      (scanSpace (pos' + 1) rest).andThen fun _ pos' rest =>
        match rest with
        | c :: rest =>
          if c == '"' || c == '\'' then
            (scanValue e c (pos' + 1) [] rest).map fun value => ⟨pos, name, pos' + 1, value⟩
          else .invalid pos'
        | [] => .ended
    | _ => .invalid pos'

/-- A start tag: its name, its attributes, and whether it is an end tag too. -/
structure RawTag where
  name : List Char
  attributes : List RawAttribute
  isEmpty : Bool
deriving DecidableEq, Repr

/-- The attributes and the end of a tag, from behind its name or an attribute on.
The fuel bounds the number of steps; the length of the text is enough. -/
def scanAttributes (e : Encoding) (name : List Char) :
    Nat → Nat → List RawAttribute → List Char → Scan RawTag
  | 0, _, _, _ => .ended
  | _ + 1, _, _, [] => .ended
  | _ + 1, pos, done, '>' :: rest => .found ⟨name, done.reverse, false⟩ (pos + 1) rest
  | _ + 1, pos, done, '/' :: rest =>
    match rest with
    | [] => .ended
    | '>' :: rest => .found ⟨name, done.reverse, true⟩ (pos + 2) rest
    | _ => .invalid (pos + 1)
  | fuel + 1, pos, done, c :: rest =>
    if isSpace c then
      (scanSpace (pos + 1) rest).andThen fun _ pos rest =>
        if rest.head? == some '>' || rest.head? == some '/' then
          scanAttributes e name fuel pos done rest
        else
          (scanAttribute e pos rest).andThen fun item pos rest =>
            scanAttributes e name fuel pos (item :: done) rest
    else .invalid pos

/-- A start tag, from behind its bracket on.  The fuel bounds the number of steps; the
length of the text is enough. -/
def scanTag (e : Encoding) (fuel pos : Nat) (cs : List Char) : Scan RawTag :=
  (scanQualified e pos cs).andThen fun name pos rest => scanAttributes e name fuel pos [] rest

/-- An end tag, from behind its slash on.  Any colons may stand in its name, since
it has to repeat the name of a start tag. -/
def scanEndTag (e : Encoding) (pos : Nat) (cs : List Char) : Scan (List Char) :=
  (scanName e pos cs).andThen fun first pos rest =>
    let isPart (c : Char) := e.isNameChar c || c == ':'
    let more := rest.takeWhile isPart
    let rest := rest.dropWhile isPart
    .unlessCut rest <| (scanSpace (pos + more.length) rest).andThen fun _ pos rest =>
      match rest with
      | '>' :: rest => .found (first ++ more) (pos + 1) rest
      | _ => .invalid pos

def scanCommentText (pos : Nat) : List Char → Scan Unit
  | [] => .ended
  | '-' :: '-' :: rest =>
    match rest with
    | [] => .ended
    | '>' :: rest => .found () (pos + 3) rest
    | _ => .invalid (pos + 2)
  | c :: rest => if isLegal c then scanCommentText (pos + 1) rest else .at_ c pos

/-- A comment, from behind its first hyphen on. -/
def scanComment (pos : Nat) : List Char → Scan Unit
  | [] => .ended
  | '-' :: rest => scanCommentText (pos + 1) rest
  | _ => .invalid pos

/-- An instruction, or the declaration that looks like one, with its text. -/
inductive Instruction
  | processing
  | declaration (text : List Char)
deriving DecidableEq, Repr

/-- The text of an instruction and its end; `done` is the text so far, last first. -/
def scanInstructionText (pos : Nat) (done : List Char) : List Char → Scan (List Char)
  | [] => .ended
  | '?' :: '>' :: rest => .found done.reverse (pos + 2) rest
  | c :: rest =>
    if isLegal c then scanInstructionText (pos + 1) (c :: done) rest else .at_ c pos

/-- Whether a name is that of the declaration, in any letter case. -/
def isReservedTarget (name : List Char) : Bool :=
  name.map Char.toLower == ['x', 'm', 'l']

/-- An instruction, from behind its question mark on. -/
def scanInstruction (e : Encoding) (pos : Nat) (cs : List Char) : Scan Instruction :=
  (scanName e pos cs).andThen fun target pos rest =>
    let isDeclaration := target == ['x', 'm', 'l']
    let make (text : List Char) : Instruction :=
      if isDeclaration then .declaration text else .processing
    match rest with
    | [] => .ended
    | c :: rest =>
      if (isSpace c || c == '?') && isReservedTarget target && !isDeclaration then .invalid pos
      else if isSpace c then
        (scanInstructionText (pos + 1) [c] rest).map make
      else if c == '?' then
        match rest with
        | [] => .ended
        | '>' :: rest => .found (make []) (pos + 2) rest
        | _ => .invalid (pos + 1)
      else .invalid pos

/-- What an opening bracket in the content of an element starts. -/
inductive Markup
  | startTag (tag : RawTag)
  | endTag (name : List Char)
  | cdataOpen
  | comment
  | instruction (i : Instruction)
deriving DecidableEq, Repr

/-- The rest of the opening of a CDATA section, letter by letter. -/
def scanCdataOpen (pos : Nat) : List Char → List Char → Scan Markup
  | [], rest => .found .cdataOpen pos rest
  | _, [] => .ended
  | d :: ds, c :: rest => if c == d then scanCdataOpen (pos + 1) ds rest else .invalid pos

/-- The letters of the opening of a CDATA section, and its second bracket. -/
def cdataLetters : List Char := ['C', 'D', 'A', 'T', 'A', '[']

/-- Whether a text starts the opening of a CDATA section, from behind the bracket on, but
has not as many bytes as it. -/
def isShortCdataOpen (e : Encoding) : List Char → Bool
  | '!' :: '[' :: rest =>
    e.sizeOf 0 cdataLetters.length rest < cdataLetters.length * e.unitSize
  | _ => false

/-- What an opening bracket in the content of an element starts, from behind it on; the
opening of a CDATA section must not be too short.  The fuel bounds the number of steps in a
tag; the length of the text is enough. -/
def scanMarkup (e : Encoding) (fuel pos : Nat) : List Char → Scan Markup
  | [] => .ended
  | '!' :: rest =>
    match rest with
    | [] => .ended
    | '-' :: rest => (scanComment (pos + 2) rest).map fun _ => .comment
    | '[' :: rest => scanCdataOpen (pos + 2) cdataLetters rest
    | _ => .invalid (pos + 1)
  | '?' :: rest => (scanInstruction e (pos + 1) rest).map .instruction
  | '/' :: rest => (scanEndTag e (pos + 1) rest).map .endTag
  | cs => (scanTag e fuel pos cs).map .startTag

end Xml

end FindingLedger
