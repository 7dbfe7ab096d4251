/-
The declaration at the start of a document: a version, perhaps the name of an
encoding, and perhaps whether the document stands alone.

The items look like attributes, come in this order, and have values of ASCII
letters, digits, points, hyphens and underscores.
-/
import FindingLedger.Xml.Fault
import FindingLedger.Xml.Scan

namespace FindingLedger

namespace Xml

/-- What a declaration says. -/
structure Declaration where
  /-- The name of the encoding and its position. -/
  encoding : Option (Nat × String)
  standalone : Bool
deriving DecidableEq, Repr

/-- An item of a declaration: its name and its value, with their positions. -/
structure Declaration.Item where
  namePos : Nat
  name : List Char
  valuePos : Nat
  value : List Char
deriving DecidableEq, Repr

namespace Declaration

/-- What stands next in the text of a declaration. -/
inductive Next
  /-- Nothing but white space. -/
  | nothing
  /-- A character that can not stand at this position. -/
  | bad (pos : Nat)
  /-- An item, the position behind it, and what follows. -/
  | item (i : Item) (pos : Nat) (rest : List Char)
deriving Repr

def isValueChar (c : Char) : Bool :=
  c.isAlphanum || c == '.' || c == '-' || c == '_'

/-- A character of the name of an item, of which only the end is checked. -/
def isItemNameChar (c : Char) : Bool :=
  c.toNat < 0x80 && c != '=' && !isSpace c

def skip (pos : Nat) (cs : List Char) : Nat × List Char :=
  (pos + (cs.takeWhile isSpace).length, cs.dropWhile isSpace)

/-- Read the value of an item from its equals sign on. -/
def nextValue (namePos : Nat) (name : List Char) (pos : Nat) (cs : List Char) : Next :=
  match cs with
  | '=' :: rest =>
    if name.isEmpty then .bad pos
    else
      match skip (pos + 1) rest with
      | (pos, mark :: rest) =>
        if mark == '"' || mark == '\'' then
          let value := rest.takeWhile isValueChar
          let pos' := pos + 1 + value.length
          match rest.dropWhile isValueChar with
          | c :: rest' =>
            if c == mark then .item ⟨namePos, name, pos + 1, value⟩ (pos' + 1) rest'
            else .bad pos'
          | [] => .bad pos'
        else .bad pos
      | (pos, []) => .bad pos
  | _ => .bad pos

def next (pos : Nat) (cs : List Char) : Next :=
  match cs with
  | [] => .nothing
  | c :: _ =>
    if !isSpace c then .bad pos
    else
      match skip pos cs with
      | (_, []) => .nothing
      | (pos, cs) =>
        let name := cs.takeWhile isItemNameChar
        let (pos', rest) := skip (pos + name.length) (cs.dropWhile isItemNameChar)
        nextValue pos name pos' rest

/-- Read the text of a declaration behind the encoding, from the item given on. -/
def readStandalone (encoding : Option (Nat × String)) (i : Item) (pos : Nat) (rest : List Char) :
    Except Nat Declaration :=
  if i.name != "standalone".toList then .error i.namePos
  else if i.value != "yes".toList && i.value != "no".toList then .error i.valuePos
  else
    match skip pos rest with
    | (_, []) => .ok ⟨encoding, i.value == "yes".toList⟩
    | (pos, _) => .error pos

/-- Read the text of a declaration, which starts at a position.  A failure is the
position of the first character that can not stand where it stands. -/
def read (start : Nat) (text : List Char) : Except Nat Declaration :=
  match next start text with
  | .bad pos => .error pos
  | .nothing => .error start
  | .item version pos rest =>
    if version.name != "version".toList then .error version.namePos
    else
      match next pos rest with
      | .bad pos => .error pos
      | .nothing => .ok ⟨none, false⟩
      | .item i pos rest =>
        if i.name == "encoding".toList then
          let encoding := some (i.valuePos, String.ofList i.value)
          if !(i.value.head?.any Char.isAlpha) then .error i.valuePos
          else
            match next pos rest with
            | .bad pos => .error pos
            | .nothing => .ok ⟨encoding, false⟩
            | .item i pos rest => readStandalone encoding i pos rest
        else readStandalone none i pos rest

/-- The encoding that a document goes on in behind its declaration. -/
def resolveEncoding (d : Declaration) (current : Encoding) :
    Except (EncodingFault ⊕ (Fault × Nat)) Encoding :=
  match d.encoding with
  | none => .ok current
  | some (pos, name) =>
    match declared name with
    | .encoding e =>
      if e.unitSize != current.unitSize || (e.unitSize == 2 && e != current) then
        .error (.inr (.incorrectEncoding, pos))
      else .ok e
    | .wide =>
      if current.unitSize == 2 then .ok current else .error (.inr (.incorrectEncoding, pos))
    | .other =>
      match CodePage.kindOf (CodePage.normalizeName name) with
      | .page upper => .ok (.page upper)
      | .foreign => .error (.inr (.unknownEncoding, pos))
      | .multiByte => .error (.inl .multiByte)
      | .transform => .error (.inl (.transform name))
      | .hostName => .error (.inl (.hostName name))
      | .undefined => .error (.inl (.undefined name))
      | .label => .error (.inl .label)
      | .unknown => .error (.inl (.unknown name))

end Declaration

end Xml

end FindingLedger
