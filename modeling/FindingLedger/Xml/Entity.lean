/-
Declared entities and attributes, and the values that attributes have.

In a value, white space is made into blanks and references are replaced by what
they refer to.  The text of an entity may hold references again, so that values
can grow far beyond the document; their growth is limited.
-/
import FindingLedger.Xml.Fault
import FindingLedger.Xml.Scan

namespace FindingLedger

namespace Xml

/-- What an entity stands for. -/
inductive Entity
  /-- A text. -/
  | text (chars : List Char)
  /-- Another document. -/
  | external
  /-- Something that is no document. -/
  | unparsed
deriving DecidableEq, Repr

/-- A declared attribute of an element: whether blanks count in its value, and the
value that it has when a tag does not name it. -/
structure DeclaredAttribute where
  name : List Char
  isText : Bool
  value : Option (List Char)
deriving DecidableEq, Repr

/-- What the declarations of a document say. -/
structure Declarations where
  entities : List (List Char × Entity)
  attributes : List (List Char × DeclaredAttribute)
  /-- Some declarations may be missing. -/
  incomplete : Bool
  /-- The document says that none are missing. -/
  standalone : Bool
  /-- Declarations still count. -/
  counting : Bool
deriving DecidableEq, Repr

def Declarations.none : Declarations := ⟨[], [], false, false, true⟩

/-- An unknown entity is a fault. -/
def Declarations.isStrict (d : Declarations) : Bool :=
  !d.incomplete || d.standalone

def Declarations.attributesOf (d : Declarations) (element : List Char) :
    List DeclaredAttribute :=
  (d.attributes.filter fun a => a.1 == element).map (·.2)

/-- Declare an attribute; one with a value or of an element's identity does not
replace an earlier one. -/
def Declarations.declareAttribute (d : Declarations) (element : List Char)
    (a : DeclaredAttribute) (isIdentity : Bool) : Declarations :=
  let known := (d.attributesOf element).any fun b => b.name == a.name
  if known && (a.value.isSome || isIdentity) then d
  else { d with attributes := d.attributes ++ [(element, a)] }

/-- The entities that need no declaration. -/
def predefined? (name : List Char) : Option Char :=
  match String.ofList name with
  | "lt" => some '<'
  | "gt" => some '>'
  | "amp" => some '&'
  | "quot" => some '"'
  | "apos" => some '\''
  | _ => none

/-- What is known of a document before it is read. -/
structure Form where
  encoding : Encoding
  /-- Whether half a unit of two bytes stands at its end. -/
  isOdd : Bool
  /-- The number of its bytes. -/
  size : Nat
deriving DecidableEq, Repr

/-- Where a text stands, which tells its encoding and what reading it counts as. -/
inductive Origin
  /-- In the document. -/
  | document (e : Encoding)
  /-- In the text of an entity, which is kept as UTF-8. -/
  | entity
  /-- In a piece of a text that has been counted as a whole. -/
  | counted (e : Encoding)
deriving DecidableEq, Repr

def Origin.encoding : Origin → Encoding
  | .document e | .counted e => e
  | .entity => .utf8

/-- How many bytes have been read of the document itself, and how many of the texts of
entities. -/
structure Tally where
  direct : Nat
  indirect : Nat
deriving DecidableEq, Repr

/-- The number of bytes up to which texts of entities may be read in any case. -/
def freeExpansion : Nat := 8388608

/-- How many times as many bytes as of the document may be read beyond that. -/
def expansionFactor : Nat := 100

namespace Tally

/-- Count the first `count` characters of a text. -/
def add (t : Tally) (o : Origin) (count : Nat) (cs : List Char) : Tally :=
  match o with
  | .document e => { t with direct := e.sizeOf t.direct count cs }
  | .entity => { t with indirect := Encoding.utf8.sizeOf t.indirect count cs }
  | .counted _ => t

/-- Count a character that needs no declaration. -/
def addPredefined (t : Tally) : Tally := { t with indirect := t.indirect + 1 }

/-- Whether reading goes too far. -/
def exceeds (t : Tally) : Bool :=
  freeExpansion ≤ t.direct + t.indirect && expansionFactor * t.direct < t.direct + t.indirect

end Tally

/-- A limit on the number of steps that no document reaches without going too far:
each step reads a character or leaves an entity. -/
def Form.steps (f : Form) : Nat :=
  4 * (freeExpansion + (expansionFactor + 1) * (f.size + 1))

/-- A fault in a value; with a position when it is in the document itself and not in
the text of an entity. -/
structure ValueFault where
  fault : Fault
  pos : Option Nat
deriving DecidableEq, Repr

/-- What a value is read with. -/
structure ValueSetting where
  declarations : Declarations
  /-- Where the value stands. -/
  origin : Origin
  /-- The entities that it stands in. -/
  surrounding : List (List Char)
  /-- The limit on the number of steps. -/
  steps : Nat
deriving Repr

/-- A value in the making: what is still to be read of it, with the entities that
are open, innermost first, and what has been made so far, last first. -/
structure Expansion where
  pos : Nat
  outer : List Char
  inner : List (List Char × List Char)
  done : List Char
  tally : Tally
deriving Repr

namespace Expansion

/-- A blank, unless blanks do not count and it would be the first or follow another. -/
def pushBlank (isText : Bool) (done : List Char) : List Char :=
  if !isText && (done.isEmpty || done.head? == some ' ') then done else ' ' :: done

/-- Where the innermost text stands. -/
def origin (v : ValueSetting) (e : Expansion) : Origin :=
  if e.inner.isEmpty then v.origin else .entity

/-- Go on behind the first `count` characters of the innermost text. -/
def skip (v : ValueSetting) (e : Expansion) (count : Nat) (cs : List Char) :
    Except ValueFault Expansion :=
  let tally := e.tally.add (e.origin v) count cs
  if tally.exceeds then .error ⟨.amplification, none⟩
  else match e.inner with
    | [] => .ok { e with pos := e.pos + count, outer := cs.drop count, tally := tally }
    | (name, _) :: inner =>
      .ok { e with inner := (name, cs.drop count) :: inner, tally := tally }

/-- The place of a fault at a position of the innermost text. -/
def faultAt (e : Expansion) (fault : Fault) (pos : Nat) : ValueFault :=
  ⟨fault, if e.inner.isEmpty then some pos else none⟩

/-- Replace a reference to an entity; `next` is what is left behind it. -/
def refer (v : ValueSetting) (e next : Expansion) (name : List Char) :
    Except ValueFault Expansion :=
  match predefined? name with
  | some c => .ok { next with done := c :: next.done, tally := next.tally.addPredefined }
  | none =>
    match v.declarations.entities.lookup name with
    | none =>
      if v.declarations.isStrict then .error ⟨.undefinedEntity, none⟩ else .ok next
    | some entity =>
      if v.surrounding.contains name || e.inner.any fun i => i.1 == name then
        .error (e.faultAt .recursiveReference e.pos)
      else match entity with
        | .unparsed => .error (e.faultAt .unparsedReference e.pos)
        | .external => .error (e.faultAt .externalReference e.pos)
        | .text chars => .ok { next with inner := (name, chars) :: next.inner }

/-- Read the reference that starts a text. -/
def reference (v : ValueSetting) (isText : Bool) (e : Expansion) (cs : List Char) :
    Except ValueFault Expansion :=
  match scanReference (e.origin v).encoding (e.pos + 1) cs.tail with
  | .invalid pos => .error (e.faultAt .invalidToken pos)
  | .ended | .cut => .error (e.faultAt .invalidToken e.pos)
  | .found r pos _ => do
    let next ← e.skip v (pos - e.pos) cs
    match r with
    | .code n =>
      if !isLegalCode n then .error (e.faultAt .badCharacterReference e.pos)
      else if n == 0x20 then .ok { next with done := pushBlank isText next.done }
      else .ok { next with done := Char.ofNat n :: next.done }
    | .entity name => refer v e next name

/-- Read one character, or what stands for one, at the start of the innermost text.  In the
text of an entity a carriage return stands for itself, since its line ends are of one
kind already. -/
def step (v : ValueSetting) (isText : Bool) (e : Expansion) (c : Char) (rest : List Char) :
    Except ValueFault Expansion :=
  if c == '&' then e.reference v isText (c :: rest)
  else if c == '<' || c == fault then .error (e.faultAt .invalidToken e.pos)
  else do
    let isInDocument := e.inner.isEmpty && v.surrounding.isEmpty
    let isPair := isInDocument && c == '\r' && rest.head? == some '\n'
    let next ← e.skip v (if isPair then 2 else 1) (c :: rest)
    if isSpace c then .ok { next with done := pushBlank isText next.done }
    else .ok { next with done := c :: next.done }

/-- Read to the end.  Gives the value, and what has been read until then. -/
def run (v : ValueSetting) (isText : Bool) :
    Nat → Expansion → Except ValueFault (List Char × Tally)
  | 0, _ => .error ⟨.amplification, none⟩
  | fuel + 1, e =>
    match e.inner with
    | (_, []) :: inner => run v isText fuel { e with inner := inner }
    | (_, c :: rest) :: _ => do run v isText fuel (← e.step v isText c rest)
    | [] =>
      match e.outer with
      | [] =>
        let done := if isText then e.done else e.done.dropWhile (· == ' ')
        .ok (done.reverse, e.tally)
      | c :: rest => do run v isText fuel (← e.step v isText c rest)

end Expansion

/-- The value that a text in a tag or a declaration stands for; `tally` is what has been
read before. -/
def expandValue (v : ValueSetting) (tally : Tally) (isText : Bool) (pos : Nat)
    (cs : List Char) : Except ValueFault (List Char × Tally) :=
  Expansion.run v isText v.steps ⟨pos, cs, [], [], tally⟩

/-- A reference to a parameter entity or a lone percent sign, from behind the sign on;
the name if it is a reference. -/
def scanPercent (e : Encoding) (pos : Nat) (cs : List Char) : Scan (Option (List Char)) :=
  match cs with
  | [] => .ended
  | c :: _ =>
    if isSpace c || c == '%' then .found none pos cs
    else
      (scanName e pos cs).andThen fun name pos rest =>
        match rest with
        | [] => .ended
        | ';' :: rest => .found (some name) (pos + 1) rest
        | _ => .invalid pos

/-- The text of an entity as its declaration gives it: line endings are made line
feeds and codes the characters that they stand for; references to entities are
kept.  The fuel bounds the number of steps; `done` is the text so far, last first. -/
def entityText (e : Encoding) : Nat → Nat → List Char → List Char → Except ValueFault (List Char)
  | 0, _, done, _ => .ok done.reverse
  | _ + 1, _, done, [] => .ok done.reverse
  | fuel + 1, pos, done, '&' :: rest =>
    match scanReference e (pos + 1) rest with
    | .invalid p => .error ⟨.invalidToken, some p⟩
    | .ended | .cut => .error ⟨.invalidToken, some pos⟩
    | .found (.code n) pos' rest' =>
      if isLegalCode n then entityText e fuel pos' (Char.ofNat n :: done) rest'
      else .error ⟨.badCharacterReference, some pos⟩
    | .found (.entity name) pos' rest' =>
      entityText e fuel pos' (';' :: (name.reverse ++ '&' :: done)) rest'
  | _ + 1, pos, _, '%' :: rest =>
    match scanPercent e (pos + 1) rest with
    | .found (some _) _ _ => .error ⟨.illegalParameterReference, some pos⟩
    | .found none p _ | .invalid p => .error ⟨.invalidToken, some p⟩
    | .ended | .cut => .error ⟨.invalidToken, some pos⟩
  | fuel + 1, pos, done, '\r' :: '\n' :: rest => entityText e fuel (pos + 2) ('\n' :: done) rest
  | fuel + 1, pos, done, '\r' :: rest => entityText e fuel (pos + 1) ('\n' :: done) rest
  | fuel + 1, pos, done, c :: rest =>
    if isLegal c then entityText e fuel (pos + 1) (c :: done) rest
    else .error ⟨.invalidToken, some pos⟩

end Xml

end FindingLedger
