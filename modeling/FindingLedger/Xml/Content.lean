/-
The content of a document from its root element on.

A machine reads the characters of the document and of the entities that it refers
to.  It keeps the elements that are open; each knows what has been closed inside
of it.
-/
import FindingLedger.Xml.Element
import FindingLedger.Xml.Namespace

namespace FindingLedger

namespace Xml

/-- An element whose end tag has not come; its text and its children stand last first. -/
structure OpenElement where
  rawName : List Char
  tag : List Char
  attributes : List (List Char × List Char)
  text : List Char
  children : List Element
  outer : Bindings

/-- The element, once its end tag has come. -/
def OpenElement.close (e : OpenElement) : Element :=
  .node (String.ofList e.tag)
    (e.attributes.map fun a => (String.ofList a.1, String.ofList a.2))
    (String.ofList e.text.reverse) e.children.reverse

/-- The text of an entity that is being read: how many elements were open when its
reading began, and what is still to be read. -/
structure OpenEntity where
  name : List Char
  level : Nat
  rest : List Char

/-- A document in the middle of its content. -/
structure Content where
  /-- The position of `rest`. -/
  pos : Nat
  rest : List Char
  /-- The position of the reference that led out of the document. -/
  reference : Nat
  /-- The entities that are open, innermost first. -/
  entities : List OpenEntity
  /-- The elements that are open, innermost first. -/
  elements : List OpenElement
  /-- How many they are. -/
  depth : Nat
  bindings : Bindings
  tally : Tally

/-- What does not change while a document is read. -/
structure Setting where
  declarations : Declarations
  form : Form

/-- What a step comes to. -/
inductive Outcome
  | more (c : Content)
  /-- The root element is closed, and the content stands behind it. -/
  | root (e : Element) (c : Content)
  | stop (s : Stop)

namespace Content

/-- A stop at a position of the innermost text; inside of an entity it shows at the
reference that led there. -/
def fail (c : Content) (fault : Fault) (pos : Nat) : Outcome :=
  .stop ⟨fault, if c.entities.isEmpty then pos else c.reference, false⟩

/-- A stop that only the end of the document shows. -/
def Setting.failAtEnd (s : Setting) (fault : Fault) (pos : Nat) : Outcome :=
  .stop ⟨if s.form.isOdd then .unclosedToken else fault, pos, true⟩

/-- A stop inside of a piece that the text ends in. -/
def failEnded (c : Content) (s : Setting) (fault : Fault) (pos : Nat) : Outcome :=
  if c.entities.isEmpty then Setting.failAtEnd s fault pos
  else .stop ⟨fault, c.reference, false⟩

/-- Where the innermost text stands. -/
def origin (s : Setting) (c : Content) : Origin :=
  if c.entities.isEmpty then .document s.form.encoding else .entity

/-- Go on behind the piece of the innermost text `cs` that ends at a position. -/
def moveTo (s : Setting) (c : Content) (pos : Nat) (cs : List Char) (go : Content → Outcome) :
    Outcome :=
  let count := pos - c.pos
  let tally := c.tally.add (c.origin s) count cs
  if tally.exceeds then c.fail .amplification c.pos
  else match c.entities with
    | [] => go { c with pos := pos, rest := cs.drop count, tally := tally }
    | e :: outer =>
      go { c with entities := { e with rest := cs.drop count } :: outer, tally := tally }

/-- Add a character to the text of the innermost element. -/
def addChar (c : Content) (char : Char) : Content :=
  match c.elements with
  | [] => c
  | e :: outer => { c with elements := { e with text := char :: e.text } :: outer }

/-- Add the characters of a text.  In the text of an entity, line ends are of one kind
already. -/
def addText (c : Content) (cs : List Char) : Content :=
  (if c.entities.isEmpty then Utf8.plainLines cs else cs).foldl addChar c

/-- The number of elements that were open where the innermost text began. -/
def level (c : Content) : Nat :=
  match c.entities with
  | [] => 0
  | e :: _ => e.level

def add (c : Content) (e : Element) : Outcome :=
  match c.elements with
  | [] => .root e c
  | parent :: outer =>
    .more { c with elements := { parent with children := e :: parent.children } :: outer }

/-- Take a start tag; `next` is the content behind it.  Its values are counted once more,
unless it is an end tag too. -/
def openTag (s : Setting) (c next : Content) (tag : RawTag) : Outcome :=
  let origin := if tag.isEmpty then .counted (c.origin s).encoding else c.origin s
  let setting : ValueSetting :=
    ⟨s.declarations, origin, c.entities.map OpenEntity.name, s.form.steps⟩
  match tag.resolve setting next.tally c.bindings with
  | .error f => c.fail f.fault (f.pos.getD c.pos)
  | .ok t =>
    let e : OpenElement := ⟨tag.name, t.tag, t.attributes, [], [], c.bindings⟩
    let next := { next with tally := t.tally }
    if tag.isEmpty then next.add e.close
    else
      .more { next with
        elements := e :: next.elements, depth := next.depth + 1, bindings := t.bindings }

def closeTag (c next : Content) (name : List Char) : Outcome :=
  match c.elements with
  | [] => c.fail .unbalancedEntity c.pos
  | e :: outer =>
    if c.depth == c.level then c.fail .unbalancedEntity c.pos
    else if e.rawName != name then c.fail .mismatchedTag (c.pos + 2)
    else { next with elements := outer, depth := next.depth - 1, bindings := e.outer }.add e.close

/-- The text of a CDATA section and its end; `done` is the text so far, last first. -/
def scanCdata (pos : Nat) (done : List Char) : List Char → Scan (List Char)
  | [] => .ended
  | ']' :: ']' :: '>' :: rest => .found done.reverse (pos + 3) rest
  | c :: rest => if isLegal c then scanCdata (pos + 1) (c :: done) rest else .at_ c pos

/-- How many characters at the end of an open CDATA section are not taken as text yet:
brackets that might close it, or a carriage return that a line feed might follow. -/
def pendingCdata (cs : List Char) : Nat :=
  match cs.reverse with
  | ']' :: ']' :: _ => 2
  | ']' :: _ => 1
  | '\r' :: _ => 1
  | _ => 0

/-- A stop at a character that the end of the document cuts. -/
def failCut (pos : Nat) : Outcome := .stop ⟨.partialCharacter, pos, true⟩

/-- Take a CDATA section, whose opening starts the text `cs` and ends at a position. -/
def takeCdata (s : Setting) (c : Content) (pos : Nat) (cs : List Char) : Outcome :=
  let rest := cs.drop (pos - c.pos)
  match scanCdata pos [] rest with
  | .found text pos _ => c.moveTo s pos cs fun next => .more (next.addText text)
  | .invalid pos => c.fail .invalidToken pos
  | .ended =>
    if c.entities.isEmpty then
      .stop ⟨.unclosedCdata, pos + rest.length - pendingCdata rest, true⟩
    else c.fail .unclosedCdata c.pos
  | .cut => failCut (pos + (rest.takeWhile isLegal).length)

/-- Take markup, which starts the text `cs`. -/
def takeMarkup (s : Setting) (c : Content) (cs : List Char) : Outcome :=
  let e := (c.origin s).encoding
  if isShortCdataOpen e cs.tail then
    if c.entities.isEmpty then .stop ⟨.unclosedToken, c.pos, true⟩
    else c.fail .unclosedToken c.pos
  else match scanMarkup e (s.form.size + 1) (c.pos + 1) cs.tail with
    | .invalid pos => c.fail .invalidToken pos
    | .ended => c.failEnded s .unclosedToken c.pos
    | .cut => failCut c.pos
    | .found .cdataOpen pos _ => c.takeCdata s pos cs
    | .found markup pos _ =>
      c.moveTo s pos cs fun next =>
        match markup with
        | .startTag tag => c.openTag s next tag
        | .endTag name => c.closeTag next name
        | .instruction (.declaration _) => c.fail .misplacedDeclaration c.pos
        | _ => .more next

/-- Refer to an entity; `next` is the content behind the reference. -/
def refer (s : Setting) (c next : Content) (name : List Char) : Outcome :=
  let unresolved := (c.origin s).encoding.unresolved ('&' :: name ++ [';'])
  match predefined? name with
  | some char => .more ({ next with tally := next.tally.addPredefined }.addChar char)
  | none =>
    match s.declarations.entities.lookup name with
    | none =>
      if s.declarations.isStrict then c.fail .undefinedEntity c.pos else c.fail unresolved c.pos
    | some entity =>
      if c.entities.any fun e => e.name == name then c.fail .recursiveReference c.pos
      else match entity with
        | .unparsed => c.fail .unparsedReference c.pos
        | .external => c.fail unresolved c.pos
        | .text chars =>
          let reference := if c.entities.isEmpty then c.pos else c.reference
          .more { next with
            entities := ⟨name, c.depth, chars⟩ :: next.entities
            reference := reference }

/-- Take a reference, which starts the text `cs`. -/
def takeReference (s : Setting) (c : Content) (cs : List Char) : Outcome :=
  match scanReference (c.origin s).encoding (c.pos + 1) cs.tail with
  | .invalid pos => c.fail .invalidToken pos
  | .ended => c.failEnded s .unclosedToken c.pos
  | .cut => failCut c.pos
  | .found r pos _ =>
    c.moveTo s pos cs fun next =>
      match r with
      | .code n =>
        if isLegalCode n then .more (next.addChar (Char.ofNat n))
        else c.fail .badCharacterReference c.pos
      | .entity name => c.refer s next name

/-- A character that may go on a run of text. -/
def isPlain (c : Char) : Bool :=
  isLegal c && ['<', '&', ']', '\r', '\n'].all (· != c)

/-- Take what stands at the start of the innermost text. -/
def take (s : Setting) (c : Content) (first : Char) (rest : List Char) : Outcome :=
  let cs := first :: rest
  if first == '<' then c.takeMarkup s cs
  else if first == '&' then c.takeReference s cs
  else if first == cutChar then failCut c.pos
  else if !isLegal first then c.fail .invalidToken c.pos
  else if first == ']' && rest.take 2 == [']', '>'] then c.fail .invalidToken (c.pos + 2)
  else if first == '\r' && rest.isEmpty && c.entities.isEmpty then .stop ⟨.noElement, c.pos, true⟩
  else if first == ']' && (rest.isEmpty || rest == [']']) && c.entities.isEmpty then
    .stop ⟨.noElement, c.pos + 1 + rest.length, true⟩
  else if first == '\r' && c.entities.isEmpty then
    let isPair := rest.head? == some '\n'
    c.moveTo s (c.pos + if isPair then 2 else 1) cs fun next => .more (next.addChar '\n')
  else
    let run := if isPlain first then first :: rest.takeWhile isPlain else [first]
    c.moveTo s (c.pos + run.length) cs fun next => .more (next.addText run)

def step (s : Setting) (c : Content) : Outcome :=
  match c.entities with
  | ⟨_, level, []⟩ :: outer =>
    if c.depth == level then .more { c with entities := outer }
    else c.fail .unbalancedEntity c.pos
  | ⟨_, _, first :: rest⟩ :: _ => c.take s first rest
  | [] =>
    match c.rest with
    | [] => Setting.failAtEnd s .noElement c.pos
    | first :: rest => c.take s first rest

/-- Read to the end of the root element.  The fuel bounds the number of steps. -/
def run (s : Setting) : Nat → Content → Except Stop (Element × Content)
  | 0, c => .error ⟨.amplification, c.pos, false⟩
  | fuel + 1, c =>
    match c.step s with
    | .more c => run s fuel c
    | .root e c => .ok (e, c)
    | .stop stop => .error stop

end Content

/-- Read the root element that starts at a position; `tally` is what has been read
before.  Gives the content behind it too. -/
def readRoot (s : Setting) (tally : Tally) (pos : Nat) (cs : List Char) :
    Except Stop (Element × Content) :=
  Content.run s s.form.steps ⟨pos, cs, 0, [], [], 0, .initial, tally⟩

end Xml

end FindingLedger
