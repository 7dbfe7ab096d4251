/-
The element tree of the bytes of a document.

A document has a prolog, a root element, and after it nothing but white space,
comments and instructions.
-/
import FindingLedger.Xml.Content
import FindingLedger.Xml.Declaration
import FindingLedger.Xml.Doctype

namespace FindingLedger

namespace Xml

/-- What has been read before the root element. -/
structure RootPlace where
  declarations : Declarations
  tally : Tally
  /-- The position of the root element. -/
  pos : Nat
  /-- The text from there on. -/
  rest : List Char

/-- Read the prolog, which goes on at a position.  The fuel bounds the number of
tokens. -/
def readProlog (f : Form) : Nat → Prolog → Nat → List Char → Except Stop RootPlace
  | 0, _, pos, _ => .error ⟨.noElement, pos, true⟩
  | _ + 1, _, pos, [] =>
    .error ⟨if f.isOdd then .unclosedToken else .noElement, pos, true⟩
  | fuel + 1, p, pos, cs =>
    match scanProlog f.encoding pos cs with
    | .invalid pos => .error ⟨.invalidToken, pos, false⟩
    | .ended => .error ⟨.unclosedToken, pos, true⟩
    | .cut => .error ⟨.partialCharacter, pos, true⟩
    | .found (.root, _) _ _ =>
      if p.isDone then .ok ⟨p.declarations, p.tally, pos, cs⟩
      else .error ⟨.syntactic, pos, false⟩
    | .found (token, isOpen) pos' rest =>
      let isLast := isOpen && f.isOdd
      let token := if isLast then token.withHalfUnit else token
      let f := if isLast then { f with isOdd := false } else f
      let tally := p.tally.add (.document f.encoding) (pos' - pos) cs
      let p := { p with tally := tally }
      if tally.exceeds then .error ⟨.amplification, pos, false⟩
      else if token == .space then readProlog f fuel p pos' rest
      else match p.step f pos token with
        | .ok p' =>
          match p.handOnFault? f.encoding token pos (pos' - pos) cs with
          | some (fault, pos) => .error ⟨fault, pos, false⟩
          | none => readProlog f fuel p' pos' rest
        | .error fault => .error ⟨fault.fault, fault.pos.getD pos, isOpen⟩

/-- Check that nothing but white space, comments and instructions stands behind the root
element.  A carriage return at the very end is the last that is looked at. -/
def checkEpilog (f : Form) : Nat → Tally → Nat → List Char → Except Stop Unit
  | 0, _, _, _ => .ok ()
  | _ + 1, _, pos, [] => if f.isOdd then .error ⟨.unclosedToken, pos, true⟩ else .ok ()
  | fuel + 1, tally, pos, cs =>
    match scanProlog f.encoding pos cs with
    | .invalid pos => .error ⟨.invalidToken, pos, false⟩
    | .ended => .error ⟨.unclosedToken, pos, true⟩
    | .cut => .error ⟨.partialCharacter, pos, true⟩
    | .found (token, _) pos' rest =>
      let tally := tally.add (.document f.encoding) (pos' - pos) cs
      if tally.exceeds then .error ⟨.amplification, pos, false⟩
      else match token with
        | .space => if cs == ['\r'] then .ok () else checkEpilog f fuel tally pos' rest
        | .comment | .instruction .processing => checkEpilog f fuel tally pos' rest
        | _ => .error ⟨.junkAfterRoot, pos, false⟩

/-- Read a document from behind its declaration on. -/
def readBody (f : Form) (p : Prolog) (pos : Nat) (cs : List Char) : Except Stop Element := do
  let root ← readProlog f (cs.length + 1) p pos cs
  let (element, c) ← readRoot ⟨root.declarations, f⟩ root.tally root.pos root.rest
  checkEpilog f (c.rest.length + 1) c.tally c.pos c.rest
  .ok element

/-- The declaration at the start of a text, the position behind it, and what follows. -/
def declaration? (e : Encoding) (pos : Nat) (cs : List Char) :
    Option (Except Stop Declaration × Nat × List Char) :=
  match cs with
  | '<' :: '?' :: rest =>
    match scanInstruction e (pos + 2) rest with
    | .found (.declaration text) pos' rest =>
      let d := match Declaration.read (pos + 5) text with
        | .ok d => .ok d
        | .error pos => .error ⟨.malformedDeclaration, pos, false⟩
      some (d, pos', rest)
    | _ => none
  | _ => none

/-- Read a document whose bytes are in an encoding; `mark` tells whether a mark of the
encoding stands before it.  A declaration may switch to another encoding, in which the
places of faults are then counted from the start of the document on. -/
def readEncoded (e : Encoding) (mark : Bool) (bs : List UInt8) : Except Error Element :=
  let s := e.decode bs
  let start := if mark then 1 else 0
  let cs := s.chars.drop start
  let located {α : Type} (s : Source) (r : Except Stop α) : Except Error α :=
    r.mapError fun stop => stop.error s.chars
  let form : Form := ⟨e, s.isOdd, bs.length⟩
  match declaration? e start cs with
  | none =>
    located s (readBody form (.initial false (e.sizeOf 0 start s.chars)) start cs)
  | some (.error stop, _, _) => .error (stop.error s.chars)
  | some (.ok d, pos, rest) =>
    match d.resolveEncoding e with
    | .error (.inl fault) => .error (.badEncoding fault)
    | .error (.inr (fault, pos)) => .error (Stop.error s.chars ⟨fault, pos, false⟩)
    | .ok e' =>
      let read := e.sizeOf 0 pos s.chars
      let prolog := Prolog.initial d.standalone read
      if e' == e then located s (readBody form prolog pos rest)
      else
        let before := (e'.decode (bs.take read)).chars
        let after := e'.decode (bs.drop read)
        let s' : Source := ⟨before ++ after.chars, after.isOdd⟩
        located s' (readBody ⟨e', after.isOdd, bs.length⟩ prolog before.length after.chars)

def read (bs : List UInt8) : Except Error Element :=
  match detect? bs with
  | none => .error (.malformed .unclosedToken 1 0 true)
  | some (e, mark) => readEncoded e mark bs

end Xml

end FindingLedger
