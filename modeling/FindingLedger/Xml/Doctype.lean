/-
What stands before the root element: instructions, comments and the document type
with its declarations.

Tokens are taken one by one by a machine whose place says which tokens may come.
Declarations are checked to the letter; those of entities and attributes are kept.
-/
import FindingLedger.Xml.Entity

namespace FindingLedger

namespace Xml

/-- How often a part of a content model may occur, by the mark behind it. -/
inductive Occurrence
  | one | optional | anyNumber | atLeastOne
deriving DecidableEq, Repr

/-- Kinds of names: with no colon, with one between two names, or of another form. -/
inductive NameKind
  | plain | qualified | token
deriving DecidableEq, Repr

/-- A token before the root element. -/
inductive PrologToken
  | literal (text : List Char)
  | declOpen (keyword : List Char)
  | conditionOpen | conditionClose
  | comment
  | instruction (i : Instruction)
  | space
  | percent
  | parameterReference
  | comma | bar | declClose | openBracket | closeBracket | openParen
  | closeParen (o : Occurrence)
  | poundName (name : List Char)
  | name (kind : NameKind) (name : List Char) (o : Occurrence)
  /-- The root element; its bracket is not part of the token. -/
  | root
deriving DecidableEq, Repr

/-- A token, and whether it might have gone on if the text had. -/
abbrev OpenToken := PrologToken × Bool

/-- A token that half a unit of two bytes at the end of the document is taken for a part
of. -/
def PrologToken.withHalfUnit : PrologToken → PrologToken
  | .literal text => .literal (text ++ [fault])
  | .poundName text => .poundName (text ++ [fault])
  | .name kind text o => .name kind (text ++ [fault]) o
  | token => token

/-- The mark behind a part of a content model. -/
def occurrence? : Char → Option Occurrence
  | '?' => some .optional
  | '*' => some .anyNumber
  | '+' => some .atLeastOne
  | _ => none

/-- The text of a literal and its mark; `done` is the text so far, last first. -/
def scanLiteral (mark : Char) (pos : Nat) (done : List Char) : List Char → Scan OpenToken
  | [] => .ended
  | c :: rest =>
    if !isLegal c then .at_ c pos
    else if c == mark then
      match rest with
      | [] => .found (.literal done.reverse, true) (pos + 1) []
      | d :: _ =>
        if isSpace d || d == '>' || d == '%' || d == '[' then
          .found (.literal done.reverse, false) (pos + 1) rest
        else .invalid (pos + 1)
    else scanLiteral mark (pos + 1) (c :: done) rest

/-- A keyword behind `<!`. -/
def scanKeyword (e : Encoding) (pos : Nat) (cs : List Char) : Scan OpenToken :=
  let keyword := cs.takeWhile e.isKeywordChar
  let pos' := pos + keyword.length
  match cs.dropWhile e.isKeywordChar with
  | [] => .ended
  | c :: rest =>
    if keyword.isEmpty then .invalid pos
    else if c == '%' then
      match rest with
      | [] => .ended
      | d :: _ =>
        if isSpace d || d == '%' then .invalid pos'
        else .found (.declOpen keyword, false) pos' (c :: rest)
    else if isSpace c then .found (.declOpen keyword, false) pos' (c :: rest)
    else .invalid pos'

/-- What stands behind `<!`. -/
def scanDeclaration (e : Encoding) (pos : Nat) : List Char → Scan OpenToken
  | [] => .ended
  | '-' :: rest => (scanComment (pos + 1) rest).map fun _ => (.comment, false)
  | '[' :: rest => .found (.conditionOpen, false) (pos + 1) rest
  | cs => scanKeyword e pos cs

/-- A name behind a number sign. -/
def scanPound (e : Encoding) (pos : Nat) (cs : List Char) : Scan OpenToken :=
  (scanName e pos cs).andThen fun name pos rest =>
    match rest with
    | [] => .found (.poundName name, true) pos []
    | c :: _ =>
      if isSpace c || [')', '>', '%', '|'].contains c then
        .found (.poundName name, false) pos rest
      else .invalid pos

/-- A name of any kind, from behind its first character on. -/
def scanNames (e : Encoding) (kind : NameKind) (pos : Nat) (done : List Char) :
    List Char → Scan OpenToken
  | [] => .found (.name kind done.reverse .one, true) pos []
  | ':' :: rest =>
    match kind with
    | .plain =>
      match rest with
      | [] => .ended
      | d :: rest' =>
        if e.isNameChar d then scanNames e .qualified (pos + 2) (d :: ':' :: done) rest'
        else scanNames e .token (pos + 1) (':' :: done) (d :: rest')
    | _ => scanNames e .token (pos + 1) (':' :: done) rest
  | c :: rest =>
    if e.isNameChar c then scanNames e kind (pos + 1) (c :: done) rest
    else if isSpace c || ['>', ')', ',', '|', '[', '%'].contains c then
      .found (.name kind done.reverse .one, false) pos (c :: rest)
    else match occurrence? c with
      | some o =>
        if kind == .token then .invalid pos
        else .found (.name kind done.reverse o, false) (pos + 1) rest
      | none => .at_ c pos

/-- What stands behind a closing parenthesis. -/
def scanClose (pos : Nat) (cs : List Char) : Scan OpenToken :=
  match cs with
  | [] => .found (.closeParen .one, true) pos []
  | c :: rest =>
    match occurrence? c with
    | some o => .found (.closeParen o, false) (pos + 1) rest
    | none =>
      if isSpace c || ['>', ',', '|', ')'].contains c then .found (.closeParen .one, false) pos cs
      else .invalid pos

/-- What stands behind a closing bracket. -/
def scanCloseBracket (pos : Nat) (cs : List Char) : Scan OpenToken :=
  match cs with
  | [] => .found (.closeBracket, true) pos []
  | [']'] => .ended
  | ']' :: '>' :: rest => .found (.conditionClose, false) (pos + 2) rest
  | cs => .found (.closeBracket, false) pos cs

/-- A token before the root element. -/
def scanProlog (e : Encoding) (pos : Nat) : List Char → Scan OpenToken
  | [] => .ended
  | c :: rest =>
    let one (t : PrologToken) : Scan OpenToken := .found (t, false) (pos + 1) rest
    if isSpace c then one .space
    else match c with
      | '"' | '\'' => scanLiteral c (pos + 1) [] rest
      | '<' =>
        match rest with
        | [] => .ended
        | '!' :: rest => scanDeclaration e (pos + 2) rest
        | '?' :: rest => (scanInstruction e (pos + 2) rest).map fun i => (.instruction i, false)
        | d :: _ =>
          if e.mayStartName d then .found (.root, false) pos (c :: rest)
          else .invalid (pos + 1)
      | '%' =>
        (scanPercent e (pos + 1) rest).map fun name =>
          (if name.isSome then .parameterReference else .percent, false)
      | ',' => one .comma
      | '[' => one .openBracket
      | ']' => scanCloseBracket (pos + 1) rest
      | '(' => one .openParen
      | ')' => scanClose (pos + 1) rest
      | '|' => one .bar
      | '>' => one .declClose
      | '#' => scanPound e (pos + 1) rest
      | c =>
        if e.isNameStart c then scanNames e .plain (pos + 1) [c] rest
        else if e.isNameChar c || c == ':' then scanNames e .token (pos + 1) [c] rest
        else .at_ c pos

/-- Where in the prolog a token stands. -/
inductive Place
  | top | afterDoctype
  | doctypeName | doctypeSource | doctypePublic | doctypeSystem | doctypeBody | doctypeEnd
  | subset
  | entityStart | parameterStart
  | entityBody (isParameter : Bool) | entityPublic (isParameter : Bool)
  | entitySystem (isParameter : Bool) | entityEnd (isParameter : Bool) | entityNotation
  | notationStart | notationSource | notationPublic | notationSystem | notationEnd
  | attributesOf | attributeStart | attributeType | choice | choiceEnd
  | notationOpen | notationChoice | notationChoiceEnd | attributeDefault | attributeFixed
  | elementStart | elementBody | groupStart | mixedEnd | mixedName | mixedMore
  | groupPart | groupEnd
  | declEnd
deriving DecidableEq, Repr

/-- The prolog so far: where the next token stands, what has been declared, and the
declaration that is open.  Groups of a content model are kept innermost first, each
with the mark between its parts once one was seen. -/
structure Prolog where
  place : Place
  declarations : Declarations
  entity : Option (List Char)
  elementName : List Char
  attributeName : List Char
  isText : Bool
  isIdentity : Bool
  groups : List (Option Char)
  tally : Tally
deriving Repr

/-- The prolog of a document that may say that nothing is missing, of which some bytes
have been read. -/
def Prolog.initial (standalone : Bool) (size : Nat) : Prolog :=
  ⟨.top, { Declarations.none with standalone := standalone }, none, [], [], false, false, [],
    ⟨size, 0⟩⟩

/-- Whether a character may occur in a public identifier. -/
def isPublicChar (c : Char) : Bool :=
  c.isAlphanum || " \n\r-'()+,./:=?;!*#@$_%".toList.contains c

namespace Prolog

def at_ (p : Prolog) (place : Place) : Except ValueFault Prolog :=
  .ok { p with place := place }

/-- No token of this kind may stand here. -/
def refuse (token : PrologToken) : Except ValueFault Prolog :=
  match token with
  | .parameterReference => .error ⟨.illegalParameterReference, none⟩
  | .instruction (.declaration _) => .error ⟨.misplacedDeclaration, none⟩
  | _ => .error ⟨.syntactic, none⟩

/-- Check a public identifier whose text starts at a position. -/
def checkPublic (pos : Nat) (text : List Char) : Except ValueFault Unit :=
  match text.dropWhile isPublicChar with
  | [] => .ok ()
  | _ => .error ⟨.publicIdentifier, some (pos + (text.takeWhile isPublicChar).length)⟩

/-- Declare the open entity, if its declaration is the first of its name and counts. -/
def declareEntity (p : Prolog) (e : Entity) : Prolog :=
  match p.entity with
  | some name =>
    if p.declarations.counting && (p.declarations.entities.lookup name).isNone then
      { p with declarations :=
          { p.declarations with entities := (name, e) :: p.declarations.entities } }
    else p
  | none => p

def takeEntityValue (p : Prolog) (e : Encoding) (pos : Nat) (text : List Char) :
    Except ValueFault Prolog :=
  if p.declarations.counting then
    match entityText e (text.length + 1) pos [] text with
    | .error fault => .error fault
    | .ok chars => (p.declareEntity (.text chars)).at_ .declEnd
  else p.at_ .declEnd

def declareAttribute (p : Prolog) (value : Option (List Char)) : Prolog :=
  let a : DeclaredAttribute := ⟨p.attributeName, p.isText, value⟩
  let isIdentity := p.isIdentity && value.isNone
  if p.declarations.counting then
    { p with declarations := p.declarations.declareAttribute p.elementName a isIdentity }
  else p

def takeDefault (p : Prolog) (f : Form) (pos : Nat) (text : List Char) :
    Except ValueFault Prolog :=
  let setting : ValueSetting := ⟨p.declarations, .counted f.encoding, [], f.steps⟩
  if p.declarations.counting then
    match expandValue setting p.tally p.isText pos text with
    | .error fault => .error fault
    | .ok (value, tally) =>
      ({ p with tally := tally }.declareAttribute (some value)).at_ .attributeStart
  else p.at_ .attributeStart

def closeGroup (p : Prolog) : Except ValueFault Prolog :=
  match p.groups with
  | _ :: outer =>
    { p with groups := outer }.at_ (if outer.isEmpty then .declEnd else .groupEnd)
  | [] => p.at_ .declEnd

/-- Take the mark between two parts of a group: it is the same throughout a group. -/
def takeConnector (p : Prolog) (c : Char) (token : PrologToken) : Except ValueFault Prolog :=
  match p.groups with
  | some d :: _ => if d == c then p.at_ .groupPart else refuse token
  | none :: outer => { p with groups := some c :: outer }.at_ .groupPart
  | [] => refuse token

def isName : NameKind → Bool
  | .token => false
  | _ => true

def attributeTypes : List String :=
  ["CDATA", "ID", "IDREF", "IDREFS", "ENTITY", "ENTITIES", "NMTOKEN", "NMTOKENS"]

/-- Take a token of the declaration of an entity. -/
def stepEntity (p : Prolog) (e : Encoding) (pos : Nat) (token : PrologToken) : Except ValueFault Prolog :=
  match p.place, token with
  | .entityStart, .percent => { p with entity := none }.at_ .parameterStart
  | .entityStart, .name .plain name .one =>
    let entity := if (predefined? name).isSome then none else some name
    { p with entity := entity }.at_ (.entityBody false)
  | .parameterStart, .name .plain _ .one => p.at_ (.entityBody true)
  | .entityBody q, .name .plain name .one =>
    if name == "SYSTEM".toList then p.at_ (.entitySystem q)
    else if name == "PUBLIC".toList then p.at_ (.entityPublic q)
    else refuse token
  | .entityBody _, .literal text => p.takeEntityValue e (pos + 1) text
  | .entityPublic q, .literal text => do
    checkPublic (pos + 1) text
    p.at_ (.entitySystem q)
  | .entitySystem q, .literal _ => p.at_ (.entityEnd q)
  | .entityEnd _, .declClose => (p.declareEntity .external).at_ .subset
  | .entityEnd false, .name .plain name .one =>
    if name == "NDATA".toList then p.at_ .entityNotation else refuse token
  | .entityNotation, .name .plain _ .one => (p.declareEntity .unparsed).at_ .declEnd
  | _, token => refuse token

/-- Take a token of the declaration of a notation. -/
def stepNotation (p : Prolog) (pos : Nat) (token : PrologToken) : Except ValueFault Prolog :=
  match p.place, token with
  | .notationStart, .name .plain _ .one => p.at_ .notationSource
  | .notationSource, .name .plain name .one =>
    if name == "SYSTEM".toList then p.at_ .notationSystem
    else if name == "PUBLIC".toList then p.at_ .notationPublic
    else refuse token
  | .notationPublic, .literal text => do
    checkPublic (pos + 1) text
    p.at_ .notationEnd
  | .notationSystem, .literal _ => p.at_ .declEnd
  | .notationEnd, .literal _ => p.at_ .declEnd
  | .notationEnd, .declClose => p.at_ .subset
  | _, token => refuse token

/-- Take a token of a declaration of attributes. -/
def stepAttributes (p : Prolog) (f : Form) (pos : Nat) (token : PrologToken) :
    Except ValueFault Prolog :=
  match p.place, token with
  | .attributesOf, .name kind name .one =>
    if isName kind then { p with elementName := name }.at_ .attributeStart else refuse token
  | .attributeStart, .declClose => p.at_ .subset
  | .attributeStart, .name kind name .one =>
    if isName kind then
      { p with attributeName := name, isText := false, isIdentity := false }.at_ .attributeType
    else refuse token
  | .attributeType, .name .plain name .one =>
    let type := String.ofList name
    if attributeTypes.contains type then
      { p with isText := type == "CDATA", isIdentity := type == "ID" }.at_ .attributeDefault
    else if type == "NOTATION" then p.at_ .notationOpen
    else refuse token
  | .attributeType, .openParen => p.at_ .choice
  | .choice, .name _ _ .one => p.at_ .choiceEnd
  | .choiceEnd, .closeParen .one => p.at_ .attributeDefault
  | .choiceEnd, .bar => p.at_ .choice
  | .notationOpen, .openParen => p.at_ .notationChoice
  | .notationChoice, .name .plain _ .one => p.at_ .notationChoiceEnd
  | .notationChoiceEnd, .closeParen .one => p.at_ .attributeDefault
  | .notationChoiceEnd, .bar => p.at_ .notationChoice
  | .attributeDefault, .poundName name =>
    if name == "IMPLIED".toList || name == "REQUIRED".toList then
      (p.declareAttribute none).at_ .attributeStart
    else if name == "FIXED".toList then p.at_ .attributeFixed
    else refuse token
  | .attributeDefault, .literal text => p.takeDefault f (pos + 1) text
  | .attributeFixed, .literal text => p.takeDefault f (pos + 1) text
  | _, token => refuse token

/-- Take a token of the declaration of an element. -/
def stepElement (p : Prolog) (token : PrologToken) : Except ValueFault Prolog :=
  match p.place, token with
  | .elementStart, .name kind _ .one => if isName kind then p.at_ .elementBody else refuse token
  | .elementBody, .name .plain name .one =>
    if name == "EMPTY".toList || name == "ANY".toList then p.at_ .declEnd else refuse token
  | .elementBody, .openParen => { p with groups := [none] }.at_ .groupStart
  | .groupStart, .poundName name =>
    if name == "PCDATA".toList then p.at_ .mixedEnd else refuse token
  | .groupStart, .openParen => { p with groups := none :: p.groups }.at_ .groupPart
  | .groupStart, .name kind _ _ => if isName kind then p.at_ .groupEnd else refuse token
  | .mixedEnd, .closeParen .one => p.at_ .declEnd
  | .mixedEnd, .closeParen .anyNumber => p.at_ .declEnd
  | .mixedEnd, .bar => p.at_ .mixedName
  | .mixedName, .name kind _ .one => if isName kind then p.at_ .mixedMore else refuse token
  | .mixedMore, .closeParen .anyNumber => p.at_ .declEnd
  | .mixedMore, .bar => p.at_ .mixedName
  | .groupPart, .openParen => { p with groups := none :: p.groups }.at_ .groupPart
  | .groupPart, .name kind _ _ => if isName kind then p.at_ .groupEnd else refuse token
  | .groupEnd, .closeParen _ => p.closeGroup
  | .groupEnd, .comma => p.takeConnector ',' token
  | .groupEnd, .bar => p.takeConnector '|' token
  | _, token => refuse token

/-- Take a token of the document type outside of its declarations. -/
def stepDoctype (p : Prolog) (pos : Nat) (token : PrologToken) : Except ValueFault Prolog :=
  match p.place, token with
  | .top, .comment | .top, .instruction .processing => .ok p
  | .top, .declOpen keyword =>
    if keyword == "DOCTYPE".toList then p.at_ .doctypeName else refuse token
  | .afterDoctype, .comment | .afterDoctype, .instruction .processing => .ok p
  | .doctypeName, .name kind _ .one => if isName kind then p.at_ .doctypeSource else refuse token
  | .doctypeSource, .openBracket => p.at_ .subset
  | .doctypeSource, .declClose => p.at_ .afterDoctype
  | .doctypeSource, .name .plain name .one =>
    if name == "SYSTEM".toList then p.at_ .doctypeSystem
    else if name == "PUBLIC".toList then p.at_ .doctypePublic
    else refuse token
  | .doctypePublic, .literal text => do
    checkPublic (pos + 1) text
    p.at_ .doctypeSystem
  | .doctypeSystem, .literal _ =>
    { p with declarations := { p.declarations with incomplete := true } }.at_ .doctypeBody
  | .doctypeBody, .openBracket => p.at_ .subset
  | .doctypeBody, .declClose => p.at_ .afterDoctype
  | .doctypeEnd, .declClose => p.at_ .afterDoctype
  | .subset, .comment | .subset, .instruction .processing => .ok p
  | .subset, .declOpen keyword =>
    match String.ofList keyword with
    | "ENTITY" => p.at_ .entityStart
    | "ATTLIST" => p.at_ .attributesOf
    | "ELEMENT" => p.at_ .elementStart
    | "NOTATION" => p.at_ .notationStart
    | _ => refuse token
  | .subset, .parameterReference =>
    let d := p.declarations
    .ok { p with declarations := { d with incomplete := true, counting := d.standalone } }
  | .subset, .closeBracket => p.at_ .doctypeEnd
  | _, token => refuse token

/-- Take a token other than white space. -/
def step (p : Prolog) (f : Form) (pos : Nat) (token : PrologToken) : Except ValueFault Prolog :=
  match p.place with
  | .entityStart | .parameterStart | .entityBody _ | .entityPublic _ | .entitySystem _
  | .entityEnd _ | .entityNotation => p.stepEntity f.encoding pos token
  | .notationStart | .notationSource | .notationPublic | .notationSystem | .notationEnd =>
    p.stepNotation pos token
  | .attributesOf | .attributeStart | .attributeType | .choice | .choiceEnd | .notationOpen
  | .notationChoice | .notationChoiceEnd | .attributeDefault | .attributeFixed =>
    p.stepAttributes f pos token
  | .elementStart | .elementBody | .groupStart | .mixedEnd | .mixedName | .mixedMore
  | .groupPart | .groupEnd => p.stepElement token
  | .declEnd =>
    match token with
    | .declClose => p.at_ .subset
    | token => refuse token
  | _ => p.stepDoctype pos token

/-- Whether a literal that may stand here is handed on once it has been read. -/
def handsOnLiteral (p : Prolog) : Bool :=
  p.place != .doctypePublic && p.place != .doctypeSystem

/-- The fault that handing on a token shows, and its position; the token is the start of a
text of which it takes `count` characters. -/
def handOnFault? (p : Prolog) (e : Encoding) (token : PrologToken) (pos count : Nat)
    (cs : List Char) : Option (Fault × Nat) :=
  match token with
  | .literal _ =>
    if p.handsOnLiteral && !e.isDirect then pieceFault? pieceSize pos (cs.take count) else none
  | _ => none

/-- Whether the root element may start here. -/
def isDone (p : Prolog) : Bool :=
  p.place == .top || p.place == .afterDoctype

end Prolog

end Xml

end FindingLedger
