/-
The nodes that the tokens of a document make.

Every reader takes the tokens of what it reads and says what it found instead when it
meets others.  A text holds at most one document.
-/
import FindingLedger.Yaml.Node
import FindingLedger.Yaml.TokenStream

namespace FindingLedger

namespace Yaml

/-- What is read from: the tokens, the handles of tags, the nodes so far, those of them
that have names, and the number of collections that are open. -/
structure Reader where
  tokens : TokenStream
  handles : List (String × String)
  graph : Graph
  anchors : List (String × NodeId)
  depth : Nat

/-- Reading, which takes tokens and may meet a fault. -/
abbrev Reading := StateT Reader (Except Error)

namespace Reading

/-- The next token, which is left there. -/
def peek : Reading Token := fun r => do
  let (t, tokens) ← r.tokens.peek
  .ok (t, { r with tokens })

def take : Reading Token := do
  let t ← peek
  modify fun r => { r with tokens := r.tokens.drop }
  return t

/-- Whether the next token is of one of some kinds. -/
def sees (kinds : List Kind) : Reading Bool := do
  return kinds.contains (← peek).kind

def problem {α : Type} (context : Option (Activity × Option Mark)) (what : Problem)
    (mark : Mark) : Reading α :=
  throw (.marked .parsing context what mark)

/-- Stop at the next token, which is not what has to come. -/
def unexpected {α : Type} (activity : Activity) (start : Mark) (what : String → Problem) :
    Reading α := do
  let t ← peek
  problem (some (activity, some start)) (what t.kind.name) t.start

end Reading

open Reading

/-- What may stand before the content of a node. -/
structure Properties where
  start : Mark
  anchor : Option String
  tag : Option String
deriving Repr

/-- The full name of a tag. -/
def resolveTag (start mark : Mark) (handle : Option String) (suffix : String) :
    Reading String := do
  match handle with
  | none => return suffix
  | some h =>
    match (← get).handles.lookup h with
    | some front => return front ++ suffix
    | none => problem (some (.parsingNode, some start)) (.undefinedHandle h) mark

/-- Read a name and a tag, in either order; whether any of them is there. -/
def readProperties : Reading (Properties × Bool) := do
  let first ← peek
  match first.kind with
  | .anchor name =>
    let _ ← take
    let second ← peek
    match second.kind with
    | .tag handle suffix =>
      let _ ← take
      return (⟨first.start, some name, some (← resolveTag first.start second.start handle suffix)⟩,
        true)
    | _ => return (⟨first.start, some name, none⟩, true)
  | .tag handle suffix =>
    let _ ← take
    let second ← peek
    let anchor ← match second.kind with
      | .anchor name => do
        let _ ← take
        pure (some name)
      | _ => pure none
    return (⟨first.start, anchor, some (← resolveTag first.start first.start handle suffix)⟩, true)
  | _ => return (⟨first.start, none, none⟩, false)

/-- The given tag, where one is given that says anything. -/
def Properties.given (p : Properties) : Option Tag :=
  match p.tag with
  | none | some "!" => none
  | some name => some (.ofName name)

/-- The type of a scalar: a plain one, and one with the empty tag, shows it by its
text. -/
def Properties.scalarTag (p : Properties) (text : List Char) (plain : Bool) : Tag :=
  match p.given with
  | some t => t
  | none => if plain || p.tag.isSome then .ofPlain text else .text

def addNode (n : Node) : Reading NodeId := fun r =>
  let (i, graph) := r.graph.add n
  .ok (i, { r with graph })

def nothing (m : Mark) : Reading NodeId := addNode (.nothing m)

/-- Add a node whose name, if it has one, is new. -/
def addNamed (anchor : Option String) (n : Node) : Reading NodeId := do
  match anchor with
  | none => addNode n
  | some a =>
    let r ← get
    match r.anchors.lookup a with
    | some other =>
      let first := (r.graph.node other).mark
      throw (.marked .composing (some (.firstAnchor a, some first)) .secondAnchor n.mark)
    | none =>
      let i ← addNode n
      modify fun r => { r with anchors := r.anchors ++ [(a, i)] }
      return i

/-- How many collections may be open at a time. -/
def maxDepth : Nat := 488

/-- Add a collection of some type that is still empty. -/
def openCollection (p : Properties) (usual : Tag) (empty : Content) : Reading NodeId := do
  let i ← addNamed p.anchor ⟨p.given.getD usual, p.start, empty⟩
  if maxDepth ≤ (← get).depth then throw .tooDeep
  modify fun r => { r with depth := r.depth + 1 }
  return i

/-- Give a collection what it holds. -/
def closeCollection (i : NodeId) (c : Content) : Reading NodeId := fun r =>
  .ok (i, { r with graph := r.graph.setContent i c, depth := r.depth - 1 })

def named (a : String) (mark : Mark) : Reading NodeId := do
  match (← get).anchors.lookup a with
  | some i => return i
  | none => throw (.marked .composing none (.undefinedAlias a) mark)

/-- Where a node stands, which decides what it can be. -/
inductive Place
  | flow
  | block
  /-- An entry of a block mapping: its hyphens need no indentation of their own. -/
  | entry
deriving DecidableEq, Repr

/-- The tokens that end an item without content, by the kind of collection. -/
def itemEnds : List Kind := [.blockEntry, .blockEnd]

/-- The tokens that end a part of an entry without content. -/
def entryEnds : List Kind := [.key, .value, .blockEnd]

/-- The tokens that end an item without content and without indentation of its own. -/
def looseEnds : List Kind := [.blockEntry, .key, .value, .blockEnd]

mutual

/-- Read a node.  The fuel of this and of the following bounds the steps. -/
def readNode : Nat → Place → Reading NodeId
  | 0, _ => do nothing (← get).tokens.cursor.mark
  | fuel + 1, place => do
    let t ← peek
    match t.kind with
    | .alias a =>
      let _ ← take
      named a t.start
    | _ =>
      let (p, any) ← readProperties
      readContent fuel place p any

def readContent : Nat → Place → Properties → Bool → Reading NodeId
  | 0, _, p, _ => nothing p.start
  | fuel + 1, place, p, any => do
    let t ← peek
    let openSequence := openCollection p .sequence (.sequence [])
    let openMapping := openCollection p .mapping (.mapping [])
    let scalarOf (text : List Glyph) (plain : Bool) :=
      addNamed p.anchor ⟨p.scalarTag (Tag.formOf text) plain, p.start, .scalar text⟩
    match t.kind, place with
    | .blockEntry, .entry =>
      let i ← openSequence
      closeCollection i (.sequence (← readLooseItems fuel))
    | .scalar text style, _ =>
      let _ ← take
      scalarOf text (style == .plain)
    | .flowSequenceStart, _ =>
      let i ← openSequence
      let _ ← take
      closeCollection i (.sequence (← readFlowItems fuel t.start true))
    | .flowMappingStart, _ =>
      let i ← openMapping
      let _ ← take
      closeCollection i (.mapping (← readFlowEntries fuel t.start true))
    | kind, place =>
      if place != .flow && kind == .blockSequenceStart then
        let i ← openSequence
        let _ ← take
        closeCollection i (.sequence (← readItems fuel t.start))
      else if place != .flow && kind == .blockMappingStart then
        let i ← openMapping
        let _ ← take
        closeCollection i (.mapping (← readEntries fuel t.start))
      else if any then scalarOf [] (p.tag.isNone)
      else
        let activity := if place == .flow then Activity.parsingFlowNode else .parsingBlockNode
        unexpected activity p.start .noContent

/-- Read a node behind a token, unless what comes next ends it. -/
def readUnless : Nat → Place → Token → List Kind → Reading NodeId
  | 0, _, t, _ => nothing t.stop
  | fuel + 1, place, t, ends => do
    if ← sees ends then return ← nothing t.stop
    readNode fuel place

/-- Read the items of a block sequence up to its end. -/
def readItems : Nat → Mark → Reading (List NodeId)
  | 0, _ => pure []
  | fuel + 1, start => do
    if ← sees [.blockEntry] then
      let n ← readUnless fuel .block (← take) itemEnds
      return n :: (← readItems fuel start)
    if ← sees [.blockEnd] then
      let _ ← take
      return []
    unexpected .parsingBlockCollection start .noBlockEnd

/-- Read the items of a sequence that has no indentation of its own. -/
def readLooseItems : Nat → Reading (List NodeId)
  | 0 => pure []
  | fuel + 1 => do
    if ← sees [.blockEntry] then
      let n ← readUnless fuel .block (← take) looseEnds
      return n :: (← readLooseItems fuel)
    return []

/-- Read the entries of a block mapping up to its end. -/
def readEntries : Nat → Mark → Reading (List (NodeId × NodeId))
  | 0, _ => pure []
  | fuel + 1, start => do
    let next ← peek
    let key ← match next.kind with
      | .key => do
        let t ← take
        some <$> readUnless fuel .entry t entryEnds
      | .blockEnd => pure none
      | _ => unexpected .parsingBlockMapping start .noBlockEnd
    match key with
    | none =>
      let _ ← take
      return []
    | some k =>
      let v ← readValue fuel .entry entryEnds
      return (k, v) :: (← readEntries fuel start)

/-- Read the value of an entry; an entry without a colon has none. -/
def readValue : Nat → Place → List Kind → Reading NodeId
  | 0, _, _ => do nothing (← get).tokens.cursor.mark
  | fuel + 1, place, ends => do
    let t ← peek
    if t.kind == .value then readUnless fuel place (← take) ends
    else nothing t.start

/-- Take the comma before an item of a flow collection, except before the first. -/
def readComma : Nat → Activity → Mark → Bool → (String → Problem) → Reading Unit
  | 0, _, _, _, _ => pure ()
  | _ + 1, activity, start, first, what => do
    if first then return
    if ← sees [.flowEntry] then
      let _ ← take
      return
    unexpected activity start what

/-- Read the items of a flow sequence up to its end.  An item that has a key is a
mapping of one entry. -/
def readFlowItems : Nat → Mark → Bool → Reading (List NodeId)
  | 0, _, _ => pure []
  | fuel + 1, start, first => do
    if ← sees [.flowSequenceEnd] then
      let _ ← take
      return []
    readComma fuel .parsingFlowSequence start first .noSequenceEnd
    if ← sees [.flowSequenceEnd] then
      let _ ← take
      return []
    let t ← peek
    let n ←
      if t.kind == .key then do
        let _ ← take
        let k ← readUnless fuel .flow t [.value, .flowEntry, .flowSequenceEnd]
        let v ← readValue fuel .flow [.flowEntry, .flowSequenceEnd]
        addNode ⟨.mapping, t.start, .mapping [(k, v)]⟩
      else readNode fuel .flow
    return n :: (← readFlowItems fuel start false)

/-- Read the entries of a flow mapping up to its end.  An item that has no key is one
itself, without a value. -/
def readFlowEntries : Nat → Mark → Bool → Reading (List (NodeId × NodeId))
  | 0, _, _ => pure []
  | fuel + 1, start, first => do
    if ← sees [.flowMappingEnd] then
      let _ ← take
      return []
    readComma fuel .parsingFlowMapping start first .noMappingEnd
    if ← sees [.flowMappingEnd] then
      let _ ← take
      return []
    let t ← peek
    let e ←
      if t.kind == .key then do
        let _ ← take
        let k ← readUnless fuel .flow t [.value, .flowEntry, .flowMappingEnd]
        let v ← readValue fuel .flow [.flowEntry, .flowMappingEnd]
        pure (k, v)
      else do
        let k ← readNode fuel .flow
        pure (k, ← nothing (← peek).start)
    return e :: (← readFlowEntries fuel start false)

end

/-- The handles that need no directive. -/
def defaultHandles : List (String × String) := [("!", "!"), ("!!", standardFront)]

def Kind.isDirective : Kind → Bool
  | .directive _ => true
  | _ => false

/-- Read the directives before a document, and set the handles of its tags.  The fuel
bounds the directives. -/
def readDirectives : Nat → Bool → List (String × String) → Reading Unit
  | 0, _, _ => pure ()
  | fuel + 1, versioned, handles => do
    let t ← peek
    match t.kind with
    | .directive d =>
      let _ ← take
      match d with
      | .version major _ =>
        if versioned then problem none .duplicateVersion t.start
        if major != 1 then problem none .version t.start
        readDirectives fuel true handles
      | .tag handle front =>
        if (handles.lookup handle).isSome then problem none (.duplicateHandle handle) t.start
        readDirectives fuel versioned (handles ++ [(handle, front)])
      | .other => readDirectives fuel versioned handles
    | _ =>
      let missing := defaultHandles.filter fun h => (handles.lookup h.1).isNone
      modify fun r => { r with handles := handles ++ missing }

/-- Skip marks of the ends of documents.  The fuel bounds them. -/
def skipEnds : Nat → Reading Unit
  | 0 => pure ()
  | fuel + 1 => do
    if ← sees [.documentEnd] then
      let _ ← take
      skipEnds fuel

/-- Go on to a document that is marked as one, if there is any more; its place. -/
def startMarked (fuel : Nat) : Reading (Option Mark) := do
  skipEnds fuel
  if ← sees [.streamEnd] then return none
  let start := (← peek).start
  readDirectives fuel false []
  if ← sees [.documentStart] then
    let _ ← take
    return some start
  let t ← peek
  problem none (.noDocumentStart t.kind.name) t.start

/-- Read the content of a document that is marked as one. -/
def readMarked (fuel : Nat) : Reading NodeId := do
  let t ← peek
  if t.kind.isDirective || [Kind.documentStart, .documentEnd, .streamEnd].contains t.kind then
    return ← nothing t.start
  readNode fuel .block

def readDocument (fuel : Nat) : Reading (Option NodeId) := do
  let t ← peek
  let root? ←
    if t.kind.isDirective || [Kind.documentStart, .streamEnd].contains t.kind then do
      match ← startMarked fuel with
      | none => pure none
      | some _ => some <$> readMarked fuel
    else some <$> readNode fuel .block
  match root? with
  | none => return none
  | some root =>
    let t ← peek
    if t.kind == .documentEnd then
      let _ ← take
    match ← startMarked fuel with
    | none => return some root
    | some mark =>
      let first := ((← get).graph.node root).mark
      throw (.marked .composing (some (.singleDocument, some first)) .anotherDocument mark)

/-- The nodes of a document, and the root among them. -/
structure Document where
  graph : Graph
  root : NodeId

/-- The document in a text, if it holds any. -/
def Document.ofSource? (s : Source) : Except Error (Option Document) := do
  let reader : Reader := ⟨.start s, defaultHandles, #[], [], 0⟩
  let (root?, r) ← readDocument (16 * (s.text.length + 4)) reader
  .ok (root?.map fun root => ⟨r.graph, root⟩)

end Yaml

end FindingLedger
