/-
The tokens of a YAML document, one after the other.

A token may turn out to be the key of a mapping only when a colon is met behind it, so
tokens wait in a queue as long as that is open.  Indentation starts and ends block
collections, which adds tokens that no character stands for.
-/
import FindingLedger.Keyed
import FindingLedger.Yaml.Token

namespace FindingLedger

namespace Yaml

/-- A token that may turn out to be a key. -/
structure KeyCandidate where
  /-- The number of tokens before it. -/
  number : Nat
  /-- The first token of a line has to be a key. -/
  required : Bool
  index : Nat
  line : Nat
  column : Nat
deriving DecidableEq, Repr

def KeyCandidate.mark (k : KeyCandidate) : Mark := ⟨k.line, k.column⟩

/-- How far a key may reach, in characters. -/
def maxKeyLength : Nat := 1024

/-- A reader of tokens: its place in the text, the tokens that wait to be taken, and the
collections that are open.  Indentations are one more than the columns they stand for,
zero outside of all block collections. -/
structure TokenStream where
  cursor : Cursor
  queue : List Token
  taken : Nat
  flowDepth : Nat
  indent : Nat
  outerIndents : List Nat
  keyAllowed : Bool
  /-- The candidates for keys by the number of open brackets. -/
  candidates : List (Nat × KeyCandidate)
  finished : Bool
deriving Repr

namespace TokenStream

def start (s : Source) : TokenStream :=
  ⟨.start s, [], 0, 0, 0, [], true, [], false⟩

/-- A problem that is not met inside of anything. -/
def problem {α : Type} (s : TokenStream) (what : Problem) : Except Error α :=
  s.cursor.fail (.marked .scanning none what s.cursor.mark)

/-- A key was required but no colon came. -/
def noColon {α : Type} (s : TokenStream) (k : KeyCandidate) : Except Error α :=
  scanProblem .scanningKey k.mark s.cursor .noColon

def push (s : TokenStream) (t : Token) : TokenStream := { s with queue := s.queue ++ [t] }

def insert (s : TokenStream) (number : Nat) (t : Token) : TokenStream :=
  let n := number - s.taken
  { s with queue := s.queue.take n ++ t :: s.queue.drop n }

/-- Append a token that no character stands for. -/
def pushEmpty (s : TokenStream) (k : Kind) : TokenStream :=
  s.push ⟨k, s.cursor.mark, s.cursor.mark⟩

/-- Append a token of `n` characters. -/
def pushFixed (s : TokenStream) (k : Kind) (n : Nat) : TokenStream :=
  let c := s.cursor.skip n
  { s.push ⟨k, s.cursor.mark, c.mark⟩ with cursor := c }

def pushRead (s : TokenStream) (read : Cursor → Except Error (Token × Cursor)) :
    Except Error TokenStream := do
  let (t, c) ← read s.cursor
  .ok { s.push t with cursor := c }

/-- The candidates that are still near enough; one that is not must not be required. -/
def nearCandidates (s : TokenStream) :
    List (Nat × KeyCandidate) → Except Error (List (Nat × KeyCandidate))
  | [] => .ok []
  | (depth, k) :: rest =>
    if k.line != s.cursor.line || maxKeyLength < s.cursor.index - k.index then
      if k.required then s.noColon k else s.nearCandidates rest
    else do
      .ok ((depth, k) :: (← s.nearCandidates rest))

/-- Drop the candidates that are too far away. -/
def dropStale (s : TokenStream) : Except Error TokenStream := do
  .ok { s with candidates := ← s.nearCandidates s.candidates }

/-- Drop the candidate inside of the innermost brackets; it must not be required. -/
def dropCandidate (s : TokenStream) : Except Error TokenStream :=
  match s.candidates.lookup s.flowDepth with
  | none => .ok s
  | some k =>
    if k.required then s.noColon k
    else .ok { s with candidates := Keyed.erase s.flowDepth s.candidates }

/-- Make the token that comes next a candidate, if a key is allowed here. -/
def saveCandidate (s : TokenStream) : Except Error TokenStream :=
  if s.keyAllowed then do
    let required := s.flowDepth == 0 && s.indent == s.cursor.column + 1
    let s ← s.dropCandidate
    let k : KeyCandidate := ⟨s.taken + s.queue.length, required, s.cursor.index, s.cursor.line,
      s.cursor.column⟩
    .ok { s with candidates := s.candidates ++ [(s.flowDepth, k)] }
  else .ok s

/-- End the block collections that are indented by more than `indent`. -/
def unwind (s : TokenStream) (indent : Nat) : TokenStream :=
  if s.flowDepth != 0 then s
  else
    let ended := s.indent :: s.outerIndents
    let open_ := ended.dropWhile fun i => indent < i
    let mark := s.cursor.mark
    let count := ended.length - open_.length
    { s with
      queue := s.queue ++ List.replicate count ⟨.blockEnd, mark, mark⟩
      indent := open_.headD 0
      outerIndents := open_.drop 1 }

/-- Indent to a column; whether that starts a block collection. -/
def indentTo (s : TokenStream) (column : Nat) : TokenStream × Bool :=
  if s.indent < column + 1 then
    ({ s with indent := column + 1, outerIndents := s.indent :: s.outerIndents }, true)
  else (s, false)

/-- Start a block collection at the cursor, if it is indented further. -/
def startBlock (s : TokenStream) (k : Kind) : TokenStream :=
  let (s, starts) := s.indentTo s.cursor.column
  if starts then s.pushEmpty k else s

/-- Skip spaces, comments and line breaks up to the next token.  The fuel bounds the
lines. -/
def skipGaps : Nat → TokenStream → TokenStream
  | 0, s => s
  | fuel + 1, s =>
    let c := s.cursor.skipSpaces.skipComment
    if isBreak c.peek then
      skipGaps fuel
        { s with cursor := c.lineBreak.2, keyAllowed := s.keyAllowed || s.flowDepth == 0 }
    else { s with cursor := c }

def toNextToken (s : TokenStream) : TokenStream :=
  let c := s.cursor
  let c := if c.index == 0 && c.peek.toNat == 0xfeff then c.next else c
  skipGaps (c.left + 1) { s with cursor := c }

/-- Leave all block collections, as before a mark between documents. -/
def leaveBlocks (s : TokenStream) : Except Error TokenStream := do
  let s ← (s.unwind 0).dropCandidate
  .ok { s with keyAllowed := false }

def fetchEnd (s : TokenStream) : Except Error TokenStream := do
  let s ← s.leaveBlocks
  .ok { s.pushEmpty .streamEnd with candidates := [], finished := true }

def fetchDirective (s : TokenStream) : Except Error TokenStream := do
  (← s.leaveBlocks).pushRead directive

/-- A mark between documents. -/
def fetchSeparator (s : TokenStream) (k : Kind) : Except Error TokenStream := do
  .ok ((← s.leaveBlocks).pushFixed k 3)

def fetchOpen (s : TokenStream) (k : Kind) : Except Error TokenStream := do
  let s ← s.saveCandidate
  .ok ({ s with flowDepth := s.flowDepth + 1, keyAllowed := true }.pushFixed k 1)

def fetchClose (s : TokenStream) (k : Kind) : Except Error TokenStream := do
  let s ← s.dropCandidate
  .ok ({ s with flowDepth := s.flowDepth - 1, keyAllowed := false }.pushFixed k 1)

def fetchComma (s : TokenStream) : Except Error TokenStream := do
  let s ← { s with keyAllowed := true }.dropCandidate
  .ok (s.pushFixed .flowEntry 1)

/-- A hyphen before an item of a block sequence. -/
def fetchEntry (s : TokenStream) : Except Error TokenStream := do
  let s ←
    if s.flowDepth != 0 then .ok s
    else if !s.keyAllowed then s.problem .entriesNotAllowed
    else .ok (s.startBlock .blockSequenceStart)
  let s ← { s with keyAllowed := true }.dropCandidate
  .ok (s.pushFixed .blockEntry 1)

/-- A question mark before a key. -/
def fetchKey (s : TokenStream) : Except Error TokenStream := do
  let s ←
    if s.flowDepth != 0 then .ok s
    else if !s.keyAllowed then s.problem .keysNotAllowed
    else .ok (s.startBlock .blockMappingStart)
  let s ← { s with keyAllowed := s.flowDepth == 0 }.dropCandidate
  .ok (s.pushFixed .key 1)

/-- A colon behind a candidate, which it makes a key. -/
def keyFound (s : TokenStream) (k : KeyCandidate) : TokenStream :=
  let s := { s with candidates := Keyed.erase s.flowDepth s.candidates }
  let s := s.insert k.number ⟨.key, k.mark, k.mark⟩
  let s :=
    if s.flowDepth != 0 then s
    else
      let (s, starts) := s.indentTo k.column
      if starts then s.insert k.number ⟨.blockMappingStart, k.mark, k.mark⟩ else s
  { s with keyAllowed := false }

def fetchValue (s : TokenStream) : Except Error TokenStream := do
  let s ← match s.candidates.lookup s.flowDepth with
    | some k => .ok (s.keyFound k)
    | none => do
      let s ←
        if s.flowDepth != 0 then .ok s
        else if !s.keyAllowed then s.problem .valuesNotAllowed
        else .ok (s.startBlock .blockMappingStart)
      { s with keyAllowed := s.flowDepth == 0 }.dropCandidate
  .ok (s.pushFixed .value 1)

/-- A token that may be a key, and is read by a reader of tokens. -/
def fetchNode (s : TokenStream) (read : Cursor → Except Error (Token × Cursor)) :
    Except Error TokenStream := do
  let s ← s.saveCandidate
  { s with keyAllowed := false }.pushRead read

def fetchBlockScalar (s : TokenStream) (style : Style) : Except Error TokenStream := do
  let s ← { s with keyAllowed := true }.dropCandidate
  s.pushRead (blockScalar s.indent style)

def fetchPlain (s : TokenStream) : Except Error TokenStream := do
  let s ← s.saveCandidate
  let (t, broken, c) := plainScalar (s.flowDepth != 0) s.indent s.cursor
  .ok { s.push t with cursor := c, keyAllowed := broken }

/-- Whether a plain scalar starts here. -/
def atPlain (s : TokenStream) : Bool :=
  let ch := s.cursor.peek
  let isMark := isGap ch || "-?:,[]\x7b\x7d#&*!|>'\"%@".toList.contains ch || ch.toNat == 0x60
  !isMark || (!isGap (s.cursor.peekAt 1) &&
    (ch == '-' || (s.flowDepth == 0 && (ch == '?' || ch == ':'))))

/-- Whether the kind of the next token is seen only by what follows its first
character. -/
def looksFurther (inFlow : Bool) (c : Cursor) : Bool :=
  let ch := c.peek
  ch == '-' || ch == '@' || ch == '\t' || ch.toNat == 0x60 || (ch == '%' && c.column != 0) ||
    (if inFlow then ch == '|' || ch == '>' else ch == '?' || ch == ':')

/-- Look as far as the kind of the next token needs. -/
def lookAhead (inFlow : Bool) (c : Cursor) : Cursor :=
  let c := if looksFurther inFlow c then c.look 1 else c
  if c.column == 0 && (c.peek == '-' || c.peek == '.') then c.lookForSeparator else c

/-- Read the next token, by the character that it starts with. -/
def fetchAt (s : TokenStream) : Except Error TokenStream :=
  let inFlow := s.flowDepth != 0
  let s := { s with cursor := lookAhead inFlow s.cursor }
  let c := s.cursor
  let ch := c.peek
  let gapFollows := isGap (c.peekAt 1)
  if ch == endOfText then s.fetchEnd
  else if ch == '%' && c.column == 0 then s.fetchDirective
  else if c.column == 0 && c.atSeparator '-' then s.fetchSeparator .documentStart
  else if c.column == 0 && c.atSeparator '.' then s.fetchSeparator .documentEnd
  else if ch == '[' then s.fetchOpen .flowSequenceStart
  else if ch == '\x7b' then s.fetchOpen .flowMappingStart
  else if ch == ']' then s.fetchClose .flowSequenceEnd
  else if ch == '\x7d' then s.fetchClose .flowMappingEnd
  else if ch == ',' then s.fetchComma
  else if ch == '-' && gapFollows then s.fetchEntry
  else if ch == '?' && (inFlow || gapFollows) then s.fetchKey
  else if ch == ':' && (inFlow || gapFollows) then s.fetchValue
  else if ch == '*' then s.fetchNode aliasToken
  else if ch == '&' then s.fetchNode anchorToken
  else if ch == '!' then s.fetchNode tagToken
  else if ch == '|' && !inFlow then s.fetchBlockScalar .literal
  else if ch == '>' && !inFlow then s.fetchBlockScalar .folded
  else if ch == '\'' then s.fetchNode (quotedScalar .single)
  else if ch == '"' then s.fetchNode (quotedScalar .double)
  else if s.atPlain then s.fetchPlain
  else c.fail (.marked .scanning (some (.scanningNext, none)) (.badStart ch) c.mark)

/-- Read at least one more token. -/
def fetch (s : TokenStream) : Except Error TokenStream := do
  let s ← s.toNextToken.dropStale
  let s ← (s.unwind (s.cursor.column + 1)).fetchAt
  match s.cursor.hit? with
  | some fault => .error fault
  | none => .ok s

/-- Read tokens until the first that waits can be taken: none that might be a key waits
before all others.  The fuel bounds the tokens. -/
def ready : Nat → TokenStream → Except Error TokenStream
  | 0, s => .ok s
  | fuel + 1, s =>
    if s.finished then .ok s
    else if s.queue.isEmpty then do ready fuel (← s.fetch)
    else do
      let s ← s.dropStale
      if s.candidates.any fun k => k.2.number == s.taken then ready fuel (← s.fetch)
      else .ok s

/-- The next token, which is not taken. -/
def peek (s : TokenStream) : Except Error (Token × TokenStream) := do
  let s ← ready (s.cursor.left + 2) s
  match s.queue with
  | t :: _ => .ok (t, s)
  | [] => .ok (⟨.streamEnd, s.cursor.mark, s.cursor.mark⟩, s)

/-- Take the token that was peeked at. -/
def drop (s : TokenStream) : TokenStream :=
  { s with queue := s.queue.drop 1, taken := s.taken + 1 }

end TokenStream

end Yaml

end FindingLedger
