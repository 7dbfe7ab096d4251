/-
The tokens of a YAML document, and how each is read once its kind is known.

The readers take a cursor at the start of their token and give what it says together
with the cursor behind it.
-/
import FindingLedger.Yaml.Cursor

namespace FindingLedger

namespace Yaml

/-- How the text of a scalar is written. -/
inductive Style
  | plain | single | double | literal | folded
deriving DecidableEq, Repr

/-- What a directive says. -/
inductive Directive
  | version (major minor : Nat)
  | tag (handle front : String)
  | other
deriving DecidableEq, Repr

/-- Kinds of tokens. -/
inductive Kind
  | streamEnd
  | directive (d : Directive)
  | documentStart | documentEnd
  | blockSequenceStart | blockMappingStart | blockEnd
  | flowSequenceStart | flowSequenceEnd | flowMappingStart | flowMappingEnd
  | blockEntry | flowEntry | key | value
  | alias (name : String)
  | anchor (name : String)
  /-- A tag: a handle, unless the tag is given in full, and what follows it. -/
  | tag (handle : Option String) (suffix : String)
  | scalar (text : List Glyph) (style : Style)
deriving DecidableEq, Repr

def Kind.name : Kind → String
  | .streamEnd => "<stream end>"
  | .directive _ => "<directive>"
  | .documentStart => "<document start>"
  | .documentEnd => "<document end>"
  | .blockSequenceStart => "<block sequence start>"
  | .blockMappingStart => "<block mapping start>"
  | .blockEnd => "<block end>"
  | .flowSequenceStart => "["
  | .flowSequenceEnd => "]"
  | .flowMappingStart => "\x7b"
  | .flowMappingEnd => "\x7d"
  | .blockEntry => "-"
  | .flowEntry => ","
  | .key => "?"
  | .value => ":"
  | .alias _ => "<alias>"
  | .anchor _ => "<anchor>"
  | .tag _ _ => "<tag>"
  | .scalar _ _ => "<scalar>"

/-- A token and where it stands. -/
structure Token where
  kind : Kind
  start : Mark
  stop : Mark
deriving DecidableEq, Repr

def scanProblem {α : Type} (activity : Activity) (start : Mark) (c : Cursor) (what : Problem) :
    Except Error α :=
  c.fail (.marked .scanning (some (activity, some start)) what c.mark)

/-- A problem met while scanning, where something else was expected than what comes. -/
def expected {α : Type} (activity : Activity) (start : Mark) (c : Cursor) (what : String) :
    Except Error α :=
  scanProblem activity start c (.expectedBut what c.peek)

/-- The rest of a line behind a directive or the header of a block scalar: spaces and a
comment. -/
def ignoredLine (activity : Activity) (start : Mark) (c : Cursor) : Except Error Cursor :=
  let c := c.skipSpaces.skipComment
  if isLineEnd c.peek then .ok c.lineBreak.2
  else expected activity start c "a comment or a line break"

/-- The first of the next `n` characters that is not in a class, and the cursor that has
looked at it. -/
def firstOther? (p : Char → Bool) (c : Cursor) (n : Nat) : Option (Char × Cursor) :=
  let count := ((c.front n).takeWhile p).length
  if count < n then some (c.peekAt count, c.look count) else none

/-- An escape of bytes in a tag: percent signs with two digits each. -/
def uriEscapes (activity : Activity) (start : Mark) : Nat → List UInt8 → Cursor →
    Except Error (List UInt8 × Cursor)
  | 0, done, c => .ok (done.reverse, c)
  | fuel + 1, done, c =>
    if c.peek != '%' then .ok (done.reverse, c)
    else
      let c := c.next
      match firstOther? isHexDigit c 2 with
      | some (ch, c) => scanProblem activity start c (.uriEscape ch)
      | none => uriEscapes activity start fuel ((hexNumber (c.front 2)).toUInt8 :: done) (c.skip 2)

def isUriChar (c : Char) : Bool :=
  c.isAlphanum || "-;/?:@&=+$,_.!~*'()[]".toList.contains c

/-- The characters of a tag; `done` holds those before them. -/
def uriChars (activity : Activity) (start : Mark) : Nat → List Char → Cursor →
    Except Error (List Char × Cursor)
  | 0, done, c => .ok (done, c)
  | fuel + 1, done, c =>
    let (cs, c) := c.takeWhile isUriChar
    let done := done ++ cs
    if c.peek != '%' then .ok (done, c)
    else
      let mark := c.mark
      match uriEscapes activity start c.left [] c with
      | .error e => .error e
      | .ok (bytes, c) =>
        match Utf8.decode bytes with
        | .ok cs => uriChars activity start fuel (done ++ cs) c
        | .error e =>
          c.fail (.marked .scanning (some (activity, some start)) (.uriText e.message) mark)

def uri (activity parsing : Activity) (start : Mark) (c : Cursor) :
    Except Error (String × Cursor) := do
  let first := c
  let (cs, c) ← uriChars activity start (c.left + 1) [] c
  if cs.isEmpty && c.index == first.index then expected parsing start c "URI"
  else .ok (String.ofList cs, c)

/-- A handle: an exclamation mark, or a word between two. -/
def tagHandle (activity : Activity) (start : Mark) (c : Cursor) :
    Except Error (String × Cursor) :=
  if c.peek != '!' then expected activity start c "'!'"
  else if c.peekAt 1 == ' ' then .ok ("!", c.next)
  else
    let (word, behind) := c.next.takeWhile isWordChar
    if behind.peek != '!' then expected activity start behind "'!'"
    else .ok (String.ofList ('!' :: word ++ ['!']), behind.next)

/-- The word that a directive, an alias or an anchor is named by. -/
def word (activity : Activity) (start : Mark) (isStop : Char → Bool) (c : Cursor) :
    Except Error (String × Cursor) :=
  let (cs, c) := c.takeWhile isWordChar
  if cs.isEmpty || !isStop c.peek then
    expected activity start c "alphabetic or numeric character"
  else .ok (String.ofList cs, c)

def versionNumber (start : Mark) (c : Cursor) : Except Error (Nat × Cursor) :=
  let (cs, c') := c.takeWhile Char.isDigit
  if cs.isEmpty then expected .scanningDirective start c "a digit"
  else if Numeral.maxDigits < cs.length then c'.fail (.scalar (.tooLong cs.length))
  else .ok (cs.foldl (fun n d => n * 10 + (d.toNat - '0'.toNat)) 0, c')

def versionDirective (start : Mark) (c : Cursor) : Except Error (Directive × Cursor) := do
  let (major, c) ← versionNumber start c.skipSpaces
  if c.peek != '.' then expected .scanningDirective start c "a digit or '.'"
  else
    let (minor, c) ← versionNumber start c.next
    if isSpaceOrEnd c.peek then .ok (.version major minor, c)
    else expected .scanningDirective start c "a digit or ' '"

/-- The handle that a directive gives a meaning to. -/
def tagDirective (start : Mark) (c : Cursor) : Except Error (Directive × Cursor) := do
  let (handle, c) ← tagHandle .scanningDirective start c.skipSpaces
  if c.peek != ' ' then expected .scanningDirective start c "' '"
  else
    let (front, c) ← uri .scanningDirective .parsingDirective start c.skipSpaces
    if isSpaceOrEnd c.peek then .ok (.tag handle front, c)
    else expected .scanningDirective start c "' '"

def directive (c : Cursor) : Except Error (Token × Cursor) := do
  let start := c.mark
  let (name, c) ← word .scanningDirective start isSpaceOrEnd c.next
  let (d, c) ← match name with
    | "YAML" => versionDirective start c
    | "TAG" => tagDirective start c
    | _ => .ok (Directive.other, c)
  let stop := c.mark
  let c := if d == .other then c.skipWhile fun ch => !isBreak ch else c
  let c ← ignoredLine .scanningDirective start c
  .ok (⟨.directive d, start, stop⟩, c)

/-- What may follow the name of an alias or an anchor. -/
def endsName (c : Char) : Bool := isGap c || "?:,]\x7d%@".toList.contains c || c.toNat == 0x60

def aliasToken (c : Cursor) : Except Error (Token × Cursor) := do
  let start := c.mark
  let (name, c) ← word .scanningAlias start endsName c.next
  .ok (⟨.alias name, start, c.mark⟩, c)

def anchorToken (c : Cursor) : Except Error (Token × Cursor) := do
  let start := c.mark
  let (name, c) ← word .scanningAnchor start endsName c.next
  .ok (⟨.anchor name, start, c.mark⟩, c)

/-- The handle and the rest of a tag. -/
def tagParts (start : Mark) (c : Cursor) : Except Error ((Option String × String) × Cursor) :=
  let second := c.peekAt 1
  let c := c.look 1
  if second == '<' then do
    let (suffix, c) ← uri .scanningTag .parsingTag start (c.skip 2)
    if c.peek != '>' then expected .parsingTag start c "'>'"
    else .ok ((none, suffix), c.next)
  else if isGap second then .ok ((none, "!"), c.next)
  else
    let word := c.next.rest.takeWhile fun ch => !isSpaceOrEnd ch && ch != '!'
    let isHandled := c.peekAt (word.length + 1) == '!'
    let c := c.look (word.length + 1)
    do
      let (handle, c) ←
        if isHandled then tagHandle .scanningTag start c else .ok ("!", c.next)
      let (suffix, c) ← uri .scanningTag .parsingTag start c
      .ok ((some handle, suffix), c)

def tagToken (c : Cursor) : Except Error (Token × Cursor) := do
  let start := c.mark
  let ((handle, suffix), c) ← tagParts start c
  if isSpaceOrEnd c.peek then .ok (⟨.tag handle suffix, start, c.mark⟩, c)
  else expected .scanningTag start c "' '"

/-- What becomes of the line breaks at the end of a block scalar. -/
inductive Chomping
  | strip | clip | keep
deriving DecidableEq, Repr

/-- What a mark behind the start of a block scalar says about its end. -/
def chompingOf? (c : Char) : Option Chomping :=
  if c == '+' then some .keep else if c == '-' then some .strip else none

/-- The header of a block scalar: what becomes of its end, and how far it is indented. -/
def blockHeader (start : Mark) (c : Cursor) :
    Except Error ((Chomping × Option Nat) × Cursor) := do
  let digit (c : Cursor) : Except Error (Option Nat × Cursor) :=
    let ch := c.peek
    if !ch.isDigit then .ok (none, c)
    else if ch == '0' then scanProblem .scanningBlockScalar start c .zeroIndentation
    else .ok (some (ch.toNat - '0'.toNat), c.next)
  let (header, c) ← match chompingOf? c.peek with
    | some chomping => do
      let (increment, c) ← digit c.next
      .ok ((chomping, increment), c)
    | none => do
      let (increment, c) ← digit c
      match increment, chompingOf? c.peek with
      | some n, some chomping => .ok ((chomping, some n), c.next)
      | _, _ => .ok ((Chomping.clip, increment), c)
  if isSpaceOrEnd c.peek then .ok (header, c)
  else expected .scanningBlockScalar start c "chomping or indentation indicators"

/-- Blank lines at the start of a block scalar: their breaks, the greatest indentation
met, and the place behind the last break.  The fuel bounds the characters. -/
def leadingBreaks : Nat → List Char → Nat → Mark → Cursor → List Char × Nat × Mark × Cursor
  | 0, done, widest, stop, c => (done, widest, stop, c)
  | fuel + 1, done, widest, stop, c =>
    if c.peek == ' ' then
      let c := c.next
      leadingBreaks fuel done (max widest c.column) stop c
    else if isBreak c.peek then
      let (b, c) := c.lineBreak
      leadingBreaks fuel (done ++ b) widest c.mark c
    else (done, widest, stop, c)

/-- Skip spaces up to an indentation. -/
def skipIndent (indent : Nat) : Nat → Cursor → Cursor
  | 0, c => c
  | fuel + 1, c =>
    if c.column < indent && c.peek == ' ' then skipIndent indent fuel c.next else c

/-- Blank lines inside of a block scalar: their breaks and the place behind the last. -/
def innerBreaks (indent : Nat) : Nat → List Char → Mark → Cursor → List Char × Mark × Cursor
  | 0, done, stop, c => (done, stop, c)
  | fuel + 1, done, stop, c =>
    let c := skipIndent indent c.left c
    if isBreak c.peek then
      let (b, c) := c.lineBreak
      innerBreaks indent fuel (done ++ b) c.mark c
    else (done, stop, c)

/-- The lines of a block scalar.  `done` is its text so far, last character first, and
`breaks` the blank lines that come next.  Gives the text, the last line break, the
blank lines behind it, and the places behind them. -/
def blockLines (folded : Bool) (indent : Nat) : Nat → List Char → List Char → List Char → Mark →
    Cursor → List Char × List Char × List Char × Mark × Cursor
  | 0, done, last, breaks, stop, c => (done, last, breaks, stop, c)
  | fuel + 1, done, last, breaks, stop, c =>
    if c.column != indent || c.peek == endOfText then (done, last, breaks, stop, c)
    else
      let done := breaks.reverse ++ done
      let leadsText := c.peek != ' ' && c.peek != '\t'
      let (line, c) := c.takeWhile fun ch => !isBreak ch
      let done := line.reverse ++ done
      let (last, c) := c.lineBreak
      let (breaks, stop, c) := innerBreaks indent (c.left + 1) [] c.mark c
      if c.column == indent && c.peek != endOfText then
        let done :=
          if folded && last == ['\n'] && leadsText && c.peek != ' ' && c.peek != '\t' then
            if breaks.isEmpty then ' ' :: done else done
          else last.reverse ++ done
        blockLines folded indent fuel done [] breaks stop c
      else (done, last, breaks, stop, c)

/-- A block scalar inside of something that is indented by `parent - 1` characters. -/
def blockScalar (parent : Nat) (style : Style) (c : Cursor) : Except Error (Token × Cursor) := do
  let start := c.mark
  let ((chomping, increment), c) ← blockHeader start c.next
  let c ← ignoredLine .scanningBlockScalar start c
  let least := max parent 1
  let (breaks, indent, stop, c) := match increment with
    | none =>
      let (breaks, widest, stop, c) := leadingBreaks (c.left + 1) [] 0 c.mark c
      (breaks, max least widest, stop, c)
    | some n =>
      let indent := least + n - 1
      let (breaks, stop, c) := innerBreaks indent (c.left + 1) [] c.mark c
      (breaks, indent, stop, c)
  let (done, last, breaks, stop, c) :=
    blockLines (style == .folded) indent (c.left + 1) [] [] breaks stop c
  let tail := match chomping with
    | .strip => []
    | .clip => last
    | .keep => last ++ breaks
  .ok (⟨.scalar ((done.reverse ++ tail).map .char) style, start, stop⟩, c)

/-- The character that a backslash and a letter stand for. -/
def escapeOf? (c : Char) : Option Char :=
  match c with
  | '0' => some '\x00'
  | 'a' => some '\x07'
  | 'b' => some '\x08'
  | 't' | '\t' => some '\t'
  | 'n' => some '\n'
  | 'v' => some '\x0b'
  | 'f' => some '\x0c'
  | 'r' => some '\r'
  | 'e' => some '\x1b'
  | ' ' => some ' '
  | '"' => some '"'
  | '\\' => some '\\'
  | '/' => some '/'
  | 'N' => some (Char.ofNat 0x85)
  | '_' => some (Char.ofNat 0xa0)
  | 'L' => some (Char.ofNat 0x2028)
  | 'P' => some (Char.ofNat 0x2029)
  | _ => none

/-- The number of digits behind a letter that announces a code point. -/
def codeDigits? (c : Char) : Option Nat :=
  match c with
  | 'x' => some 2
  | 'u' => some 4
  | 'U' => some 8
  | _ => none

/-- What has a code point.  Two halves in a row are not joined. -/
def glyphOfCode? (n : Nat) : Option Glyph :=
  if 0x10ffff < n then none else some (.ofCode n)

/-- The greatest number that is told from others as a code point. -/
def maxCode : Nat := 0x7fffffff

/-- Line breaks inside of a quoted scalar, with the blanks around them. -/
def quotedBreaks (start : Mark) : Nat → List Char → Cursor → Except Error (List Char × Cursor)
  | 0, done, c => .ok (done, c)
  | fuel + 1, done, c =>
    let c := c.lookForSeparator
    if c.atAnySeparator then scanProblem .scanningQuoted start c .separator
    else
      let c := c.skipWhile fun ch => ch == ' ' || ch == '\t'
      if isBreak c.peek then
        let (b, c) := c.lineBreak
        quotedBreaks start fuel (done ++ b) c
      else .ok (done, c)

/-- An escape from behind its backslash on: what it stands for. -/
def escape (start : Mark) (c : Cursor) : Except Error (List Glyph × Cursor) :=
  let ch := c.peek
  match escapeOf? ch, codeDigits? ch with
  | some d, _ => .ok ([.char d], c.next)
  | none, some count =>
    let c := c.next
    match firstOther? isHexDigit c count with
    | some (d, c) => scanProblem .scanningDoubleQuoted start c (.hexEscape count d)
    | none =>
      let code := hexNumber (c.front count)
      match glyphOfCode? code with
      | some g => .ok ([g], c.skip count)
      | none => (c.look count).fail (if maxCode < code then .codeRange else .codePoint)
  | none, none =>
    if isBreak ch then
      let (_, c) := c.lineBreak
      (quotedBreaks start (c.left + 1) [] c).map fun (breaks, c) => (breaks.map .char, c)
    else scanProblem .scanningDoubleQuoted start c (.unknownEscape ch)

/-- Blanks and line breaks between the words of a quoted scalar. -/
def quotedSpaces (start : Mark) (c : Cursor) : Except Error (List Char × Cursor) :=
  let (blanks, c) := c.takeWhile fun ch => ch == ' ' || ch == '\t'
  if c.peek == endOfText then scanProblem .scanningQuoted start c .endOfStream
  else if isBreak c.peek then do
    let (b, c) := c.lineBreak
    let (breaks, c) ← quotedBreaks start (c.left + 1) [] c
    let first := if b != ['\n'] then b else if breaks.isEmpty then [' '] else []
    .ok (first ++ breaks, c)
  else .ok (blanks, c)

/-- The text of a quoted scalar up to its mark; `done` is the text so far, last glyph
first.  The fuel bounds the pieces. -/
def quotedText (double : Bool) (start : Mark) : Nat → List Glyph → Cursor →
    Except Error (List Glyph × Cursor)
  | 0, done, c => .ok (done, c)
  | fuel + 1, done, c =>
    let ch := c.peek
    if isGap ch then do
      let (cs, c) ← quotedSpaces start c
      quotedText double start fuel (cs.reverse.map .char ++ done) c
    else if double then
      if ch == '"' then .ok (done, c.next)
      else if ch == '\\' then do
        let (gs, c) ← escape start c.next
        quotedText double start fuel (gs.reverse ++ done) c
      else quotedText double start fuel (.char ch :: done) c.next
    else if ch == '\'' then
      if c.peekAt 1 == '\'' then quotedText double start fuel (.char '\'' :: done) (c.skip 2)
      else .ok (done, c.next)
    else quotedText double start fuel (.char ch :: done) c.next

def quotedScalar (style : Style) (c : Cursor) : Except Error (Token × Cursor) := do
  let start := c.mark
  let (done, c') ← quotedText (style == .double) start (c.left + 1) [] c.next
  .ok (⟨.scalar done.reverse style, start, c'.mark⟩, c')

/-- Characters that end a plain scalar inside of brackets. -/
def isFlowMark (c : Char) : Bool := c == ',' || c == '[' || c == ']' || c == '\x7b' || c == '\x7d'

/-- The length of the piece of a plain scalar that comes next. -/
def plainLength (inFlow : Bool) : List Char → Nat
  | [] => 0
  | ch :: rest =>
    let follower := rest.headD endOfText
    if isGap ch || (ch == ':' && (isGap follower || (inFlow && isFlowMark follower))) ||
        (inFlow && (ch == '?' || isFlowMark ch)) then 0
    else plainLength inFlow rest + 1

/-- Blank lines between the pieces of a plain scalar; `none` at a mark between
documents. -/
def plainBreaks : Nat → List Char → Cursor → Option (List Char) × Cursor
  | 0, done, c => (some done, c)
  | fuel + 1, done, c =>
    if c.peek == ' ' then plainBreaks fuel done c.next
    else if isBreak c.peek then
      let (b, c) := c.lineBreak
      let c := c.lookForSeparator
      if c.atAnySeparator then (none, c) else plainBreaks fuel (done ++ b) c
    else (some done, c)

/-- What stands between two pieces of a plain scalar, whether it holds a line break, and
the cursor behind it; nothing at a mark between documents. -/
def plainSpaces (c : Cursor) : List Char × Bool × Cursor :=
  let (blanks, c) := c.takeWhile (· == ' ')
  if isBreak c.peek then
    let (b, c) := c.lineBreak
    let c := c.lookForSeparator
    if c.atAnySeparator then ([], true, c)
    else
      match plainBreaks (c.left + 1) [] c with
      | (none, c) => ([], true, c)
      | (some breaks, c) =>
        let first := if b != ['\n'] then b else if breaks.isEmpty then [' '] else []
        (first ++ breaks, true, c)
  else (blanks, false, c)

/-- A plain scalar in the making. -/
structure Plain where
  /-- Its text so far, last character first. -/
  done : List Char
  /-- What stands between the text and the next piece. -/
  spaces : List Char
  /-- The place behind the text. -/
  stop : Mark
  /-- A line break came after the last piece. -/
  broken : Bool
deriving Repr

def plainPieces (inFlow : Bool) (indent : Nat) : Nat → Plain → Cursor → Plain × Cursor
  | 0, p, c => (p, c)
  | fuel + 1, p, c =>
    let length := if c.peek == '#' then 0 else plainLength inFlow c.rest
    if length == 0 then (p, c)
    else
      let done := (c.front length).reverse ++ (p.spaces.reverse ++ p.done)
      let c := c.skip length
      let c := if c.peek == ':' then c.look 1 else c
      let stop := c.mark
      let (spaces, broken, c) := plainSpaces c
      let p : Plain := ⟨done, spaces, stop, broken⟩
      if spaces.isEmpty || c.peek == '#' || (!inFlow && c.column < indent) then (p, c)
      else plainPieces inFlow indent fuel p c

/-- A plain scalar inside of something that is indented by `indent - 1` characters, and
whether a line break stands behind it. -/
def plainScalar (inFlow : Bool) (indent : Nat) (c : Cursor) : Token × Bool × Cursor :=
  let start := c.mark
  let (p, c) := plainPieces inFlow indent (c.left + 1) ⟨[], [], start, false⟩ c
  (⟨.scalar (p.done.reverse.map .char) .plain, start, p.stop⟩, p.broken, c)

end Yaml

end FindingLedger
