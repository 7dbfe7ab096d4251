/-
The value of a JSON text.

The tokens are taken one by one by a machine whose state says what may come next
and which collections are open, so reading ends with the tokens.
-/
import FindingLedger.Datum
import FindingLedger.Json.Token

namespace FindingLedger

namespace Json

/-- What is wrong at a place of a text. -/
inductive Fault
  | expectingValue
  | expectingName
  | expectingColon
  | expectingComma
  | extraData
  | byteOrderMark
  | lexical (fault : LexFault)
deriving DecidableEq, Repr

/-- Why a text has no value. -/
inductive Error
  /-- A fault at a line, a column and a position. -/
  | syntactic (fault : Fault) (line column pos : Nat)
  /-- A whole number has too many digits. -/
  | longInt (digits : Nat)
  /-- A collection stands inside too many others. -/
  | tooDeep (collection : String)
deriving DecidableEq, Repr

def Fault.message : Fault → String
  | .expectingValue => "Expecting value"
  | .expectingName => "Expecting property name enclosed in double quotes"
  | .expectingColon => "Expecting ':' delimiter"
  | .expectingComma => "Expecting ',' delimiter"
  | .extraData => "Extra data"
  | .byteOrderMark => "Unexpected UTF-8 BOM (decode using utf-8-sig)"
  | .lexical .controlCharacter => "Invalid control character at"
  | .lexical .unterminated => "Unterminated string starting at"
  | .lexical .badEscape => "Invalid \\escape"
  | .lexical .badCodeEscape => "Invalid \\uXXXX escape"

def Error.message : Error → String
  | .syntactic fault line column pos =>
    s!"{fault.message}: line {line} column {column} (char {pos})"
  | .longInt digits => (NumeralError.tooLong digits).message
  | .tooDeep collection =>
    "maximum recursion depth exceeded while decoding a JSON " ++
      s!"{collection} from a unicode string"

/-- Whether the error is one of the text itself, and not of the room that reading it
takes. -/
def Error.isOfText : Error → Bool
  | .tooDeep _ => false
  | .syntactic .. | .longInt _ => true

/-- A collection that is still open, its last item first. -/
inductive Frame
  | array (done : List Datum)
  /-- An object, and the name that waits for its value. -/
  | object (done : List (Scalar × Datum)) (key : Scalar)

/-- What may come next. -/
inductive Expect
  /-- A value. -/
  | value
  /-- A value, or the end of the array that was just opened. -/
  | valueOrClose
  /-- A name. -/
  | name (done : List (Scalar × Datum))
  /-- A name, or the end of the object that was just opened. -/
  | nameOrClose
  /-- The colon after a name. -/
  | colon (done : List (Scalar × Datum)) (key : Scalar)
  /-- What follows an item of the innermost collection, or the whole value. -/
  | after (value : Datum)

/-- What may come next, inside which open collections, innermost first. -/
structure Reader where
  expect : Expect
  frames : List Frame

/-- A fault and its position, a number that is too long, or a collection that is too
deep. -/
inductive Stop
  | fault (fault : Fault) (pos : Nat)
  | longInt (digits : Nat)
  | tooDeep (collection : String)

/-- How many collections may be open at a time where texts are read. -/
def maxDepth : Nat := 970

/-- Open a collection inside of others, where there is room for `room` of them. -/
def Reader.enter (room : Nat) (frames : List Frame) (collection : String) (r : Reader) :
    Except Stop Reader :=
  if room ≤ frames.length then .error (.tooDeep collection) else .ok r

def Reader.takeValue (room : Nat) (frames : List Frame) (pos : Nat) :
    Token → Except Stop Reader
  | .openArray => enter room frames "array" ⟨.valueOrClose, .array [] :: frames⟩
  | .openObject => enter room frames "object" ⟨.nameOrClose, frames⟩
  | .null => .ok ⟨.after .null, frames⟩
  | .bool b => .ok ⟨.after (.bool b), frames⟩
  | .int n => .ok ⟨.after (.int n), frames⟩
  | .float x => .ok ⟨.after (.scalar (.float x)), frames⟩
  | .text s => .ok ⟨.after (.text s), frames⟩
  | .broken t => .ok ⟨.after (.scalar (.broken t)), frames⟩
  | .badText fault at_ => .error (.fault (.lexical fault) at_)
  | .longInt digits => .error (.longInt digits)
  | _ => .error (.fault .expectingValue pos)

def Reader.takeName (done : List (Scalar × Datum)) (frames : List Frame) (pos : Nat) :
    Token → Except Stop Reader
  | .text s => .ok ⟨.colon done (.text s), frames⟩
  | .broken t => .ok ⟨.colon done (.broken t), frames⟩
  | .badText fault at_ => .error (.fault (.lexical fault) at_)
  | _ => .error (.fault .expectingName pos)

def Reader.step (room : Nat) (r : Reader) (pos : Nat) (token : Token) :
    Except Stop Reader :=
  match r.expect, r.frames with
  | .value, frames => takeValue room frames pos token
  | .valueOrClose, frames =>
    match token, frames with
    | .closeArray, .array done :: outer => .ok ⟨.after (.list done.reverse), outer⟩
    | token, frames => takeValue room frames pos token
  | .nameOrClose, frames =>
    match token with
    | .closeObject => .ok ⟨.after (.dict []), frames⟩
    | token => takeName [] frames pos token
  | .name done, frames => takeName done frames pos token
  | .colon done key, frames =>
    match token with
    | .colon => .ok ⟨.value, .object done key :: frames⟩
    | _ => .error (.fault .expectingColon pos)
  | .after _, [] => .error (.fault .extraData pos)
  | .after value, .array done :: outer =>
    match token with
    | .closeArray => .ok ⟨.after (.list (value :: done).reverse), outer⟩
    | .comma => .ok ⟨.value, .array (value :: done) :: outer⟩
    | _ => .error (.fault .expectingComma pos)
  | .after value, .object done key :: outer =>
    let entries := (key, value) :: done
    match token with
    | .closeObject => .ok ⟨.after (.dict (Datum.ofEntries entries.reverse)), outer⟩
    | .comma => .ok ⟨.name entries, outer⟩
    | _ => .error (.fault .expectingComma pos)

/-- The value, if the text may end here; else what is missing. -/
def Reader.finish (r : Reader) (pos : Nat) : Except Stop Datum :=
  match r.expect, r.frames with
  | .after value, [] => .ok value
  | .after _, _ => .error (.fault .expectingComma pos)
  | .value, _ | .valueOrClose, _ => .error (.fault .expectingValue pos)
  | .name _, _ | .nameOrClose, _ => .error (.fault .expectingName pos)
  | .colon _ _, _ => .error (.fault .expectingColon pos)

/-- Take all tokens of a text that ends at `size`. -/
def Reader.run (room size : Nat) (r : Reader) : List (Nat × Token) → Except Stop Datum
  | [] => r.finish size
  | (pos, token) :: rest =>
    match r.step room pos token with
    | .ok r => r.run room size rest
    | .error stop => .error stop

/-- The line and the column, both from one on, of a position. -/
def lineColumn (cs : List Char) (pos : Nat) : Nat × Nat :=
  let before := cs.take pos
  (before.count '\n' + 1, (before.reverse.takeWhile (· != '\n')).length + 1)

/-- The value of a text whose collections stand inside of at most `room` others. -/
def readWithin (room : Nat) (cs : List Char) : Except Error Datum :=
  let fail (fault : Fault) (pos : Nat) : Error :=
    let (line, column) := lineColumn cs pos
    .syntactic fault line column pos
  if cs.head? == some (Char.ofNat 0xfeff) then .error (fail .byteOrderMark 0)
  else match Reader.run room cs.length ⟨.value, []⟩ (tokens cs) with
    | .ok v => .ok v
    | .error (.fault fault pos) => .error (fail fault pos)
    | .error (.longInt digits) => .error (.longInt digits)
    | .error (.tooDeep collection) => .error (.tooDeep collection)

def read (cs : List Char) : Except Error Datum := readWithin maxDepth cs

end Json

end FindingLedger
