/-
The text of a YAML document as far as it can be read.

A file is read in pieces, the first two of them at once and each of the others when it is
needed.  So a fault of a later piece counts only when the text before it has none.
-/
import FindingLedger.Text.Stream
import FindingLedger.Yaml.Fault

namespace FindingLedger

namespace Yaml

/-- A fault behind a text, and the number of characters before it. -/
structure Wall where
  index : Nat
  fault : Error
deriving DecidableEq, Repr

/-- A text, and what keeps from reading on behind it. -/
structure Source where
  text : List Char
  wall : Option Wall
deriving DecidableEq, Repr

namespace Source

/-- The number of characters in a piece. -/
def pieceSize : Nat := 4096

/-- The number of pieces that are read before anything else. -/
def firstPieces : Nat := 2

def before (cs : List Char) (piece : Nat) (fault : Error) : Except Error Source :=
  if piece < firstPieces then .error fault
  else
    let index := piece * pieceSize
    .ok ⟨cs.take index, some ⟨index, fault⟩⟩

/-- A text up to the piece with the first character that no document holds; `wall` stands
behind it. -/
def ofText (cs : List Char) (wall : Option Wall) : Except Error Source :=
  match cs.dropWhile isPrintable with
  | [] => .ok ⟨cs, wall⟩
  | c :: _ =>
    let pos := (cs.takeWhile isPrintable).length
    before cs (pos / pieceSize) (.unprintable c pos)

/-- The text in the bytes of a file. -/
def ofBytes (bytes : List UInt8) : Except Error Source :=
  match Utf8.decodeLines bytes with
  | .ok cs => ofText cs none
  | .error e =>
    let (pieces, fault) := (TextStream.ofBytes bytes).pieces pieceSize (bytes.length + 2)
    let e := fault.getD e
    match before pieces.flatten pieces.length (.encoding e) with
    | .error e => .error e
    | .ok s => ofText s.text s.wall

end Source

end Yaml

end FindingLedger
