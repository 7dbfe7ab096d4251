/-
Texts that are read piece by piece from bytes that are taken in blocks.

A block may end inside of a character, whose front then waits for the next block.  A
fault is placed in what was decoded together: the bytes that waited, and the block.
-/
import FindingLedger.Text.Utf8

namespace FindingLedger

/-- A text of which a part is read: the bytes that are still to be taken, what waits for
them, and the characters that are ready. -/
structure TextStream where
  bytes : List UInt8
  /-- The front of a character. -/
  pending : List UInt8
  /-- A carriage return was met last, whose line feed may come. -/
  heldReturn : Bool
  ready : List Char
  /-- How many bytes a character of the last block took. -/
  weight : Float

namespace TextStream

/-- A text of which nothing is read. -/
def ofBytes (bytes : List UInt8) : TextStream := ⟨bytes, [], false, [], 0.0⟩

/-- The least size of a block in bytes. -/
def blockSize : Nat := 8192

/-- The size of the block that is taken for a number of characters. -/
def sizeFor (s : TextStream) (wanted : Nat) : Nat :=
  let weight := if s.weight < 1.0 then 1.0 else s.weight
  max blockSize (weight * Float.ofNat wanted).toUInt64.toNat

/-- The characters that bytes stand for, and the bytes at their end that are the front of
one more.  At the end of the text there may be none. -/
def decodeBlock (isLast : Bool) (bytes : List UInt8) :
    Except Utf8Error (List Char × List UInt8) :=
  match Utf8.decode bytes with
  | .ok cs => .ok (cs, [])
  | .error e =>
    if isLast || e.fault != .endOfData then .error e
    else (Utf8.decode (bytes.take e.start)).map fun cs => (cs, bytes.drop e.start)

/-- Take a block of bytes; its characters are all that is ready then.  Whether anything
was left to be taken. -/
def takeBlock (s : TextStream) (wanted : Nat) : Except Utf8Error (TextStream × Bool) := do
  let size := s.sizeFor wanted
  let block := s.bytes.take size
  let isLast := block.isEmpty
  let (cs, pending) ← decodeBlock isLast (s.pending ++ block)
  let joins := s.heldReturn && (isLast || !cs.isEmpty)
  let cs := if joins then '\r' :: cs else cs
  let holds := !isLast && cs.getLast? == some '\r'
  let ready := Utf8.plainLines (if holds then cs.dropLast else cs)
  let weight :=
    if ready.isEmpty then 0.0 else Float.ofNat block.length / Float.ofNat ready.length
  .ok (⟨s.bytes.drop size, pending, holds || (s.heldReturn && !joins), ready, weight⟩,
    !isLast || !ready.isEmpty)

/-- Read a number of characters, fewer only at the end of the text.  The fuel bounds the
blocks. -/
def read : Nat → Nat → TextStream → Except Utf8Error (List Char × TextStream)
  | 0, _, s => .ok ([], s)
  | fuel + 1, wanted, s => do
    let front := s.ready.take wanted
    let s := { s with ready := s.ready.drop wanted }
    if front.length == wanted then .ok (front, s)
    else
      let (s, goesOn) ← s.takeBlock (wanted - front.length)
      if goesOn then
        let (others, s) ← read fuel (wanted - front.length) s
        .ok (front ++ others, s)
      else .ok (front, s)

/-- The pieces of a text, each of a number of characters, up to the end of the text or to
one that can not be read.  The fuel bounds the pieces and the blocks. -/
def pieces (size : Nat) : Nat → TextStream → List (List Char) × Option Utf8Error
  | 0, _ => ([], none)
  | fuel + 1, s =>
    match s.read (fuel + 1) size with
    | .error e => ([], some e)
    | .ok ([], _) => ([], none)
    | .ok (piece, s) =>
      let (rest, fault) := pieces size fuel s
      (piece :: rest, fault)

end TextStream

end FindingLedger
