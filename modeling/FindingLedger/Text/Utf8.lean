/-
Texts as bytes.

Decoding names the first place where the bytes are no text: the bytes in
question, counted from the start, and what is wrong with them.
-/

namespace FindingLedger

/-- What is wrong with bytes that are no text. -/
inductive Utf8Fault
  | startByte | continuationByte | endOfData
deriving DecidableEq, Repr

/-- The first place where bytes are no text: `count` bytes from `start` on, the
first of which is `byte`. -/
structure Utf8Error where
  byte : UInt8
  start : Nat
  count : Nat
  fault : Utf8Fault
deriving DecidableEq, Repr

def Utf8Fault.message : Utf8Fault → String
  | .startByte => "invalid start byte"
  | .continuationByte => "invalid continuation byte"
  | .endOfData => "unexpected end of data"

/-- The text of the error: one byte is shown, several are only counted. -/
def Utf8Error.message (e : Utf8Error) : String :=
  let hex := String.ofList
    [Nat.digitChar (e.byte.toNat / 16), Nat.digitChar (e.byte.toNat % 16)]
  if e.count == 1 then
    s!"'utf-8' codec can't decode byte 0x{hex} in position {e.start}: {e.fault.message}"
  else
    s!"'utf-8' codec can't decode bytes in position {e.start}-{e.start + e.count - 1}: " ++
      e.fault.message

namespace Utf8

/-- The number of continuation bytes after a lead byte, and the legal range of
the first of them; `none` for a byte that starts no character. -/
def shape? (lead : UInt8) : Option (Nat × UInt8 × UInt8) :=
  if lead < 0x80 then some (0, 0x80, 0xbf)
  else if lead < 0xc2 then none
  else if lead < 0xe0 then some (1, 0x80, 0xbf)
  else if lead == 0xe0 then some (2, 0xa0, 0xbf)
  else if lead == 0xed then some (2, 0x80, 0x9f)
  else if lead < 0xf0 then some (2, 0x80, 0xbf)
  else if lead == 0xf0 then some (3, 0x90, 0xbf)
  else if lead < 0xf4 then some (3, 0x80, 0xbf)
  else if lead == 0xf4 then some (3, 0x80, 0x8f)
  else none

/-- Take `n` continuation bytes, the first of them from `lo` to `hi`.  Gives their
bits below those of `acc` and the remaining bytes, or how many were good and
whether the bytes ended there. -/
def takeContinuation (lo hi : UInt8) (good acc : Nat) :
    Nat → List UInt8 → Except (Nat × Utf8Fault) (Nat × List UInt8)
  | 0, bs => .ok (acc, bs)
  | _ + 1, [] => .error (good, .endOfData)
  | n + 1, b :: rest =>
    if lo ≤ b && b ≤ hi then
      takeContinuation 0x80 0xbf (good + 1) (acc * 64 + b.toNat % 64) n rest
    else .error (good, .continuationByte)

/-- The bits that a lead byte gives, when `n` bytes continue it. -/
def leadBits (lead : UInt8) (n : Nat) : Nat :=
  match n with
  | 0 => lead.toNat
  | 1 => lead.toNat % 32
  | 2 => lead.toNat % 16
  | _ => lead.toNat % 8

theorem takeContinuation_length {lo hi : UInt8} {n good acc : Nat} {bs : List UInt8}
    {r : Nat × List UInt8} (h : takeContinuation lo hi good acc n bs = .ok r) :
    r.2.length ≤ bs.length := by
  induction n generalizing lo hi good acc bs with
  | zero =>
    simp only [takeContinuation, Except.ok.injEq] at h
    simp [← h]
  | succ n ih =>
    cases bs with
    | nil => simp [takeContinuation] at h
    | cons b rest =>
      rw [takeContinuation] at h
      split at h
      · exact Nat.le_succ_of_le (ih h)
      · exact absurd h (by simp)

/-- Decode bytes from position `start` on; `done` holds the characters before
them, last first. -/
def decodeFrom (start : Nat) (done : List Char) (bs : List UInt8) : Except Utf8Error (List Char) :=
  match bs with
  | [] => .ok done.reverse
  | b :: rest =>
    match shape? b with
    | none => .error ⟨b, start, 1, .startByte⟩
    | some (n, lo, hi) =>
      match h : takeContinuation lo hi 1 (leadBits b n) n rest with
      | .error (good, fault) => .error ⟨b, start, good, fault⟩
      | .ok (code, rest') => decodeFrom (start + n + 1) (Char.ofNat code :: done) rest'
termination_by bs.length
decreasing_by
  have : rest'.length ≤ rest.length := takeContinuation_length h
  simp only [List.length_cons]
  omega

/-- The characters that bytes stand for. -/
def decode (bs : List UInt8) : Except Utf8Error (List Char) :=
  decodeFrom 0 [] bs

/-- Line ends of all kinds as line feeds. -/
def plainLines : List Char → List Char
  | '\r' :: '\n' :: rest => '\n' :: plainLines rest
  | '\r' :: rest => '\n' :: plainLines rest
  | c :: rest => c :: plainLines rest
  | [] => []

/-- The characters that bytes stand for, with line ends of one kind. -/
def decodeLines (bs : List UInt8) : Except Utf8Error (List Char) :=
  (decode bs).map plainLines

def encode (s : String) : List UInt8 :=
  s.toUTF8.toList

end Utf8

end FindingLedger
