/-
Bytes as text with four characters for every three bytes.

Characters that stand for nothing are skipped.  Padding ends the text as soon as it
fills the last group.
-/

namespace FindingLedger

namespace Text

/-- The six bits of a character. -/
def base64Value? (c : Char) : Option Nat :=
  if 'A' ≤ c && c ≤ 'Z' then some (c.toNat - 'A'.toNat)
  else if 'a' ≤ c && c ≤ 'z' then some (c.toNat - 'a'.toNat + 26)
  else if '0' ≤ c && c ≤ '9' then some (c.toNat - '0'.toNat + 52)
  else if c == '+' then some 62
  else if c == '/' then some 63
  else none

/-- Why a text stands for no bytes. -/
inductive Base64Fault
  /-- The last group is not filled. -/
  | padding
  /-- After so many characters the last group holds one alone. -/
  | oddCharacter (count : Nat)
deriving DecidableEq, Repr

def Base64Fault.message : Base64Fault → String
  | .padding => "Incorrect padding"
  | .oddCharacter count =>
    s!"Invalid base64-encoded string: number of data characters ({count}) " ++
      "cannot be 1 more than a multiple of 4"

/-- The bytes that the group at hand makes, when it is not filled. -/
def partialGroup : List Nat → List UInt8
  | [a, b] => [UInt8.ofNat (a * 4 + b / 16)]
  | [a, b, c] => [UInt8.ofNat (a * 4 + b / 16), UInt8.ofNat (b * 16 + c / 4)]
  | _ => []

/-- Read bytes: `done` are those so far, last first, `count` the characters that made
them, `group` the values of the group at hand, and `pads` the padding behind it. -/
def readBase64 (done : List UInt8) (count : Nat) (group : List Nat) (pads : Nat) :
    List Char → Except Base64Fault (List UInt8)
  | [] =>
    match group with
    | [] => .ok done.reverse
    | [_] => .error (.oddCharacter (count + 1))
    | _ => .error .padding
  | c :: rest =>
    if c == '=' then
      if 2 ≤ group.length then
        if 4 ≤ group.length + pads + 1 then .ok (done.reverse ++ partialGroup group)
        else readBase64 done count group (pads + 1) rest
      else readBase64 done count group pads rest
    else match base64Value? c with
      | none => readBase64 done count group pads rest
      | some d =>
        match group with
        | [a, b, c] =>
          let bytes := partialGroup [a, b, c] ++ [UInt8.ofNat (c * 64 + d)]
          readBase64 (bytes.reverse ++ done) (count + 4) [] 0 rest
        | group => readBase64 done count (group ++ [d]) 0 rest

def base64Bytes (cs : List Char) : Except Base64Fault (List UInt8) :=
  readBase64 [] 0 [] 0 cs

end Text

end FindingLedger
