/-
Texts with halves of pairs.

Two code units make up a character beyond the first plane, and an escape may give one of them
alone.  This half is no character, so a text with one can not be encoded.  Such a text is broken,
and is kept apart from the texts of characters alone.
-/
import FindingLedger.Text.CaseMap
import FindingLedger.Text.Quoted

namespace FindingLedger

/-- What a text is made of.  A half is told by its distance from the first one. -/
inductive Glyph
  | char (c : Char)
  | half (h : Fin 0x800)
deriving DecidableEq, Repr

namespace Glyph

def code : Glyph → Nat
  | char c => c.toNat
  | half h => 0xd800 + h

/-- The glyph with a code; codes between those of characters are those of halves. -/
def ofCode (n : Nat) : Glyph :=
  if n.isValidChar then char (Char.ofNat n) else half (Fin.ofNat 0x800 (n - 0xd800))

def isHalf : Glyph → Bool
  | char _ => false
  | half _ => true

def char? : Glyph → Option Char
  | char c => some c
  | half _ => none

/-- Characters, with another one in place of each half. -/
def charsWith (other : Char) (gs : List Glyph) : List Char := gs.map fun g => g.char?.getD other

def halfEscape (h : Fin 0x800) : List Char :=
  '\\' :: 'u' :: Text.hexDigits 4 (half h).code

/-- One glyph between the marks `mark`. -/
def quotedBetween (mark : Char) : Glyph → List Char
  | char c => Text.quotedChar mark c
  | half h => halfEscape h

def quoted (gs : List Glyph) : String :=
  let mark := Text.quoteMark (gs.filterMap char?)
  String.ofList (mark :: gs.flatMap (quotedBetween mark) ++ [mark])

/-- Lower case of glyphs; `run` holds the characters since the last half, last one first.  What
stands behind a half does not bear on what stands before it. -/
def lower (run : List Char) : List Glyph → List Glyph
  | [] => (Text.lower (String.ofList run.reverse)).toList.map char
  | char c :: rest => lower (c :: run) rest
  | half h :: rest =>
    (Text.lower (String.ofList run.reverse)).toList.map char ++ half h :: lower [] rest

end Glyph

/-- A text with a half. -/
structure BrokenText where
  glyphs : List Glyph
  isBroken : glyphs.any Glyph.isHalf = true
deriving DecidableEq, Repr

namespace BrokenText

def after (front : String) (t : BrokenText) : BrokenText where
  glyphs := front.toList.map .char ++ t.glyphs
  isBroken := by rw [List.any_append, t.isBroken, Bool.or_true]

/-- The codes of the glyphs, by which names are ordered. -/
def codes (t : BrokenText) : List Nat := t.glyphs.map Glyph.code

/-- Whether a name stands before another. -/
def precedes (t u : BrokenText) : Bool := t.codes.lex u.codes Nat.blt

def escaped (t : BrokenText) : String :=
  String.ofList (t.glyphs.flatMap fun g =>
    match g with
    | .char c => [c]
    | .half h => Glyph.halfEscape h)

/-- Whether each half stands for a byte: these are the second halves from `U+DC80` to
`U+DCFF`. -/
def standsForBytes (t : BrokenText) : Bool :=
  t.glyphs.all fun g => !g.isHalf || (0xdc80 ≤ g.code && g.code ≤ 0xdcff)

end BrokenText

/-- The text that glyphs make, broken or not. -/
def Glyph.assemble (gs : List Glyph) : BrokenText ⊕ String :=
  if h : gs.any isHalf = true then .inl ⟨gs, h⟩ else .inr (String.ofList (gs.filterMap char?))

/-- Characters make a text that is not broken. -/
@[simp]
theorem Glyph.assemble_chars (cs : List Char) :
    assemble (cs.map char) = .inr (String.ofList cs) := by
  have hwhole : (cs.map char).any isHalf = false := by
    rw [List.any_map]
    exact List.any_eq_false.2 fun _ _ => Bool.false_ne_true
  have hchars : (cs.map char).filterMap char? = cs := by
    rw [List.filterMap_map]
    exact List.filterMap_some
  rw [assemble, dif_neg (by rw [hwhole]; exact Bool.false_ne_true), hchars]

theorem Glyph.ofCode_toNat (c : Char) : ofCode c.toNat = char c := by
  have hvalid : c.toNat.isValidChar := c.valid
  rw [ofCode, if_pos hvalid, Char.ofNat_toNat]

end FindingLedger
