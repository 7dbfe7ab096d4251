/-
Numbers in decimal, read back.

A number is written with the digits of ASCII and perhaps a minus sign, without separators
and blanks; reading gives the number back unless it has too many digits.
-/
import FindingLedger.Text.Numeral
import Mathlib.Init

namespace FindingLedger

/-- What is said of every character of a text is decided along the text, not by going through
all characters there are. -/
instance Text.decidableForallMem (p : Char → Prop) [DecidablePred p] (cs : List Char) :
    Decidable (∀ c ∈ cs, p c) :=
  List.decidableBAll p cs

namespace Numeral

/-- A number has few enough digits to be read. -/
def Fits (n : Int) : Prop := (Nat.toDigits 10 n.natAbs).length ≤ maxDigits

instance (n : Int) : Decidable (Fits n) := inferInstanceAs (Decidable (_ ≤ _))

theorem toNat_of_isDigit {c : Char} (hc : c.isDigit = true) : 48 ≤ c.toNat ∧ c.toNat ≤ 57 := by
  simp only [Char.isDigit, Bool.and_eq_true, decide_eq_true_eq] at hc
  exact hc

theorem digitValue?_of_isDigit {c : Char} (hc : c.isDigit = true) :
    Text.digitValue? c = some (c.toNat - '0'.toNat) := by
  have hrange := toNat_of_isDigit hc
  rw [Text.digitValue?, if_pos (by omega), if_pos hc]

theorem not_isSpace_of_isDigit {c : Char} (hc : c.isDigit = true) : Text.isSpace c = false := by
  have hrange := toNat_of_isDigit hc
  have hblank : c ≠ ' ' := by
    rintro rfl
    cases hc
  simp only [Text.isSpace, Text.isAsciiBlank, Bool.or_eq_false_iff, Bool.and_eq_false_iff,
    decide_eq_false_iff_not, beq_eq_false_iff_ne]
  exact ⟨⟨hblank, Or.inr (by omega)⟩, Or.inl (by omega)⟩

theorem splitRun_digits (done : List (Option Nat)) {ds : List Char}
    (hds : ∀ c ∈ ds, c.isDigit = true) :
    splitRun done ds = (done.reverse ++ ds.map fun c => some (c.toNat - '0'.toNat), []) := by
  induction ds generalizing done with
  | nil => rw [splitRun, List.map_nil, List.append_nil]
  | cons c rest ih =>
    have hc := hds c List.mem_cons_self
    have hmark : (c == '_') = false := by
      rw [beq_eq_false_iff_ne]
      rintro rfl
      cases hc
    rw [splitRun, hmark, digitValue?_of_isDigit hc]
    simp only [Bool.false_eq_true, if_false]
    rw [ih _ fun d hd => hds d (List.mem_cons_of_mem c hd), List.reverse_cons, List.append_assoc]
    rfl

theorem separatorsOk_map_some (ds : List Nat) : separatorsOk (ds.map some) = true := by
  induction ds with
  | nil => rfl
  | cons d rest ih =>
    cases rest with
    | nil => rfl
    | cons e more => exact ih

theorem isDigit_toDigits (n : Nat) : ∀ c ∈ Nat.toDigits 10 n, c.isDigit = true :=
  fun _ hc => Nat.isDigit_of_mem_toDigits (by omega) (by omega) hc

/-- The digits of a number stand for it. -/
theorem valueOf_toDigits (n : Nat) :
    valueOf ((Nat.toDigits 10 n).map fun c => c.toNat - '0'.toNat) = n := by
  have hcommute : (fun (sofar : Nat) (c : Char) => sofar * 10 + (c.toNat - '0'.toNat)) =
      fun sofar c => 10 * sofar + (c.toNat - '0'.toNat) :=
    funext fun sofar => funext fun c => by rw [Nat.mul_comm]
  rw [valueOf, List.foldl_map, hcommute, ← Nat.ofDigitChars_eq_foldl,
    Nat.ofDigitChars_ten_toDigits]

/-- What is left of a numeral behind its sign gives the number without the sign. -/
theorem splitRun_toDigits (n : Nat) :
    splitRun [] (Nat.toDigits 10 n) =
      (((Nat.toDigits 10 n).map fun c => c.toNat - '0'.toNat).map some, []) := by
  rw [splitRun_digits [] (isDigit_toDigits n), List.map_map]
  rfl

/-- A number is written with its digits, and a minus sign if it is negative. -/
theorem toList_toString (n : Int) :
    (toString n).toList =
      if 0 ≤ n then Nat.toDigits 10 n.natAbs else '-' :: Nat.toDigits 10 n.natAbs := by
  rw [Int.toString_eq_repr, Int.repr_eq_if]
  split
  · rw [Nat.toList_repr, show n.toNat = n.natAbs by omega]
  · rw [String.toList_append, Nat.toList_repr, show (-n).toNat = n.natAbs by omega]
    rfl

theorem mem_toString {n : Int} {c : Char} (hc : c ∈ (toString n).toList) :
    c = '-' ∨ c.isDigit = true := by
  rw [toList_toString] at hc
  split at hc
  · exact Or.inr (isDigit_toDigits _ c hc)
  · rcases List.mem_cons.1 hc with hminus | hc
    · exact Or.inl hminus
    · exact Or.inr (isDigit_toDigits _ c hc)

theorem splitSign_toString (n : Int) :
    splitSign (skipBlanks (toString n).toList) =
      (decide (n < 0), Nat.toDigits 10 n.natAbs) := by
  rw [toList_toString]
  split
  · next hsign =>
    rw [decide_eq_false (Int.not_lt.2 hsign)]
    cases hdigits : Nat.toDigits 10 n.natAbs with
    | nil => exact absurd hdigits Nat.toDigits_ne_nil
    | cons c rest =>
      have hc : c.isDigit = true := isDigit_toDigits n.natAbs c (hdigits ▸ List.mem_cons_self)
      rw [skipBlanks, List.dropWhile_cons_of_neg (by rw [not_isSpace_of_isDigit hc]; simp)]
      unfold splitSign
      split
      · next heq => cases heq; cases hc
      · next heq => cases heq; cases hc
      · rfl
  · next hsign =>
    rw [decide_eq_true (Int.not_le.1 hsign)]
    rfl

/-- A number in decimal is read back. -/
theorem read_toString {n : Int} (hfits : Fits n) : read (toString n) = .ok n := by
  have hdigits : (((Nat.toDigits 10 n.natAbs).map fun c => c.toNat - '0'.toNat).map
      some).filterMap id = (Nat.toDigits 10 n.natAbs).map fun c => c.toNat - '0'.toNat := by
    rw [List.filterMap_map]
    exact List.filterMap_some
  have hshort : ¬ maxDigits <
      ((Nat.toDigits 10 n.natAbs).map fun c => c.toNat - '0'.toNat).length := by
    rw [List.length_map]
    exact Nat.not_lt.2 hfits
  have hsome : ((Nat.toDigits 10 n.natAbs).map fun c => c.toNat - '0'.toNat).isEmpty = false := by
    rw [List.isEmpty_map, List.isEmpty_eq_false_iff]
    exact Nat.toDigits_ne_nil
  rw [read, splitSign_toString]
  dsimp only
  rw [splitRun_toDigits]
  simp only [separatorsOk_map_some, hdigits, hsome, hshort, valueOf_toDigits, Bool.not_true,
    Bool.false_eq_true, if_false, skipBlanks, List.dropWhile_nil, List.isEmpty_nil, Bool.or_self]
  by_cases hsign : n < 0
  · rw [if_pos (decide_eq_true hsign)]
    congr 1
    omega
  · rw [if_neg (by simpa using hsign)]
    congr 1
    omega

end Numeral

end FindingLedger
