/-
Which floating-point numbers are equal.

A finite number that is not zero is `m * 2 ^ q` for one `m` and one `q`, since `m` is as large
as it can be.  So numbers that are equal are the same one or both zero, and numbers that are
equal to one whole number are equal.
-/
import FindingLedger.Decimal.Whole
import Mathlib.Algebra.GroupWithZero.Nat
import Mathlib.Order.Basic

namespace FindingLedger

namespace Decimal

open Float.Model (UnpackedFloat Format)

open Float.Model.UnpackedFloat (Sign unpackMantissa unpackExponent unpackSign)

theorem isNaN_eq_false_iff (u : UnpackedFloat) : u.isNaN = false ↔ u ≠ .notANumber := by
  cases u with
  | notANumber => exact ⟨fun h => Bool.noConfusion h, fun h => absurd rfl h⟩
  | _ => exact ⟨fun _ h => UnpackedFloat.noConfusion h, fun _ => rfl⟩

theorem beq_eq (u v : UnpackedFloat) : u.beq v = (u.compare v == some .eq) := rfl

theorem compare_finite_iff {s t : Sign} {m m' : Nat} {q q' : Int} (hm : 0 < m) (hm' : 0 < m') :
    (UnpackedFloat.finite s m q hm).compare (.finite t m' q' hm') = some .eq ↔
      s = t ∧ m = m' ∧ q = q' := by
  have hparts : ((compare q q').then (compare m m')) = .eq ↔ m = m' ∧ q = q' := by
    simp [Ordering.then_eq_eq, and_comm]
  cases s with
  | negative =>
    cases t with
    | negative =>
      change some ((compare q q').then (compare m m')).swap = some .eq ↔ _
      simp [hparts]
    | positive => exact iff_of_false (fun h => by cases h) (fun h => by cases h.1)
  | positive =>
    cases t with
    | negative => exact iff_of_false (fun h => by cases h) (fun h => by cases h.1)
    | positive =>
      change some ((compare q q').then (compare m m')) = some .eq ↔ _
      simp [hparts]

/-- Equal numbers are the same one, but not what is no number, or both zero. -/
theorem beq_iff (u v : UnpackedFloat) :
    u.beq v = true ↔
      (u = v ∧ u.isNaN = false) ∨ ∃ s t, u = .zero s ∧ v = .zero t := by
  rw [isNaN_eq_false_iff, beq_eq, beq_iff_eq]
  constructor
  · intro h
    cases u with
    | notANumber => cases h
    | infinity s =>
      cases v with
      | infinity t =>
        have hsign : s = t := by cases s <;> cases t <;> first | rfl | cases h
        exact Or.inl ⟨by rw [hsign], nofun⟩
      | _ => cases s <;> cases h
    | zero s =>
      cases v with
      | zero t => exact Or.inr ⟨s, t, rfl, rfl⟩
      | notANumber => cases h
      | infinity t => cases t <;> cases h
      | finite t m q hm => cases t <;> cases h
    | finite s m q hm =>
      cases v with
      | finite t m' q' hm' =>
        obtain ⟨rfl, rfl, rfl⟩ := (compare_finite_iff hm hm').1 h
        exact Or.inl ⟨rfl, nofun⟩
      | notANumber => cases h
      | zero t => cases s <;> cases h
      | infinity t => cases t <;> cases h
  · rintro (⟨rfl, hnumber⟩ | ⟨s, t, rfl, rfl⟩)
    · cases u with
      | notANumber => exact absurd rfl hnumber
      | infinity s => cases s <;> rfl
      | zero s => rfl
      | finite s m q hm => exact (compare_finite_iff hm hm).2 ⟨rfl, rfl, rfl⟩
    · rfl

/-! ## The parts of a number -/

/-- A number `m * 2 ^ q` whose `m` is as large as it can be. -/
structure Binary.IsFull (b : Binary) : Prop where
  pos : 0 < b.m
  lt : b.m < 2 ^ 53
  full : b.q = -1074 ∨ (-1074 < b.q ∧ 2 ^ 52 ≤ b.m)

/-- What bits are unpacked to. -/
inductive Unpacks (bits : UInt64) : UnpackedFloat → Prop
  | notANumber : Unpacks bits .notANumber
  | infinity (s : Sign) : Unpacks bits (.infinity s)
  | zero (s : Sign) (isZero : (Binary.ofBits bits).m = 0) : Unpacks bits (.zero s)
  | finite {s : Sign} {m : Nat} {q : Int} (pos : 0 < m)
      (sign : bits.toNat / twoTo 63 = 1 ↔ s = .negative)
      (m_eq : (Binary.ofBits bits).m = m) (q_eq : (Binary.ofBits bits).q = q)
      (full : Binary.IsFull ⟨m, q, false⟩) : Unpacks bits (.finite s m q pos)

section Bits

variable (bits : UInt64)

theorem toNat_unpackMantissa :
    (@unpackMantissa .binary64 bits.toBitVec).toNat =
      bits.toNat % twoTo 52 := by
  simp [unpackMantissa, twoTo, Format.binary64]

theorem toNat_unpackExponent :
    (@unpackExponent .binary64 bits.toBitVec).toNat =
      bits.toNat / twoTo 52 % twoTo 11 := by
  simp [unpackExponent, twoTo, Format.binary64, Nat.shiftRight_eq_div_pow]

theorem toNat_unpackSign :
    (@unpackSign .binary64 bits.toBitVec).toNat = bits.toNat / twoTo 63 := by
  have hlt : bits.toNat < 2 ^ 64 := bits.toNat_lt
  have hsign : (@unpackSign .binary64 bits.toBitVec).toNat =
      (bits.toBitVec.extractLsb 63 63).toNat := rfl
  rw [hsign]
  simp [twoTo, Nat.shiftRight_eq_div_pow]
  omega

theorem ofBitVec_eq_negative :
    bits.toNat / twoTo 63 = 1 ↔
      Sign.ofBitVec (@unpackSign .binary64 bits.toBitVec) = .negative := by
  rw [← toNat_unpackSign]
  generalize @unpackSign .binary64 bits.toBitVec = sign
  have hlt : sign.toNat < 2 := sign.isLt
  have hzero : sign = 0#1 ↔ sign.toNat = 0 := BitVec.toNat_inj.symm
  simp only [Sign.ofBitVec, hzero]
  split <;> simp <;> omega

theorem toNat_one_append_unpackMantissa :
    (1#1 ++ @unpackMantissa .binary64 bits.toBitVec).toNat =
      bits.toNat % twoTo 52 + twoTo 52 := by
  have hmantissa := toNat_unpackMantissa bits
  have htwo : twoTo 52 = 2 ^ 52 := rfl
  rw [BitVec.toNat_append, ← Nat.shiftLeft_add_eq_or_of_lt (BitVec.isLt _), hmantissa, htwo]
  simp [Nat.shiftLeft_eq]
  omega

/-- The exponent that stands for numbers without a leading bit is zero. -/
theorem unpackExponent_eq_zero_iff :
    @unpackExponent .binary64 bits.toBitVec = 0#_ ↔ bits.toNat / twoTo 52 % twoTo 11 = 0 := by
  rw [← toNat_unpackExponent]
  constructor
  · intro hzero
    rw [hzero]
    rfl
  · exact fun hzero => BitVec.eq_of_toNat_eq hzero

/-- The exponent of a number, less what its bits count from. -/
theorem unpackExponent_sub_bias :
    ((@unpackExponent .binary64 bits.toBitVec).toNat : Int) -
        (Format.binary64.exponentBias + Format.binary64.mantissaBitsWithoutImplicit) =
      ((bits.toNat / twoTo 52 % twoTo 11 : Nat) : Int) - 1075 := by
  have hbias : ((Format.binary64.exponentBias : Nat) : Int) = 1023 := rfl
  have hwidth : ((Format.binary64.mantissaBitsWithoutImplicit : Nat) : Int) = 52 := rfl
  rw [toNat_unpackExponent, hbias, hwidth]
  omega

/-- The parts of bits are those that a number is unpacked to. -/
theorem unpacks : Unpacks bits (UnpackedFloat.unpack .binary64 bits.toBitVec) := by
  have hmantissa := toNat_unpackMantissa bits
  have hq := unpackExponent_sub_bias bits
  have hlt : bits.toNat % twoTo 52 < 2 ^ 52 := Nat.mod_lt _ (by decide)
  change Unpacks bits (ite _ (ite _ _ _) (ite _ (dite _ _ _) _))
  by_cases hspecial : @unpackExponent .binary64 bits.toBitVec = -1#_
  · rw [if_pos hspecial]
    by_cases hinfinity : @unpackMantissa .binary64 bits.toBitVec = 0#_
    · rw [if_pos hinfinity]
      exact .infinity _
    · rw [if_neg hinfinity]
      exact .notANumber
  rw [if_neg hspecial]
  by_cases hsmall : @unpackExponent .binary64 bits.toBitVec = 0#_
  · rw [if_pos hsmall]
    have hbiased := (unpackExponent_eq_zero_iff bits).1 hsmall
    have hparts : Binary.ofBits bits = ⟨bits.toNat % twoTo 52, -1074, false⟩ := by
      simp [Binary.ofBits, hbiased]
    by_cases hzero : @unpackMantissa .binary64 bits.toBitVec = 0#_
    · rw [dif_pos hzero]
      refine .zero _ ?_
      rw [hparts, ← hmantissa, hzero]
      rfl
    · rw [dif_neg hzero]
      -- A subnormal number has no hidden digit, so that its digits must not all be zero.
      have hpos : 0 < bits.toNat % twoTo 52 := by
        rw [← hmantissa]
        exact Nat.pos_of_ne_zero fun hz => hzero (BitVec.eq_of_toNat_eq hz)
      rw [hbiased] at hq
      refine .finite _ (ofBitVec_eq_negative bits) ?_ ?_ ?_
      · rw [hparts, hmantissa]
      · rw [hparts, hq]
        rfl
      · rw [hmantissa, hq]
        exact ⟨hpos, Nat.lt_of_lt_of_le hlt (by decide), Or.inl rfl⟩
  · rw [if_neg hsmall]
    have hbiased := mt (unpackExponent_eq_zero_iff bits).2 hsmall
    have hparts : (Binary.ofBits bits).m = bits.toNat % twoTo 52 + twoTo 52 ∧
        (Binary.ofBits bits).q =
          ((bits.toNat / twoTo 52 % twoTo 11 : Nat) : Int) - 1075 := by
      simp [Binary.ofBits, hbiased]
    -- A normal number has the hidden digit in front of its mantissa.
    have htwo : twoTo 52 = 2 ^ 52 := rfl
    have hm := toNat_one_append_unpackMantissa bits
    refine .finite _ (ofBitVec_eq_negative bits) ?_ ?_ ?_
    · rw [hparts.1, hm]
    · rw [hparts.2, hq]
    · rw [hm, hq]
      exact ⟨by dsimp only; omega, by dsimp only; omega, by dsimp only; omega⟩

end Bits

/-! ## Whole numbers -/

/-- The whole number that an unpacked number is equal to. -/
def wholeOf? : UnpackedFloat → Option Int
  | .zero _ => some 0
  | .finite s m q _ =>
    if Binary.isWhole ⟨m, q, false⟩ then some (s.apply (Binary.whole ⟨m, q, false⟩)) else none
  | _ => none

theorem wholeOf?_eq {s : Sign} {m : Nat} {q : Int} (pos : 0 < m) :
    wholeOf? (.finite s m q pos) =
      if Binary.isWhole ⟨m, q, false⟩ then some (s.apply (Binary.whole ⟨m, q, false⟩)) else none :=
  rfl

/-- A number is equal to the whole number to which its parts are. -/
theorem exactInt?_eq (x : Float) : exactInt? x = wholeOf? x.toModel.unpack := by
  have hunpacks : Unpacks x.toBits x.toModel.unpack := unpacks x.toBits
  have hfinite : x.isFinite = x.toModel.unpack.isFinite := rfl
  rw [exactInt?, truncate?, hfinite]
  generalize x.toModel.unpack = u at hunpacks ⊢
  cases hunpacks with
  | notANumber => rfl
  | infinity s => rfl
  | zero s hzero =>
    have hleft : (UnpackedFloat.zero s).isFinite = true := rfl
    have hright : wholeOf? (.zero s) = some 0 := rfl
    rw [hleft, hright]
    simp [Binary.isWhole, Binary.whole, hzero]
  | @finite s m q pos hsign hm hq full =>
    have hwhole : (Binary.ofBits x.toBits).isWhole = Binary.isWhole ⟨m, q, false⟩ := by
      rw [Binary.isWhole, hm, hq, Binary.isWhole]
    have hvalue : (Binary.ofBits x.toBits).whole = Binary.whole ⟨m, q, false⟩ := by
      rw [Binary.whole, hm, hq, Binary.whole]
    have hsigned : ∀ n : Int, (if isNegative x then -n else n) = s.apply n := by
      intro n
      rw [isNegative]
      cases s <;> simp [hsign, Sign.apply]
    have hleft : (UnpackedFloat.finite s m q pos).isFinite = true := rfl
    rw [hleft, wholeOf?_eq]
    simp only [Bool.true_and, if_true, hwhole, hvalue, hsigned]

namespace Binary

variable {b c : Binary}

theorem whole_mul (hwhole : b.isWhole = true) :
    b.whole * 2 ^ (-b.q).toNat = b.m * 2 ^ b.q.toNat := by
  have hdvd : 2 ^ (-b.q).toNat ∣ b.m * 2 ^ b.q.toNat :=
    Nat.dvd_of_mod_eq_zero (beq_iff_eq.1 hwhole)
  exact Nat.div_mul_cancel hdvd

theorem whole_pos (hb : b.IsFull) (hwhole : b.isWhole = true) : 0 < b.whole := by
  have hpos : 0 < b.m * 2 ^ b.q.toNat := Nat.mul_pos hb.pos (Nat.two_pow_pos _)
  rw [← whole_mul hwhole] at hpos
  exact Nat.pos_of_mul_pos_right hpos

/-- Of two numbers with one whole value the exponent of the second is not larger: its `m` would
not be as large as it can be. -/
theorem exponent_le (hb : b.IsFull) (hc : c.IsFull) (hbw : b.isWhole = true)
    (hcw : c.isWhole = true) (hwhole : b.whole = c.whole) : c.q ≤ b.q := by
  by_contra hlt
  have hlarge : 2 ^ 52 ≤ c.m := by
    have hbq := hb.full
    rcases hc.full with hleast | ⟨_, hlarge⟩
    · omega
    · exact hlarge
  let k := b.q.toNat + (-c.q).toNat
  have hvalue : b.m * 2 ^ k = c.m * 2 ^ (c.q.toNat + (-b.q).toNat) := by
    calc b.m * 2 ^ k = b.whole * 2 ^ (-b.q).toNat * 2 ^ (-c.q).toNat := by
          rw [whole_mul hbw, Nat.mul_assoc, ← Nat.pow_add]
      _ = c.whole * 2 ^ (-c.q).toNat * 2 ^ (-b.q).toNat := by
          rw [hwhole, Nat.mul_right_comm]
      _ = c.m * 2 ^ (c.q.toNat + (-b.q).toNat) := by
          rw [whole_mul hcw, Nat.mul_assoc, ← Nat.pow_add]
  have htwice : 2 * c.m ≤ b.m := by
    apply Nat.le_of_mul_le_mul_right _ (Nat.two_pow_pos k)
    calc 2 * c.m * 2 ^ k = c.m * 2 ^ (k + 1) := by
          rw [Nat.pow_succ, Nat.mul_comm 2, Nat.mul_assoc, Nat.mul_comm 2]
      _ ≤ c.m * 2 ^ (c.q.toNat + (-b.q).toNat) :=
          Nat.mul_le_mul_left _ (Nat.pow_le_pow_right (by decide) (by omega))
      _ = b.m * 2 ^ k := hvalue.symm
  have hsmall := hb.lt
  omega

/-- Numbers of one whole value have the same parts. -/
theorem eq_of_whole_eq (hb : b.IsFull) (hc : c.IsFull) (hbw : b.isWhole = true)
    (hcw : c.isWhole = true) (hwhole : b.whole = c.whole) : b.m = c.m ∧ b.q = c.q := by
  have hq : b.q = c.q :=
    Int.le_antisymm (exponent_le hc hb hcw hbw hwhole.symm) (exponent_le hb hc hbw hcw hwhole)
  refine ⟨?_, hq⟩
  have hmul : b.m * 2 ^ b.q.toNat = c.m * 2 ^ c.q.toNat := by
    rw [← whole_mul hbw, ← whole_mul hcw, hwhole, hq]
  rw [hq] at hmul
  exact Nat.eq_of_mul_eq_mul_right (Nat.two_pow_pos _) hmul

end Binary

section Same

variable {bits bits' : UInt64} {u v : UnpackedFloat} {s t : Sign} {m m' : Nat} {q q' n : Int}
  {pos : 0 < m} {pos' : 0 < m'}

theorem wholeOf?_finite :
    wholeOf? (.finite s m q pos) = some n ↔
      Binary.isWhole ⟨m, q, false⟩ = true ∧ s.apply (Binary.whole ⟨m, q, false⟩) = n := by
  rw [wholeOf?_eq]
  split <;> simp [*]

theorem ne_zero_of_wholeOf? (hfull : Binary.IsFull ⟨m, q, false⟩)
    (hn : wholeOf? (.finite s m q pos) = some n) : n ≠ 0 := by
  obtain ⟨hwhole, rfl⟩ := wholeOf?_finite.1 hn
  have hpos := Binary.whole_pos hfull hwhole
  cases s <;> simp [Sign.apply] <;> omega

theorem finite_eq_of_wholeOf? (hfull : Binary.IsFull ⟨m, q, false⟩)
    (hfull' : Binary.IsFull ⟨m', q', false⟩) (hn : wholeOf? (.finite s m q pos) = some n)
    (hn' : wholeOf? (.finite t m' q' pos') = some n) :
    UnpackedFloat.finite s m q pos = .finite t m' q' pos' := by
  obtain ⟨hwhole, hvalue⟩ := wholeOf?_finite.1 hn
  obtain ⟨hwhole', hvalue'⟩ := wholeOf?_finite.1 hn'
  have hpos := Binary.whole_pos hfull hwhole
  have hpos' := Binary.whole_pos hfull' hwhole'
  have hsign : s = t ∧ Binary.whole ⟨m, q, false⟩ = Binary.whole ⟨m', q', false⟩ := by
    rw [← hvalue'] at hvalue
    cases s <;> cases t <;> simp [Sign.apply] at hvalue ⊢ <;> omega
  obtain ⟨rfl, rfl⟩ := Binary.eq_of_whole_eq hfull hfull' hwhole hwhole' hsign.2
  rw [hsign.1]

/-- Numbers that are equal to one whole number are equal. -/
theorem beq_of_wholeOf? (hu : Unpacks bits u) (hv : Unpacks bits' v) (hun : wholeOf? u = some n)
    (hvn : wholeOf? v = some n) : u.beq v = true := by
  rw [beq_iff]
  cases hu with
  | notANumber => cases hun
  | infinity s => cases hun
  | zero s _ =>
    cases hv with
    | notANumber => cases hvn
    | infinity t => cases hvn
    | zero t _ => exact Or.inr ⟨s, t, rfl, rfl⟩
    | finite _ _ _ _ hfull =>
      exact absurd (Option.some.inj hun).symm (ne_zero_of_wholeOf? hfull hvn)
  | finite _ _ _ _ hfull =>
    cases hv with
    | notANumber => cases hvn
    | infinity t => cases hvn
    | zero t _ => exact absurd (Option.some.inj hvn).symm (ne_zero_of_wholeOf? hfull hun)
    | finite _ _ _ _ hfull' => exact Or.inl ⟨finite_eq_of_wholeOf? hfull hfull' hun hvn, rfl⟩

/-- Floating-point numbers are equal when they are equal to one whole number, or when both are
equal to none and they are the same number. -/
theorem float_beq_iff (x y : Float) :
    (x == y) = true ↔
      (∃ n, exactInt? x = some n ∧ exactInt? y = some n) ∨
        (exactInt? x = none ∧ x.isNaN = false ∧ x.toModel.unpack = y.toModel.unpack) := by
  have hx : Unpacks x.toBits x.toModel.unpack := unpacks x.toBits
  have hy : Unpacks y.toBits y.toModel.unpack := unpacks y.toBits
  have hbeq : (x == y) = x.toModel.unpack.beq y.toModel.unpack := rfl
  have hnan : x.isNaN = x.toModel.unpack.isNaN := rfl
  rw [hbeq, exactInt?_eq, exactInt?_eq, hnan]
  constructor
  · rw [beq_iff]
    rintro (⟨heq, hnumber⟩ | ⟨s, t, hs, ht⟩)
    · cases hwhole : wholeOf? x.toModel.unpack with
      | none => exact Or.inr ⟨rfl, hnumber, heq⟩
      | some n => exact Or.inl ⟨n, rfl, heq ▸ hwhole⟩
    · exact Or.inl ⟨0, by rw [hs]; rfl, by rw [ht]; rfl⟩
  · rintro (⟨n, hn, hn'⟩ | ⟨_, hnumber, heq⟩)
    · exact beq_of_wholeOf? hx hy hn hn'
    · exact (beq_iff _ _).2 (Or.inl ⟨heq, hnumber⟩)

end Same

end Decimal

end FindingLedger
