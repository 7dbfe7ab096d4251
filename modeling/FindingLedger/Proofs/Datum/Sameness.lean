/-
When two scalars are the same one.

Every scalar but what is no number stands for a value, and two scalars are the same exactly when
they stand for one.  So to be the same is symmetric and transitive, whatever the types are, and
the keys of a dictionary can be told apart by their values.
-/
import FindingLedger.Datum
import FindingLedger.Proofs.Decimal.Whole

namespace FindingLedger

namespace Scalar

/-- What a scalar can stand for: a whole number, another number, a point in time, which has an
offset or has none, or the scalar itself. -/
inductive Value
  | whole (n : Int)
  | other (x : Float.Model.UnpackedFloat)
  | moment (hasOffset : Bool) (count : Int)
  | itself (s : Scalar)

/-- The value that a floating-point number stands for, told by its parts. -/
def partsValue? (u : Float.Model.UnpackedFloat) : Option Value :=
  match Decimal.wholeOf? u with
  | some n => some (.whole n)
  | none => if u.isNaN then none else some (.other u)

/-- The value that a scalar stands for; what is no number stands for none. -/
def value? : Scalar → Option Value
  | .bool b => some (.whole (if b then 1 else 0))
  | .int n => some (.whole n)
  | .float x => partsValue? x.toModel.unpack
  | .moment m => some (.moment m.offset.isSome m.count)
  | s => some (.itself s)

/-- Two numbers stand for one value when they are one whole number, or the same other number. -/
theorem partsValue?_iff (u v : Float.Model.UnpackedFloat) :
    (∃ w, partsValue? u = some w ∧ partsValue? v = some w) ↔
      (∃ n, Decimal.wholeOf? u = some n ∧ Decimal.wholeOf? v = some n) ∨
        (Decimal.wholeOf? u = none ∧ u.isNaN = false ∧ u = v) := by
  constructor
  · rintro ⟨w, hu, hv⟩
    rw [partsValue?] at hu hv
    -- Whole numbers are told by their value alone, all others by their parts.
    cases hun : Decimal.wholeOf? u with
    | some n =>
      rw [hun] at hu
      cases hu
      left
      cases hvn : Decimal.wholeOf? v with
      | some m =>
        rw [hvn] at hv
        cases hv
        exact ⟨n, rfl, rfl⟩
      | none =>
        rw [hvn] at hv
        cases hnan : v.isNaN <;> simp [hnan] at hv
    | none =>
      right
      rw [hun] at hu
      cases hnan : u.isNaN with
      | true => simp [hnan] at hu
      | false =>
        simp only [hnan, Bool.false_eq_true, if_false, Option.some.injEq] at hu
        subst hu
        cases hvn : Decimal.wholeOf? v with
        | some m => simp [hvn] at hv
        | none =>
          cases hnan' : v.isNaN with
          | true => simp [hvn, hnan'] at hv
          | false => exact ⟨rfl, rfl, by simpa [hvn, hnan', eq_comm] using hv⟩
  · rintro (⟨n, hu, hv⟩ | ⟨hu, hnumber, rfl⟩)
    · exact ⟨.whole n, by rw [partsValue?, hu], by rw [partsValue?, hv]⟩
    · have hvalue : partsValue? u = some (.other u) := by simp [partsValue?, hu, hnumber]
      exact ⟨.other u, hvalue, hvalue⟩

/-- Equal floating-point numbers stand for one value. -/
theorem float_sameAs (x y : Float) :
    (float x).sameAs (.float y) = true ↔
      ∃ v, (float x).value? = some v ∧ (float y).value? = some v := by
  have hsame : (float x).sameAs (.float y) = (x == y) := rfl
  have hnan : x.isNaN = x.toModel.unpack.isNaN := rfl
  rw [hsame, Decimal.float_beq_iff, Decimal.exactInt?_eq, Decimal.exactInt?_eq, hnan]
  exact (partsValue?_iff x.toModel.unpack y.toModel.unpack).symm

/-- A floating-point number stands for the whole number that it is equal to. -/
@[simp]
theorem partsValue?_whole {x : Float} {n : Int} :
    partsValue? x.toModel.unpack = some (.whole n) ↔ Decimal.exactInt? x = some n := by
  rw [partsValue?, Decimal.exactInt?_eq]
  cases Decimal.wholeOf? x.toModel.unpack with
  | some m => simp
  | none => cases x.toModel.unpack.isNaN <;> simp

@[simp]
theorem partsValue?_ne_itself (u : Float.Model.UnpackedFloat) (s : Scalar) :
    partsValue? u ≠ some (.itself s) := by
  rw [partsValue?]
  cases Decimal.wholeOf? u with
  | some m => simp
  | none => cases u.isNaN <;> simp

@[simp]
theorem partsValue?_ne_moment (u : Float.Model.UnpackedFloat) (hasOffset : Bool) (count : Int) :
    partsValue? u ≠ some (.moment hasOffset count) := by
  rw [partsValue?]
  cases Decimal.wholeOf? u with
  | some m => simp
  | none => cases u.isNaN <;> simp

variable {a b c : Scalar}

/-- Two scalars are the same when they stand for one value. -/
theorem sameAs_iff : a.sameAs b = true ↔ ∃ v, b.value? = some v ∧ a.value? = some v := by
  cases a with
  | float x =>
    cases b with
    | float y =>
      rw [float_sameAs]
      exact exists_congr fun v => and_comm
    | _ =>
      simp only [sameAs, value?, exactInt?]
      cases hx : Decimal.exactInt? x <;> simp [hx]
  | moment m =>
    cases b with
    | moment m' => simp [sameAs, Moment.sameAs, value?]
    | float y =>
      simp only [sameAs, value?, exactInt?]
      cases Decimal.exactInt? y <;> simp
    | _ => simp [sameAs, value?, exactInt?]
  | _ =>
    cases b with
    | float y =>
      simp only [sameAs, value?, exactInt?]
      cases hy : Decimal.exactInt? y with
      | some n => simp [hy, @eq_comm _ n]
      | none => simp [hy]
    | _ => simp [sameAs, value?, exactInt?]

theorem sameAs_symm (hsame : a.sameAs b = true) : b.sameAs a = true := by
  obtain ⟨v, hb, ha⟩ := sameAs_iff.1 hsame
  exact sameAs_iff.2 ⟨v, ha, hb⟩

theorem sameAs_trans (hfirst : a.sameAs b = true) (hsecond : b.sameAs c = true) :
    a.sameAs c = true := by
  obtain ⟨v, hb, ha⟩ := sameAs_iff.1 hfirst
  obtain ⟨w, hc, hb'⟩ := sameAs_iff.1 hsecond
  exact sameAs_iff.2 ⟨v, by rw [hc, ← hb', hb], ha⟩

theorem sameAs_comm (a b : Scalar) : a.sameAs b = b.sameAs a :=
  Bool.eq_iff_iff.2 ⟨sameAs_symm, sameAs_symm⟩

theorem sameAs_congr (hsame : b.sameAs c = true) (a : Scalar) : a.sameAs b = a.sameAs c :=
  Bool.eq_iff_iff.2
    ⟨fun h => sameAs_trans h hsame, fun h => sameAs_trans h (sameAs_symm hsame)⟩

@[simp]
theorem sameAs_text {s : String} : a.sameAs (.text s) = true ↔ a = .text s := by
  cases a with
  | text s' => simp [sameAs]
  | float x => simp [sameAs_iff, value?]
  | _ => simp [sameAs, exactInt?]

/-- A text is the same as this text alone, on whichever side it stands. -/
@[simp]
theorem text_sameAs {s : String} : (text s).sameAs a = true ↔ a = .text s := by
  rw [sameAs_comm, sameAs_text]

end Scalar

end FindingLedger
