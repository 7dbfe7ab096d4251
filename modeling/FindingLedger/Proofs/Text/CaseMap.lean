/-
Texts whose lower case is made of small letters.

Main statement: where the lower case of a text has small letters of ASCII alone, but no `k`,
both have the same upper case.  The text then is one of letters of ASCII; a `k` is also the
lower case of the Kelvin sign, which has no other upper case.
-/
import FindingLedger.Text.CaseMap
import Mathlib.Data.List.Basic

namespace FindingLedger

namespace Text

/-- Whether a character is the lower case of letters of ASCII only. -/
def isPlainSmall (c : Char) : Bool :=
  c.isLower && c != 'k'

section Characters

/-- Runs of characters behind ASCII stay there, or lead to a `k`. -/
theorem mapRuns_lowerRuns {code : Nat} (hcode : 0x80 ≤ code) :
    0x80 ≤ mapRuns lowerRuns code ∨ mapRuns lowerRuns code = 0x6b := by
  have hruns : ∀ r ∈ lowerRuns, 0x80 ≤ r.2.1 →
      (0x80 : Int) ≤ r.1 + r.2.2.2 ∨ r.1 = r.2.1 ∧ r.1 + r.2.2.2 = (0x6b : Int) := by
    decide +kernel
  rw [mapRuns]
  split
  · next r hfound =>
    have hin := List.find?_some hfound
    rw [Bool.and_eq_true_iff, Bool.and_eq_true_iff, decide_eq_true_iff, decide_eq_true_iff] at hin
    obtain ⟨⟨hfirst, hlast⟩, _⟩ := hin
    rcases hruns r (List.mem_of_find?_eq_some hfound) (by omega) with hle | ⟨hone, hsum⟩ <;> omega
  · exact Or.inl hcode

theorem isPlainSmall_ofNat {code : Nat} (hcode : 0x80 ≤ code ∨ code = 0x6b) :
    isPlainSmall (Char.ofNat code) = false := by
  rcases hcode with hcode | rfl
  · by_cases hvalid : code.isValidChar
    · have hnat : (Char.ofNatAux code hvalid).toNat = code := rfl
      have hbig : (Char.ofNatAux code hvalid).isLower = false := by
        refine Bool.and_eq_false_iff.2 (Or.inr (decide_eq_false fun hle => ?_))
        change (Char.ofNatAux code hvalid).toNat ≤ 0x7a at hle
        omega
      rw [Char.ofNat, dif_pos hvalid, isPlainSmall, hbig, Bool.false_and]
    · rw [Char.ofNat, dif_neg hvalid]
      rfl
  · rfl

theorem toNat_lt_of_lowerChar {before after : List Char} {c : Char}
    (hsmall : (lowerChar before c after).all isPlainSmall = true) : c.toNat < 0x80 := by
  refine Nat.lt_of_not_le fun hcode => ?_
  rw [lowerChar, if_neg (Nat.not_lt.2 hcode)] at hsmall
  split at hsmall
  · split at hsmall <;> cases hsmall
  · split at hsmall
    · cases hsmall
    · rw [List.all_cons, isPlainSmall_ofNat (mapRuns_lowerRuns hcode)] at hsmall
      cases hsmall

theorem toUpper_toLower {c : Char} (hc : c.toNat < 0x80) : c.toLower.toUpper = c.toUpper := by
  have hall : ∀ n < 0x80, (Char.ofNat n).toLower.toUpper = (Char.ofNat n).toUpper := by decide
  have hsame := hall c.toNat hc
  rwa [Char.ofNat_toNat] at hsame

theorem toNat_toLower_lt {c : Char} (hc : c.toNat < 0x80) : c.toLower.toNat < 0x80 := by
  have hall : ∀ n < 0x80, (Char.ofNat n).toLower.toNat < 0x80 := by decide
  have hsame := hall c.toNat hc
  rwa [Char.ofNat_toNat] at hsame

end Characters

section Texts

/-- Where all of the result is small letters, it was read from letters of ASCII. -/
theorem lowerFrom_spec {before done cs : List Char}
    (hsmall : (lowerFrom before done cs).all isPlainSmall = true) :
    done.all isPlainSmall = true ∧ (∀ c ∈ cs, c.toNat < 0x80) ∧
      lowerFrom before done cs = done.reverse ++ cs.map Char.toLower := by
  induction cs generalizing before done with
  | nil =>
    rw [lowerFrom, List.all_reverse] at hsmall
    refine ⟨hsmall, fun c hc => absurd hc List.not_mem_nil, ?_⟩
    rw [lowerFrom, List.map_nil, List.append_nil]
  | cons c rest ih =>
    rw [lowerFrom] at hsmall
    obtain ⟨hdone, hrest, hresult⟩ := ih hsmall
    rw [List.all_append, List.all_reverse, Bool.and_eq_true_iff] at hdone
    have hc := toNat_lt_of_lowerChar hdone.1
    have hlower : lowerChar before c rest = [c.toLower] := if_pos hc
    refine ⟨hdone.2, ?_, ?_⟩
    · intro c' hc'
      rcases List.mem_cons.1 hc' with rfl | hmem
      · exact hc
      · exact hrest c' hmem
    · rw [lowerFrom, hresult, hlower, List.reverse_append, List.append_assoc]
      rfl

theorem upper_append (a b : String) : upper (a ++ b) = upper a ++ upper b := by
  rw [upper, upper, upper, String.toList_append, List.flatMap_append, String.ofList_append]

theorem flatMap_upperChar {cs : List Char} (hcs : ∀ c ∈ cs, c.toNat < 0x80) :
    cs.flatMap upperChar = cs.map Char.toUpper := by
  induction cs with
  | nil => rfl
  | cons c rest ih =>
    have hc : upperChar c = [c.toUpper] := if_pos (hcs c List.mem_cons_self)
    rw [List.flatMap_cons, hc, ih fun c' hc' => hcs c' (List.mem_cons_of_mem _ hc')]
    rfl

/-- Texts whose lower case is made of the same small letters have the same upper case. -/
theorem upper_eq_of_lower_eq {s name : String} (hname : name.toList.all isPlainSmall = true)
    (hlower : lower s = name) : upper s = upper name := by
  have hname' : name.toList = lowerFrom [] [] s.toList := by
    rw [← hlower, lower, String.toList_ofList]
  rw [hname'] at hname
  obtain ⟨_, hs, hmap⟩ := lowerFrom_spec hname
  have hletters : name.toList = s.toList.map Char.toLower := hname'.trans hmap
  have hascii : ∀ c ∈ s.toList.map Char.toLower, c.toNat < 0x80 := by
    intro c hc
    obtain ⟨d, hd, rfl⟩ := List.mem_map.1 hc
    exact toNat_toLower_lt (hs d hd)
  rw [upper, upper, hletters, flatMap_upperChar hs, flatMap_upperChar hascii, List.map_map]
  congr 1
  exact List.map_congr_left fun c hc => (toUpper_toLower (hs c hc)).symm

/-- What is done stays in front. -/
theorem prefix_lowerFrom (before done cs : List Char) :
    done.reverse <+: lowerFrom before done cs := by
  induction cs generalizing before done with
  | nil => exact List.prefix_rfl
  | cons c rest ih =>
    rw [lowerFrom]
    refine List.IsPrefix.trans ?_ (ih _ _)
    rw [List.reverse_append]
    exact List.prefix_append _ _

/-- Characters of ASCII have their own lower case, whatever follows them. -/
theorem prefix_lowerFrom_append {front : List Char} (hfront : ∀ c ∈ front, c.toNat < 0x80)
    (before done cs : List Char) :
    done.reverse ++ front.map Char.toLower <+: lowerFrom before done (front ++ cs) := by
  induction front generalizing before done with
  | nil =>
    rw [List.map_nil, List.append_nil]
    exact prefix_lowerFrom before done cs
  | cons c rest ih =>
    have hlower : lowerChar before c (rest ++ cs) = [c.toLower] :=
      if_pos (hfront c List.mem_cons_self)
    have hrest := ih (fun c hc => hfront c (List.mem_cons_of_mem _ hc)) (c :: before)
      ((lowerChar before c (rest ++ cs)).reverse ++ done)
    rw [hlower] at hrest
    rw [List.cons_append, lowerFrom, hlower]
    simpa using hrest

end Texts

end Text

end FindingLedger
