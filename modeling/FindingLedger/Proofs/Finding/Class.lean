/-
The classes of findings that match.

A rule of the standard set has two ids, with the set in front and without it, and every other
rule has one.  Splitting an id tells the two spellings apart from nothing else, so findings
whose rules are texts fall into classes by their positions and the splits of their ids.
-/
import FindingLedger.Proofs.Finding.Twin
import Mathlib.Data.List.TakeWhile
import Mathlib.Logic.Relation

namespace FindingLedger

namespace RuleId

variable {id other : String}

theorem hasSet_iff : hasSet id = true ↔ ':' ∈ id.toList := by
  simp [hasSet, delimiter]

theorem withStandardSet_eq (id : String) : withStandardSet id = "standard:" ++ id := rfl

theorem withStandardSet_injective (heq : withStandardSet id = withStandardSet other) :
    id = other := by
  have hlists := congrArg String.toList heq
  simp only [withStandardSet_eq, String.toList_append, List.append_cancel_left_eq] at hlists
  exact String.toList_inj.1 hlists

theorem normalize_of_mem (hset : ':' ∈ id.toList) : normalize id = id :=
  if_pos (hasSet_iff.2 hset)

theorem normalize_of_not_mem (hbare : ':' ∉ id.toList) : normalize id = "standard:" ++ id :=
  if_neg fun hset => hbare (hasSet_iff.1 hset)

/-- Two ids have one normal form when they are equal, or when one of them names no rule set
and the other one is this with the standard set in front. -/
theorem normalize_eq_iff :
    normalize id = normalize other ↔
      id = other ∨ (':' ∉ id.toList ∧ other = "standard:" ++ id) ∨
        (':' ∉ other.toList ∧ id = "standard:" ++ other) := by
  by_cases hset : ':' ∈ id.toList
  · by_cases hother : ':' ∈ other.toList
    · simp [normalize_of_mem, hset, hother]
    · rw [normalize_of_mem hset, normalize_of_not_mem hother]
      have hne : id ≠ other := fun heq => hother (heq ▸ hset)
      simp [hset, hother, hne]
  · by_cases hother : ':' ∈ other.toList
    · rw [normalize_of_not_mem hset, normalize_of_mem hother]
      have hne : id ≠ other := fun heq => hset (heq ▸ hother)
      simp [hset, hother, hne, eq_comm]
    · rw [normalize_of_not_mem hset, normalize_of_not_mem hother]
      -- Neither holds a colon, so neither is the other one with the set in front.
      have hfull : ∀ bare : String, ':' ∈ ("standard:" ++ bare).toList := by simp
      constructor
      · exact fun heq => Or.inl (withStandardSet_injective heq)
      · rintro (rfl | ⟨_, rfl⟩ | ⟨_, rfl⟩)
        · rfl
        · exact absurd (hfull id) hother
        · exact absurd (hfull other) hset

/-- The rule set of an id holds no colon. -/
theorem not_mem_split_fst (id : String) : ':' ∉ (split id).1.toList := by
  intro hmem
  have hother := List.mem_takeWhile_imp (by simpa [split] using hmem)
  exact absurd hother (by decide)

/-- What is left from the first colon on starts with it. -/
theorem dropWhile_eq_cons {cs : List Char} (hmem : ':' ∈ cs) :
    cs.dropWhile (· != delimiter) = ':' :: (cs.dropWhile (· != delimiter)).drop 1 := by
  induction cs with
  | nil => exact absurd hmem List.not_mem_nil
  | cons c rest ih =>
    by_cases hc : c = ':'
    · simp [hc, delimiter]
    · have hrest : ':' ∈ rest := by simpa [Ne.symm hc] using hmem
      simpa [List.dropWhile_cons, delimiter, hc] using ih hrest

/-- The rule set and the rule of an id, with a colon between them, are its normal form. -/
theorem split_fst_append_snd (id : String) :
    (split id).1 ++ ":" ++ (split id).2 = normalize id := by
  have hset : ':' ∈ (normalize id).toList := hasSet_iff.1 (hasSet_normalize id)
  apply String.toList_inj.1
  have hcolon : ":".toList = [':'] := rfl
  simp only [split, String.toList_append, String.toList_ofList, hcolon, List.append_assoc,
    List.singleton_append]
  rw [← dropWhile_eq_cons hset, List.takeWhile_append_dropWhile]

theorem split_normalize (id : String) : split (normalize id) = split id := by
  rw [split, split, normalize_normalize]

/-- Ids are split alike when they have one normal form. -/
theorem split_eq_iff : split id = split other ↔ normalize id = normalize other := by
  constructor
  · intro heq
    rw [← split_fst_append_snd id, ← split_fst_append_snd other, heq]
  · intro heq
    rw [← split_normalize id, ← split_normalize other, heq]

end RuleId

namespace Finding

variable {a b : Finding} {r s : String}

/-- Twins stand at one position, and their ids are split alike. -/
theorem isTwin_iff_split (hr : a.rule = .text r) (hs : b.rule = .text s) :
    a.IsTwin b ↔
      a.line = b.line ∧ a.column = b.column ∧ RuleId.split r = RuleId.split s := by
  rw [IsTwin, hr, hs, RuleId.split_eq_iff]
  rfl

theorem isTwin_iff_spelling (hr : a.rule = .text r) (hs : b.rule = .text s) :
    a.IsTwin b ↔ a.line = b.line ∧ a.column = b.column ∧
      (r = s ∨ (':' ∉ r.toList ∧ s = "standard:" ++ r) ∨
        (':' ∉ s.toList ∧ r = "standard:" ++ s)) := by
  rw [IsTwin, hr, hs, ← RuleId.normalize_eq_iff]
  rfl

theorem matches_eq_true (ha : a.HasRuleId) (hb : b.HasRuleId) :
    a.matches_ b = .ok true ↔ a.IsTwin b := by
  rw [matches_eq_ok ha hb]
  simp

/-- To be twins is to be alike in three things. -/
theorem equivalence_isTwin : Equivalence IsTwin where
  refl _ := ⟨rfl, rfl, rfl⟩
  symm htwin := ⟨htwin.1.symm, htwin.2.1.symm, htwin.2.2.symm⟩
  trans hfirst hsecond :=
    ⟨hfirst.1.trans hsecond.1, hfirst.2.1.trans hsecond.2.1, hfirst.2.2.trans hsecond.2.2⟩

/-- Findings whose rules are texts can always be compared, and to match is an equivalence of
them.  Two of them match when they stand at one position and their ids are split alike; that is
when the ids are equal, or one of them holds no colon and the other one is this with the
standard set in front.  The rule set of any id holds no colon, it makes up the normal form of
the id together with a colon and the rule, and the normal form is split as the id is. -/
theorem matches_equivalence :
    (Equivalence fun a b : { f : Finding // f.HasRuleId } => a.1.matches_ b.1 = .ok true) ∧
    (∀ (a b : Finding) (r s : String), a.rule = .text r → b.rule = .text s →
      a.matches_ b = .ok (decide (a.line = b.line ∧ a.column = b.column ∧
        RuleId.split r = RuleId.split s)) ∧
      (a.matches_ b = .ok true ↔ a.line = b.line ∧ a.column = b.column ∧
        (r = s ∨ (':' ∉ r.toList ∧ s = "standard:" ++ r) ∨
          (':' ∉ s.toList ∧ r = "standard:" ++ s)))) ∧
    ∀ s : String, ':' ∉ (RuleId.split s).1.toList ∧
      (RuleId.split s).1 ++ ":" ++ (RuleId.split s).2 = RuleId.normalize s ∧
      RuleId.split (RuleId.normalize s) = RuleId.split s := by
  refine ⟨?_, ?_, ?_⟩
  · have hmatch : ∀ a b : { f : Finding // f.HasRuleId },
        a.1.matches_ b.1 = .ok true ↔ a.1.IsTwin b.1 := fun a b => matches_eq_true a.2 b.2
    simp only [hmatch]
    exact equivalence_isTwin.comap Subtype.val
  · intro a b r s hr hs
    have ha : a.HasRuleId := ⟨r, hr⟩
    have hb : b.HasRuleId := ⟨s, hs⟩
    constructor
    · rw [matches_eq_ok ha hb, decide_eq_decide.2 (isTwin_iff_split hr hs)]
    · rw [matches_eq_true ha hb, isTwin_iff_spelling hr hs]
  · intro s
    exact ⟨RuleId.not_mem_split_fst s, RuleId.split_fst_append_snd s, RuleId.split_normalize s⟩

/-- Both ids of a rule of the standard set match, whatever the texts for the reader and the
statuses are. -/
theorem matches_equivalence_bothIds :
    (Finding.mk 3 4 (.text "no-tabs") (.text "a tab") .correctable).matches_
      (Finding.mk 3 4 (.text "standard:no-tabs") (.text "") .inBaseline) = .ok true := by
  apply (matches_equivalence.2.1 _ _ "no-tabs" "standard:no-tabs" rfl rfl).2.2
  exact ⟨rfl, rfl, Or.inr (Or.inl ⟨by decide, rfl⟩)⟩

end Finding

end FindingLedger
