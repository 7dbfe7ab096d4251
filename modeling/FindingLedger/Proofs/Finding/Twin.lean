/-
When two findings are the same one.

Findings whose rules are texts can always be compared: they match when they stand at one
position and their rule ids have one normal form.  A rule that is a broken text can be compared
too, and matches no text.
-/
import FindingLedger.Baseline.Basic
import FindingLedger.Proofs.Outcome

namespace FindingLedger

/-- The rule of a finding is a text. -/
def Finding.HasRuleId (f : Finding) : Prop := ∃ id, f.rule = .text id

/-- The rules of all findings are texts. -/
def Findings.HaveRuleIds (fs : Findings) : Prop :=
  ∀ entry ∈ fs, ∀ f ∈ entry.2, f.HasRuleId

/-- Whether a value is a text, broken or not. -/
def Datum.isString : Datum → Bool
  | .scalar (.text _) | .scalar (.broken _) => true
  | _ => false

namespace Finding

/-- Two findings of one rule at one position. -/
def IsTwin (a b : Finding) : Prop :=
  a.line = b.line ∧ a.column = b.column ∧
    RuleId.normalize a.rule.display = RuleId.normalize b.rule.display

instance (a b : Finding) : Decidable (a.IsTwin b) :=
  inferInstanceAs (Decidable (_ ∧ _ ∧ _))

theorem normalizeValue_of_hasRuleId {f : Finding} (hf : f.HasRuleId) :
    RuleId.normalizeValue f.rule = .ok (.text (RuleId.normalize f.rule.display)) := by
  obtain ⟨id, hid⟩ := hf
  rw [hid, RuleId.normalizeValue_text]
  rfl

theorem matches_eq_ok {a b : Finding} (ha : a.HasRuleId) (hb : b.HasRuleId) :
    a.matches_ b = .ok (decide (a.IsTwin b)) := by
  by_cases hpos : a.column = b.column ∧ a.line = b.line
  · obtain ⟨hcolumn, hline⟩ := hpos
    have hsame : a.matches_ b = .ok
        (RuleId.normalize a.rule.display == RuleId.normalize b.rule.display) := by
      rw [matches_, if_pos (by simp [hcolumn, hline]), normalizeValue_of_hasRuleId ha,
        normalizeValue_of_hasRuleId hb]
      rfl
    have htwin : a.IsTwin b ↔
        RuleId.normalize a.rule.display = RuleId.normalize b.rule.display :=
      ⟨fun h => h.2.2, fun h => ⟨hline, hcolumn, h⟩⟩
    rw [hsame, decide_eq_decide.2 htwin]
    rfl
  · have hnot : ¬ a.IsTwin b := fun h => hpos ⟨h.2.1, h.1⟩
    rw [matches_, if_neg (by simpa using hpos), decide_eq_false hnot]

theorem isAmong_eq_ok {known : List Finding} {f : Finding}
    (hknown : ∀ k ∈ known, k.HasRuleId) (hf : f.HasRuleId) :
    isAmong known f = .ok (decide (∃ k ∈ known, k.IsTwin f)) := by
  induction known with
  | nil => rfl
  | cons k rest ih =>
    have hk := matches_eq_ok (hknown k List.mem_cons_self) hf
    have hrest := ih fun k hmem => hknown k (List.mem_cons_of_mem _ hmem)
    rw [isAmong, hk]
    by_cases htwin : k.IsTwin f
    · rw [decide_eq_true htwin, decide_eq_true ⟨k, List.mem_cons_self, htwin⟩]
      rfl
    · rw [decide_eq_false htwin]
      change isAmong rest f = _
      rw [hrest, decide_eq_decide.2]
      simp [htwin]

theorem exists_normalizeValue {id : Datum} (hid : id.isString = true) :
    ∃ v, RuleId.normalizeValue id = .ok v := by
  have hset : ∃ isIn, RuleId.hasSetIn id = .ok isIn := by
    unfold Datum.isString at hid
    split at hid
    · exact ⟨_, rfl⟩
    · exact ⟨_, rfl⟩
    · cases hid
  obtain ⟨isIn, hset⟩ := hset
  rw [RuleId.normalizeValue, hset]
  cases isIn
  · exact ⟨_, rfl⟩
  · exact ⟨_, rfl⟩

theorem exists_matches {a b : Finding} (ha : a.rule.isString = true)
    (hb : b.rule.isString = true) : ∃ isSame, a.matches_ b = .ok isSame := by
  obtain ⟨x, hx⟩ := exists_normalizeValue ha
  obtain ⟨y, hy⟩ := exists_normalizeValue hb
  rw [matches_, hx, hy]
  split
  · exact ⟨_, rfl⟩
  · exact ⟨_, rfl⟩

theorem exists_isAmong {known : List Finding} {f : Finding}
    (hknown : ∀ k ∈ known, k.rule.isString = true) (hf : f.rule.isString = true) :
    ∃ isIn, isAmong known f = .ok isIn := by
  induction known with
  | nil => exact ⟨false, rfl⟩
  | cons k rest ih =>
    obtain ⟨isSame, hsame⟩ := exists_matches (hknown k List.mem_cons_self) hf
    rw [isAmong, hsame]
    cases isSame
    · exact ih fun k hmem => hknown k (List.mem_cons_of_mem _ hmem)
    · exact ⟨true, rfl⟩

end Finding

end FindingLedger
