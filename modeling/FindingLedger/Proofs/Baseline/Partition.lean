/-
How a baseline parts live findings.

Main statement: comparing never fails on findings whose rules are texts.  Every list of
live findings falls into those that the baseline covers and all others, in their order
and as often as they come; a file is listed in a part when something of it is there.
-/
import FindingLedger.Baseline.Diff
import FindingLedger.Proofs.Finding.Twin

namespace FindingLedger

/-- Findings of each file that pass a test, in their order; files without any are left
out. -/
def Findings.select (fs : Findings) (keep : String → Finding → Bool) : Findings :=
  (fs.map fun entry => (entry.1, entry.2.filter (keep entry.1))).filter fun entry =>
    !entry.2.isEmpty

/-- A baseline covers a finding of a file when it is valid and lists a twin of the
finding under exactly this name. -/
def Baseline.Covers (b : Baseline) (file : String) (f : Finding) : Prop :=
  b.status = .valid ∧ ∃ known ∈ b.findingsOf file, known.IsTwin f

instance (b : Baseline) (file : String) (f : Finding) : Decidable (b.Covers file f) :=
  inferInstanceAs (Decidable (_ ∧ _))

namespace Findings

theorem select_cons (file : String) (findings : List Finding) (rest : Findings)
    (keep : String → Finding → Bool) :
    select ((file, findings) :: rest) keep =
      Diff.list file (findings.filter (keep file)) (rest.select keep) := by
  rw [select, List.map_cons, List.filter_cons, Diff.list]
  cases hempty : (findings.filter (keep file)).isEmpty with
  | true => simp [select]
  | false => simp [select]

theorem select_none (fs : Findings) : (fs.select fun _ _ => false) = [] := by
  rw [select, List.filter_eq_nil_iff]
  intro entry hentry
  obtain ⟨e, _, rfl⟩ := List.mem_map.1 hentry
  simp

theorem select_all (fs : Findings) :
    (fs.select fun _ _ => true) = fs.filter fun entry => !entry.2.isEmpty := by
  have hkeep : (fun entry : String × List Finding =>
      (entry.1, entry.2.filter fun _ => true)) = id :=
    funext fun entry => Prod.ext rfl (List.filter_eq_self.2 fun _ _ => rfl)
  rw [select, hkeep, List.map_id]

theorem count_list (file : String) (findings : List Finding) (rest : Findings) :
    count (Diff.list file findings rest) = findings.length + count rest := by
  cases findings with
  | nil => simp [Diff.list]
  | cons f fs => simp [Diff.list, count]

/-- What a test keeps and what it does not are all findings together. -/
theorem count_select_add_count_select_not (fs : Findings) (keep : String → Finding → Bool) :
    (fs.select keep).count + (fs.select fun file f => !keep file f).count = fs.count := by
  induction fs with
  | nil => rfl
  | cons entry rest ih =>
    obtain ⟨file, findings⟩ := entry
    have hlength : findings.length = (findings.filter (keep file)).length +
        (findings.filter fun f => !keep file f).length := by
      rw [List.length_eq_countP_add_countP (keep file), List.countP_eq_length_filter,
        List.countP_eq_length_filter]
      simp only [Bool.not_eq_true, Bool.decide_eq_false]
    rw [select_cons, select_cons, count_list, count_list, count, ← ih, hlength]
    omega

theorem count_select_pos (fs : Findings) (keep : String → Finding → Bool) :
    0 < (fs.select keep).count ↔ ∃ entry ∈ fs, ∃ f ∈ entry.2, keep entry.1 f = true := by
  induction fs with
  | nil => simp [select, count]
  | cons entry rest ih =>
    obtain ⟨file, findings⟩ := entry
    rw [select_cons, count_list, Nat.add_pos_iff_pos_or_pos, ih, List.length_pos_iff_exists_mem]
    simp [List.mem_filter]

end Findings

namespace Baseline

theorem mem_suppressed {b : Baseline} {file : String} {known : Finding} :
    known ∈ b.suppressed file ↔ b.status = .valid ∧ known ∈ b.findingsOf file := by
  unfold suppressed Status.suppresses
  cases b.status <;> simp

theorem exists_twin_suppressed {b : Baseline} {file : String} {f : Finding} :
    (∃ known ∈ b.suppressed file, known.IsTwin f) ↔ b.Covers file f := by
  simp only [mem_suppressed, Covers]
  exact ⟨fun ⟨known, ⟨hvalid, hmem⟩, htwin⟩ => ⟨hvalid, known, hmem, htwin⟩,
    fun ⟨hvalid, known, hmem, htwin⟩ => ⟨known, ⟨hvalid, hmem⟩, htwin⟩⟩

theorem hasRuleId_of_mem_suppressed {b : Baseline} (hb : b.files.HaveRuleIds) {file : String}
    {known : Finding} (hknown : known ∈ b.suppressed file) : known.HasRuleId := by
  have hmem := (mem_suppressed.1 hknown).2
  unfold findingsOf at hmem
  cases hlookup : b.files.lookup file with
  | none => simp [hlookup] at hmem
  | some findings =>
    rw [hlookup] at hmem
    obtain ⟨before, after, hfiles, _⟩ := List.lookup_eq_some_iff.1 hlookup
    exact hb (file, findings) (by rw [hfiles]; simp) known hmem

/-- The findings of one file are parted by whether they have a twin among the known
ones. -/
theorem part_eq_ok {known live : List Finding} (hknown : ∀ k ∈ known, k.HasRuleId)
    (hlive : ∀ f ∈ live, f.HasRuleId) :
    Diff.part known live =
      .ok (live.filter (fun f => !decide (∃ k ∈ known, k.IsTwin f)),
        live.filter (fun f => decide (∃ k ∈ known, k.IsTwin f))) := by
  induction live with
  | nil => rfl
  | cons f rest ih =>
    rw [Diff.part, Finding.isAmong_eq_ok hknown (hlive f List.mem_cons_self),
      ih fun g hg => hlive g (List.mem_cons_of_mem f hg), List.filter_cons, List.filter_cons]
    by_cases htwin : ∃ k ∈ known, k.IsTwin f
    · simp only [decide_eq_true htwin]
      rfl
    · simp only [decide_eq_false htwin]
      rfl

theorem diff_eq_ok {b : Baseline} {live : Findings} (hb : b.files.HaveRuleIds)
    (hlive : live.HaveRuleIds) :
    b.diff live =
      .ok ⟨live.select fun file f => !decide (b.Covers file f),
        live.select fun file f => decide (b.Covers file f)⟩ := by
  induction live with
  | nil => rfl
  | cons entry rest ih =>
    obtain ⟨file, findings⟩ := entry
    have hknown : ∀ k ∈ b.suppressed file, k.HasRuleId := by
      intro k hk
      exact hasRuleId_of_mem_suppressed hb hk
    have hpart := part_eq_ok hknown (hlive (file, findings) List.mem_cons_self)
    have hrest := ih fun entry hmem => hlive entry (List.mem_cons_of_mem _ hmem)
    rw [diff, hpart, hrest, Findings.select_cons, Findings.select_cons]
    simp only [exists_twin_suppressed]
    rfl

theorem exists_part {known live : List Finding} (hknown : ∀ k ∈ known, k.rule.isString = true)
    (hlive : ∀ f ∈ live, f.rule.isString = true) :
    ∃ parts, Diff.part known live = .ok parts ∧ ∀ f ∈ parts.1, f ∈ live := by
  induction live with
  | nil => exact ⟨_, rfl, fun f hf => hf⟩
  | cons f rest ih =>
    obtain ⟨isKnown, hknown'⟩ := Finding.exists_isAmong hknown (hlive f List.mem_cons_self)
    obtain ⟨parts, hparts, hmem⟩ := ih fun g hg => hlive g (List.mem_cons_of_mem f hg)
    rw [Diff.part, hknown', hparts]
    cases isKnown with
    | false =>
      refine ⟨_, rfl, fun g hg => ?_⟩
      rcases List.mem_cons.1 hg with rfl | hrest
      · exact List.mem_cons_self
      · exact List.mem_cons_of_mem _ (hmem g hrest)
    | true => exact ⟨_, rfl, fun g hg => List.mem_cons_of_mem _ (hmem g hg)⟩

theorem mem_of_mem_list {file : String} {findings : List Finding} {rest : Findings}
    {entry : String × List Finding} (hentry : entry ∈ Diff.list file findings rest) :
    entry = (file, findings) ∨ entry ∈ rest := by
  unfold Diff.list at hentry
  split at hentry
  · exact Or.inr hentry
  · exact List.mem_cons.1 hentry

/-- Comparing does not break off where all rules are texts, broken or not, and what is new comes
from the live findings. -/
theorem exists_diff {b : Baseline} {live : Findings} (hb : b.files.HaveRuleIds)
    (hlive : ∀ entry ∈ live, ∀ f ∈ entry.2, f.rule.isString = true) :
    ∃ d, b.diff live = .ok d ∧ ∀ kept ∈ d.fresh, ∀ f ∈ kept.2, ∃ entry ∈ live, f ∈ entry.2 := by
  induction live with
  | nil => exact ⟨_, rfl, fun kept hkept => absurd hkept List.not_mem_nil⟩
  | cons entry rest ih =>
    obtain ⟨file, findings⟩ := entry
    have hknown : ∀ k ∈ b.suppressed file, k.rule.isString = true := by
      intro k hk
      obtain ⟨id, hid⟩ := hasRuleId_of_mem_suppressed hb hk
      rw [hid]
      rfl
    obtain ⟨parts, hparts, hmem⟩ := exists_part hknown (hlive (file, findings) List.mem_cons_self)
    obtain ⟨d, hd, hfresh⟩ := ih fun entry hentry => hlive entry (List.mem_cons_of_mem _ hentry)
    rw [diff, hparts, hd]
    refine ⟨_, rfl, fun kept hkept f hf => ?_⟩
    rcases mem_of_mem_list hkept with rfl | hrest
    · exact ⟨_, List.mem_cons_self, hmem f hf⟩
    · obtain ⟨entry, hentry, hfound⟩ := hfresh kept hrest f hf
      exact ⟨entry, List.mem_cons_of_mem _ hentry, hfound⟩

theorem not_covers_of_status_ne {b : Baseline} (hstatus : b.status ≠ .valid) (file : String)
    (f : Finding) : ¬ b.Covers file f :=
  fun hcovers => hstatus hcovers.1

/-- Comparing parts the live findings: what the baseline covers is suppressed and all
else is new, both in the order of the live findings.  Nothing is lost and nothing comes
twice, there are new findings exactly when one is not covered, and without a valid baseline
all are new. -/
theorem diff_partition {b : Baseline} {live : Findings} (hb : b.files.HaveRuleIds)
    (hlive : live.HaveRuleIds) :
    ∃ d, b.diff live = .ok d ∧
      d.suppressed = live.select (fun file f => decide (b.Covers file f)) ∧
      d.fresh = live.select (fun file f => !decide (b.Covers file f)) ∧
      d.freshCount + d.suppressedCount = live.count ∧
      (d.hasFresh = true ↔ ∃ entry ∈ live, ∃ f ∈ entry.2, ¬ b.Covers entry.1 f) ∧
      (b.status ≠ .valid →
        d.suppressed = [] ∧ d.fresh = live.filter fun entry => !entry.2.isEmpty) := by
  refine ⟨_, diff_eq_ok hb hlive, rfl, rfl, ?_, ?_, fun hstatus => ?_⟩
  · rw [Nat.add_comm]
    exact Findings.count_select_add_count_select_not live fun file f => decide (b.Covers file f)
  · rw [Diff.hasFresh, Diff.freshCount, decide_eq_true_iff, Findings.count_select_pos]
    simp
  · have hnone : ∀ file f, decide (b.Covers file f) = false := fun file f =>
      decide_eq_false (not_covers_of_status_ne hstatus file f)
    simp only [hnone, Bool.not_false]
    exact ⟨Findings.select_none live, Findings.select_all live⟩

/-- An accepted finding whose id names no rule set. -/
def acceptedFindings : Findings :=
  [("a.kt", [⟨1, 2, .text "rule-a", .text "", .inBaseline⟩])]

/-- Live findings: the accepted one twice, and once in another file. -/
def liveFindings : Findings :=
  let live : Finding := ⟨1, 2, .text "standard:rule-a", .text "again", .notCorrectable⟩
  [("b.kt", [live]), ("a.kt", [live, ⟨1, 3, .text "rule-a", .text "", .correctable⟩, live])]

theorem diff_partition_liveFindings :
    acceptedFindings.HaveRuleIds ∧ liveFindings.HaveRuleIds ∧
      ∃ d, (valid "baseline.xml" acceptedFindings 1 []).diff liveFindings = .ok d ∧
        d.freshCount + d.suppressedCount = 4 ∧ d.suppressed.map Prod.fst = ["a.kt"] ∧
        d.fresh.map Prod.fst = ["b.kt", "a.kt"] := by
  have haccepted : acceptedFindings.HaveRuleIds := by
    simp [Findings.HaveRuleIds, acceptedFindings, Finding.HasRuleId]
  have hlive : liveFindings.HaveRuleIds := by
    simp [Findings.HaveRuleIds, liveFindings, Finding.HasRuleId]
  obtain ⟨d, hd, hsuppressed, hfresh, hcount, _⟩ :=
    diff_partition (b := valid "baseline.xml" acceptedFindings 1 []) haccepted hlive
  refine ⟨haccepted, hlive, d, hd, hcount, ?_, ?_⟩
  · rw [hsuppressed]
    decide
  · rw [hfresh]
    decide

end Baseline

end FindingLedger
