/-
The end of a comparison.

Every step of a comparison does what its course says: the settings are loaded and the
journal is set up, the results are read, the baseline is loaded, and what is new is shown.
So the run ends with the status of the course, its lines and its file system.
-/
import FindingLedger.Proofs.Command.Course

namespace FindingLedger

namespace Command

variable {s : Surroundings}

/-- Findings that can be shown all are. -/
theorem findingLines_snd {fs : List (String × Finding)} (hfs : ∀ e ∈ fs, e.2.IsShowable) :
    (findingLines fs).2 = none := by
  induction fs with
  | nil => rfl
  | cons e rest ih =>
    obtain ⟨file, f⟩ := e
    obtain ⟨⟨id, hid⟩, text, htext⟩ := hfs _ List.mem_cons_self
    have hshown : ∃ shown, findingText file f = .ok shown := by
      rw [findingText, htext, hid]
      exact ⟨_, rfl⟩
    obtain ⟨shown, hshown⟩ := hshown
    rw [findingLines, hshown]
    exact ih fun e he => hfs e (List.mem_cons_of_mem _ he)

/-- What is so of the findings of all files is so of them one by one. -/
theorem forall_mem_flatten {fs : Findings} {P : Finding → Prop}
    (hfs : ∀ entry ∈ fs, ∀ f ∈ entry.2, P f) : ∀ e ∈ Findings.flatten fs, P e.2 := by
  intro e he
  obtain ⟨entry, hentry, hmem⟩ := List.mem_flatMap.1 he
  obtain ⟨f, hf, rfl⟩ := List.mem_map.1 hmem
  exact hfs entry hentry f hf

/-- Where no stray has a finding, none breaks a comparison off. -/
theorem firstStray?_eq_none {r : Results} (hr : ∀ stray ∈ r.strays, stray.2 = []) :
    r.firstStray? = none := by
  have hnone : (r.strays.filterMap fun e => e.2.head?.map (e.1, ·)) = [] := by
    rw [List.filterMap_eq_nil_iff]
    intro stray hstray
    rw [hr stray hstray]
    rfl
  rw [Results.firstStray?, hnone, List.mergeSort_nil]
  rfl

theorem mem_of_mem_select {fs : Findings} {keep : String → Finding → Bool}
    {kept : String × List Finding} {f : Finding} (hkept : kept ∈ fs.select keep)
    (hf : f ∈ kept.2) : ∃ entry ∈ fs, f ∈ entry.2 := by
  obtain ⟨entry, hmem, rfl⟩ := List.mem_map.1 (List.mem_filter.1 hkept).1
  exact ⟨entry, hmem, (List.mem_filter.1 hf).1⟩

namespace Course

variable {t : FileTree} {args : List String}

/-- New findings are results, and so they can be shown. -/
theorem showable_fresh (c : Course s t args) :
    (findingLines (Findings.flatten (byName c.diff.fresh))).2 = none := by
  apply findingLines_snd
  apply forall_mem_flatten
  intro entry hentry f hf
  have hselected : entry ∈ c.live.select fun file f => !decide (c.Accepts file f) :=
    List.mem_mergeSort.1 hentry
  obtain ⟨original, hlive, hfound⟩ := mem_of_mem_select hselected hf
  exact c.showable.findings original hlive f hfound

theorem showDiff_eq (c : Course s t args) (p : Progress) :
    showDiff p (c.program.has .quiet) c.loaded.baseline c.found =
      ({ p with shown := p.shown ++ c.newLines ++ c.countLines }, .exit c.status) := by
  have hlines : findingLines (Findings.flatten (byName c.diff.fresh)) = (c.newLines, none) :=
    Prod.ext rfl c.showable_fresh
  rw [showDiff, ← live, c.diff_eq, firstStray?_eq_none c.showable.names]
  dsimp only
  rw [hlines]
  dsimp only
  rw [status, countLines]
  cases c.program.has .quiet with
  | true => simp [Progress.show]
  | false => simp [Progress.show, Progress.print]

theorem run_endsIn (c : Course s t args) {p : Progress} (hp : p.tree = t) :
    c.EndsIn p.shown (run s p args) := by
  rw [c.run_diff c.path_answers hp, c.reads_results]
  dsimp only
  rw [c.loadBaseline_eq c.path_not_blank rfl]
  dsimp only
  rw [c.showDiff_eq]
  refine ⟨rfl, ?_, ?_⟩
  · rw [shown, Call.stateLines]
    split <;> simp [Progress.note, Progress.show, Call.started, List.append_assoc]
  · rw [final]
    split <;> rfl

end Course

end Command

end FindingLedger
