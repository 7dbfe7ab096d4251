/-
What the values on a command line are checked against.

Only paths that have to lead somewhere are looked up in earnest.  Where these lead to the
same in two file systems, a command line that passes in one passes in the other.
-/
import FindingLedger.Command.Line
import FindingLedger.Proofs.FileTree.Way
import FindingLedger.Proofs.Outcome

namespace FindingLedger

namespace Command

variable {t t' : FileTree} {cwd : Location}

/-- Looking whether a path leads somewhere fails for a null character alone. -/
theorem probe_eq_ok {value : String} :
    (∃ found, probe t cwd value = .ok found) ↔ ¬ value.toList.contains '\x00' = true := by
  rw [← FileTree.status_eq_nullCharacter t cwd value, probe]
  rcases t.status cwd value with fault | ⟨l, n⟩
  · cases fault <;> simp
  · simp

theorem probe_eq {value : String} (hsame : t'.status cwd value = t.status cwd value) :
    probe t' cwd value = probe t cwd value := by
  rw [probe, probe, hsame]

/-- A value passes again where it need not lead anywhere, or leads to the same. -/
theorem checkOption_eq_ok {o : OptionSpec} {value : String}
    (hsame : o.mustExist = true → t'.status cwd value = t.status cwd value)
    (hcheck : checkOption t cwd o value = .ok ()) : checkOption t' cwd o value = .ok () := by
  cases hmust : o.mustExist with
  | true =>
    rw [checkOption, probe_eq (hsame hmust)]
    exact hcheck
  | false =>
    obtain ⟨found, hprobe, _⟩ := bind_eq_ok.1 hcheck
    obtain ⟨found', hprobe'⟩ := (probe_eq_ok (t := t')).2 (probe_eq_ok.1 ⟨found, hprobe⟩)
    rw [checkOption, hprobe', hmust]
    rfl

theorem value?_isSome {l : Line} {id : OptionId} (hgiven : id ∈ l.options.map (·.1)) :
    ∃ value, l.value? id = some value := by
  rw [Line.value?, ← Option.isSome_iff_exists, List.lookup_isSome_iff]
  obtain ⟨given, hmem, rfl⟩ := List.mem_map.1 hgiven
  exact ⟨given, List.mem_reverse.2 hmem, by simp⟩

theorem checkOptions_eq_ok {c : CommandSpec} {l : Line}
    (hsame : ∀ o ∈ c.options, o.mustExist = true → ∀ value, l.value? o.id = some value →
      t'.status cwd value = t.status cwd value)
    (hcheck : checkOptions t cwd c l = .ok ()) : checkOptions t' cwd c l = .ok () := by
  rw [checkOptions, forM_eq_ok] at hcheck ⊢
  intro id hid
  have hpass := hcheck id hid
  cases hfound : c.options.find? fun o => o.id == id with
  | none => rfl
  | some o =>
    rw [hfound] at hpass
    dsimp only at hpass ⊢
    split
    · rename_i htakes
      rw [if_pos htakes] at hpass
      obtain ⟨value, hvalue⟩ := value?_isSome (List.mem_eraseDups.1 hid)
      rw [hvalue] at hpass ⊢
      have ho : o.id = id := by simpa using List.find?_some hfound
      refine checkOption_eq_ok (fun hmust => ?_) hpass
      exact hsame o (List.mem_of_find?_eq_some hfound) hmust value (by rw [ho]; exact hvalue)
    · rfl

theorem checkWords_eq {c : CommandSpec} {l : Line}
    (hsame : ∀ word ∈ l.words.head?, t'.status cwd word = t.status cwd word) :
    checkWords t' cwd c l = checkWords t cwd c l := by
  rw [checkWords, checkWords]
  cases c.argument with
  | none => rfl
  | some a =>
    cases hwords : l.words with
    | nil => rfl
    | cons word rest =>
      rw [hwords] at hsame
      dsimp only
      rw [checkArgument, checkArgument, probe_eq (hsame word rfl)]

/-- A command line passes again where all that has to be there still is the same. -/
theorem check_eq_ok {c : CommandSpec} {l : Line}
    (hoptions : ∀ o ∈ c.options, o.mustExist = true → ∀ value, l.value? o.id = some value →
      t'.status cwd value = t.status cwd value)
    (hword : ∀ word ∈ l.words.head?, t'.status cwd word = t.status cwd word)
    (hcheck : check t cwd c l = .ok ()) : check t' cwd c l = .ok () := by
  obtain ⟨_, hfirst, hrest⟩ := bind_eq_ok.1 hcheck
  refine bind_eq_ok.2 ⟨(), checkOptions_eq_ok hoptions hfirst, ?_⟩
  rw [checkWords_eq hword]
  exact hrest

end Command

end FindingLedger
