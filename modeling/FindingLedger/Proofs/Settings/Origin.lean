/-
Where a setting that was checked comes from.

Joining sources neither makes nor changes the values of settings, whatever else stands in the
files.  So a value that is checked was said by a file, by the variables, or by a flag.
-/
import FindingLedger.Proofs.Settings.Spelling

namespace FindingLedger

namespace Settings

open Datum

/-- A dictionary of sections says a value for a setting, in a section of its name.  The case of
the name does not matter. -/
def Gives (entries : List (Scalar × Datum)) (n : String × String) (v : Datum) : Prop :=
  ∃ e ∈ entries, isKeyOf n.1 e.1 = true ∧ ∃ inner, e.2 = .dict inner ∧ (.text n.2, v) ∈ inner

variable {entries lower upper : List (Scalar × Datum)} {n : String × String} {v : Datum}

theorem Gives.mono {entries' : List (Scalar × Datum)} (hsub : ∀ e ∈ entries, e ∈ entries')
    (hgives : Gives entries n v) : Gives entries' n v := by
  obtain ⟨e, he, hsaid⟩ := hgives
  exact ⟨e, hsub e he, hsaid⟩

theorem gives_of_raw? (hname : n.1 ∈ sectionNames) (hraw : raw? entries n.1 n.2 = some v) :
    Gives entries n v := by
  unfold raw? at hraw
  split at hraw
  · rename_i inner hsection
    refine ⟨_, mem_of_find? hsection, ?_, inner, rfl, mem_of_find? hraw⟩
    rw [isKeyOf, lower_sectionName hname, beq_self_eq_true]
  · cases hraw

section Overlay

/-- Laying a value over another gives a mapping only if it is one. -/
theorem eq_of_overlay_eq {old value : Datum} (hv : v.isMapping = false)
    (heq : overlay old value = v) : value = v := by
  cases hvalue : value.isMapping with
  | false => rw [← overlay_of_not_isMapping hvalue old, heq]
  | true =>
    -- What is laid over anything as a mapping stays one.
    have hmapping : (overlay old value).isMapping = true := by
      cases value with
      | dict upper => cases old <;> simp only [overlay] <;> rfl
      | again cycle =>
        simp only [overlay]
        exact hvalue
      | _ => cases hvalue
    rw [heq, hv] at hmapping
    cases hmapping

/-- What is no mapping is an entry of one of two dictionaries that are laid over each other. -/
theorem mem_overlayEntries {key : String} (hv : v.isMapping = false)
    (hmem : (.text key, v) ∈ overlayEntries lower upper) :
    (.text key, v) ∈ lower ∨ (.text key, v) ∈ upper := by
  refine forall_mem_overlayEntries
    (P := fun e => e = (.text key, v) → (.text key, v) ∈ lower ∨ (.text key, v) ∈ upper)
    ?_ ?_ ?_ _ hmem rfl
  · rintro e he rfl
    exact Or.inl he
  · rintro e he rfl
    exact Or.inr he
  · intro k k' old value hk _ hvalue heq
    obtain ⟨rfl, hover⟩ := Prod.mk.inj heq
    apply hvalue
    rw [Scalar.text_sameAs.1 hk, eq_of_overlay_eq hv hover]

/-- A section that was laid over another one says what either of them did. -/
theorem gives_of_overlay {k k' : Scalar} {old value : Datum} {inner : List (Scalar × Datum)}
    (hv : v.isMapping = false) (hk : k'.sameAs k = true) (hkey : isKeyOf n.1 k' = true)
    (hinner : overlay old value = .dict inner) (hmem : (.text n.2, v) ∈ inner) :
    Gives [(k', old)] n v ∨ Gives [(k, value)] n v := by
  have hsame : isKeyOf n.1 k = true := by
    cases k' with
    | text s => rwa [Scalar.text_sameAs.1 hk]
    | _ => cases hkey
  cases value with
  | dict upper =>
    cases old with
    | dict lower =>
      rw [overlay_dict] at hinner
      cases hinner
      rcases mem_overlayEntries hv hmem with hlower | hupper
      · exact Or.inl ⟨_, List.mem_cons_self, hkey, lower, rfl, hlower⟩
      · exact Or.inr ⟨_, List.mem_cons_self, hsame, upper, rfl, hupper⟩
    | _ =>
      simp only [overlay] at hinner
      cases hinner
      exact Or.inr ⟨_, List.mem_cons_self, hsame, _, rfl, hmem⟩
  | _ =>
    simp only [overlay] at hinner
    cases hinner

/-- What is said after laying one dictionary over another was said in one of them. -/
theorem gives_overlayEntries (hv : v.isMapping = false)
    (hgives : Gives (overlayEntries lower upper) n v) : Gives lower n v ∨ Gives upper n v := by
  obtain ⟨e, he, hsaid⟩ := hgives
  refine forall_mem_overlayEntries
    (P := fun e => Gives [e] n v → Gives lower n v ∨ Gives upper n v) ?_ ?_ ?_ e he
    ⟨e, List.mem_singleton_self e, hsaid⟩
  · exact fun e he hone => Or.inl (hone.mono fun _ h => List.mem_singleton.1 h ▸ he)
  · exact fun e he hone => Or.inr (hone.mono fun _ h => List.mem_singleton.1 h ▸ he)
  · rintro k k' old value hk hold hvalue ⟨e, he, hkey, inner, hinner, hmem⟩
    obtain rfl := List.mem_singleton.1 he
    exact (gives_of_overlay hv hk hkey hinner hmem).elim hold hvalue

end Overlay

section Sources

theorem gives_dropOverridden {vars : List String} {front : String}
    (hgives : Gives (dropOverridden vars front entries) n v) : Gives entries n v := by
  obtain ⟨e, he, hkey, inner, hinner, hmem⟩ := hgives
  obtain ⟨d, hd, hsame, hleft⟩ := mem_dropOverridden he
  rcases hleft with ⟨whole, hwhole, hleft⟩ | ⟨hnot, hvalue, _⟩
  · rw [hinner] at hleft
    cases hleft
    exact ⟨d, hd, hsame ▸ hkey, whole, hwhole, List.mem_of_mem_filter hmem⟩
  · exact absurd (hvalue.trans hinner) (hnot inner)

theorem gives_renamed (hgives : Gives (renamed entries) n v) : Gives entries n v := by
  obtain ⟨e, he, hkey, inner, hinner, hmem⟩ := hgives
  obtain ⟨d, hd, hvalue, hsame⟩ := mem_renamed he
  exact ⟨d, hd, hsame n.1 ▸ hkey, inner, hvalue.trans hinner, hmem⟩

/-- A setting that is set says its value; all others say what they did. -/
theorem gives_setIn {sectionName key : String} {value : Datum}
    (hlower : Text.lower sectionName = sectionName)
    (hgives : Gives (setIn entries sectionName key value) n v) :
    Gives entries n v ∨ n = (sectionName, key) ∧ v = value := by
  obtain ⟨name, field⟩ := n
  have hset : isKeyOf name (.text sectionName) = true → ∀ inner,
      (.text field, v) ∈ put (.text key) value inner →
        (.text field, v) ∈ inner ∨ (name, field) = (sectionName, key) ∧ v = value := by
    intro hname inner hmem
    rw [isKeyOf, hlower, beq_iff_eq] at hname
    rw [put_eq_alter] at hmem
    rcases mem_alter _ hmem with hold | hnew | ⟨old, _, hchanged⟩
    · exact Or.inl hold
    · obtain ⟨hfield, rfl⟩ := Prod.mk.inj hnew
      exact Or.inr ⟨by rw [hname, Scalar.text.inj hfield], rfl⟩
    · obtain ⟨hfield, rfl⟩ := Prod.mk.inj hchanged
      exact Or.inr ⟨by rw [hname, Scalar.text.inj hfield], rfl⟩
  obtain ⟨e, he, hkey, inner, hinner, hmem⟩ := hgives
  rw [setIn] at he
  rcases mem_alter _ he with hold | rfl | ⟨old, hold, rfl⟩
  · exact Or.inl ⟨e, hold, hkey, inner, hinner, hmem⟩
  · cases hinner
    rcases hset hkey [] hmem with hnone | hnew
    · exact absurd hnone List.not_mem_nil
    · exact Or.inr hnew
  · cases old with
    | dict below =>
      cases hinner
      rcases hset hkey below hmem with hbelow | hnew
      · exact Or.inl ⟨_, hold, hkey, below, rfl, hbelow⟩
      · exact Or.inr hnew
    | _ => cases hinner

theorem lower_flagTarget? {flag sectionName key : String} {kind : FlagKind}
    (htarget : flagTarget? flag = some (sectionName, key, kind)) :
    Text.lower sectionName = sectionName :=
  lower_sectionName (flagTarget?_spec htarget).1

/-- A flag gives a value to a setting. -/
def FlagGives (flags : List (String × Datum)) (n : String × String) (v : Datum) : Prop :=
  ∃ e ∈ flags, ∃ kind, flagTarget? e.1 = some (n.1, n.2, kind) ∧ kind.apply e.2 = .ok (some v)

theorem gives_ofFlagsFrom {done set : List (Scalar × Datum)} {flags : List (String × Datum)}
    (hset : ofFlagsFrom done flags = .ok set) (hgives : Gives set n v) :
    Gives done n v ∨ FlagGives flags n v := by
  have hlater : ∀ {e : String × Datum} {rest : List (String × Datum)},
      FlagGives rest n v → FlagGives (e :: rest) n v := by
    rintro e rest ⟨e', he', hgives⟩
    exact ⟨e', List.mem_cons_of_mem _ he', hgives⟩
  fun_induction ofFlagsFrom done flags with
  | case1 done =>
    cases hset
    exact Or.inl hgives
  | case2 done flag rest ih => exact (ih hset).imp_right hlater
  | case3 done flag value rest htarget hvalue ih => exact (ih hset).imp_right hlater
  | case4 done flag rest value sectionName key kind hvalue htarget ih ihskip =>
    obtain ⟨v?, hkind, hrest⟩ := bind_eq_ok.1 hset
    cases v? with
    | none => exact (ihskip hrest).imp_right hlater
    | some w =>
      rcases ih w hrest with hsaid | hgiven
      · rcases gives_setIn (lower_flagTarget? htarget) hsaid with hdone | ⟨rfl, rfl⟩
        · exact Or.inl hdone
        · exact Or.inr ⟨(flag, value), List.mem_cons_self, kind, htarget, hkind⟩
      · exact Or.inr (hlater hgiven)

/-- What the flags say was given by one of them. -/
theorem flagGives_of_gives {set : List (Scalar × Datum)} {flags : List (String × Datum)}
    (hset : ofFlags flags = .ok set) (hgives : Gives set n v) : FlagGives flags n v := by
  rcases gives_ofFlagsFrom hset hgives with ⟨e, he, _⟩ | hgives
  · exact absurd he List.not_mem_nil
  · exact hgives

end Sources

section Load

variable {t : FileTree} {cwd : Location} {home file : Path} {env : Environment}
  {flags : List (String × Datum)}

/-- Where a value of a setting comes from: the file of the user, that of the project, the
variables, or a flag. -/
inductive Originates (t : FileTree) (cwd : Location) (home file : Path) (env : Environment)
    (flags : List (String × Datum)) (n : String × String) (v : Datum) : Prop
  | user (sheet : Sheet) (reads : ofFile t cwd (home.join userFile) = .ok sheet)
      (gives : Gives sheet.entries n v)
  | project (sheet : Sheet) (reads : ofFile t cwd file = .ok sheet)
      (gives : Gives sheet.entries n v)
  | environment (said : List (Scalar × Datum)) (reads : ofVariables env = .ok said)
      (gives : Gives said n v)
  | flag (gives : FlagGives flags n v)

/-- What is checked for a setting is the value that some source has for it. -/
theorem exists_checked_of_load {settings : Settings}
    (hload : load t cwd home env file flags = .ok settings) :
    ∃ entries, check entries = .ok settings ∧
      ∀ n v, n.1 ∈ sectionNames → v.isMapping = false → raw? entries n.1 n.2 = some v →
        Originates t cwd home file env flags n v := by
  obtain ⟨user, project, set, given, huser, hproject, hset, hgiven, hcheck⟩ := load_eq_ok hload
  refine ⟨_, hcheck, ?_⟩
  intro n v hname hv hraw
  rcases gives_overlayEntries hv (gives_of_raw? hname hraw) with hvariables | hgives
  · exact .environment given hgiven hvariables
  rcases gives_overlayEntries hv (gives_renamed hgives) with hfiles | hflags
  · rcases gives_overlayEntries hv (gives_dropOverridden hfiles) with hgives | hgives
    · rcases gives_overlayEntries hv hgives with ⟨e, he, _⟩ | hgives
      · exact absurd he List.not_mem_nil
      · exact .user user huser hgives
    · exact .project project hproject hgives
  · exact .flag (flagGives_of_gives hset hflags)

end Load

end Settings

end FindingLedger
