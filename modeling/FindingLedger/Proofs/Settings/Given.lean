/-
Settings that a flag gives.

No two entries of a dictionary from a file have the same text for a key, and joining sources
keeps it so.  What flags give is laid over the files, and all of this over the variables; so a
setting that a flag gives is checked with the value of the flag, whatever files and variables
hold.
-/
import FindingLedger.Proofs.Settings.Spelling

namespace FindingLedger

namespace Settings

open Datum

/-- No text is the key of two entries. -/
def IsApart (entries : List (Scalar × Datum)) : Prop :=
  (entries.map Prod.fst).Pairwise fun k k' => ∀ s, k = .text s → k' ≠ .text s

/-- No two settings of a section have the same key. -/
def HasApartSections (entries : List (Scalar × Datum)) : Prop :=
  ∀ e ∈ entries, ∀ inner, e.2 = .dict inner → IsApart inner

/-- No two sections have the same name either. -/
structure AreApart (entries : List (Scalar × Datum)) : Prop where
  names : IsApart entries
  keys : HasApartSections entries

variable {entries lower upper inner : List (Scalar × Datum)} {n : String × String} {v : Datum}

theorem isApart_nil : IsApart [] := List.Pairwise.nil

theorem areApart_nil : AreApart [] := ⟨isApart_nil, nofun⟩

theorem isApart_of_isTextKeyed (hkeyed : IsTextKeyed entries) : IsApart entries := by
  refine hkeyed.nodup.imp ?_
  rintro k k' hne s rfl heq
  exact hne heq.symm

theorem IsApart.eq {k : String} {w : Datum} (hapart : IsApart entries)
    (hv : (.text k, v) ∈ entries) (hw : (.text k, w) ∈ entries) : v = w := by
  induction entries with
  | nil => exact absurd hv List.not_mem_nil
  | cons e rest ih =>
    obtain ⟨hfirst, hrest⟩ := List.pairwise_cons.1 hapart
    have hother : ∀ u, e.1 = .text k → (.text k, u) ∉ rest := by
      intro u he hu
      exact hfirst _ (List.mem_map_of_mem hu) k he rfl
    rcases List.mem_cons.1 hv with rfl | hv <;> rcases List.mem_cons.1 hw with heq | hw
    · exact (Prod.mk.inj heq).2.symm
    · exact absurd hw (hother w rfl)
    · exact absurd hv (hother v (by rw [← heq]))
    · exact ih hrest hv hw

section Overlay

variable (f : Datum → Datum)

/-- The changed entry keeps its key, or a new key is the same as none before it. -/
theorem keys_alter_cases (key : Scalar) (value : Datum) (entries : List (Scalar × Datum)) :
    (alter key value f entries).map Prod.fst = entries.map Prod.fst ∨
      (∀ k ∈ entries.map Prod.fst, k.sameAs key = false) ∧
        (alter key value f entries).map Prod.fst = entries.map Prod.fst ++ [key] := by
  cases hfound : Datum.find? key entries with
  | none =>
    rw [alter_of_find?_eq_none f hfound, List.map_append]
    exact Or.inr ⟨find?_eq_none_iff.1 hfound, rfl⟩
  | some v => exact Or.inl (keys_alter_of_find? f hfound value)

theorem isApart_alter (hapart : IsApart entries) (key : Scalar) (value : Datum) :
    IsApart (alter key value f entries) := by
  rw [IsApart]
  rcases keys_alter_cases f key value entries with hkeys | ⟨hnew, hkeys⟩
  · rw [hkeys]
    exact hapart
  · rw [hkeys, List.pairwise_append]
    refine ⟨hapart, List.pairwise_singleton _ _, fun k hk k' hk' => ?_⟩
    rw [List.mem_singleton.1 hk']
    rintro s rfl rfl
    exact Bool.false_ne_true ((hnew _ hk).symm.trans (Scalar.sameAs_text.2 rfl))

theorem isApart_overlayEntries (hlower : IsApart lower) (upper : List (Scalar × Datum)) :
    IsApart (overlayEntries lower upper) :=
  overlayEntries_induction hlower fun key value _ _ hdone => isApart_alter _ hdone key value

theorem isApart_of_overlay {old value : Datum} (hold : ∀ a, old = .dict a → IsApart a)
    (hvalue : ∀ a, value = .dict a → IsApart a) (heq : overlay old value = .dict inner) :
    IsApart inner := by
  cases value with
  | dict upper =>
    cases old with
    | dict lower =>
      rw [overlay_dict] at heq
      cases heq
      exact isApart_overlayEntries (hold _ rfl) upper
    | _ =>
      simp only [overlay] at heq
      exact hvalue _ heq
  | _ =>
    simp only [overlay] at heq
    cases heq

theorem hasApartSections_overlayEntries (hlower : HasApartSections lower)
    (hupper : HasApartSections upper) : HasApartSections (overlayEntries lower upper) :=
  forall_mem_overlayEntries hlower hupper fun _ _ _ _ _ hold hvalue _ hinner =>
    isApart_of_overlay hold hvalue hinner

theorem areApart_overlayEntries (hlower : AreApart lower) (hupper : AreApart upper) :
    AreApart (overlayEntries lower upper) :=
  ⟨isApart_overlayEntries hlower.names upper,
    hasApartSections_overlayEntries hlower.keys hupper.keys⟩

end Overlay

section Sources

theorem areApart_dropOverridden (vars : List String) (front : String)
    (hapart : AreApart entries) : AreApart (dropOverridden vars front entries) := by
  constructor
  · have hsub : ((dropOverridden vars front entries).map Prod.fst).Sublist
        (entries.map Prod.fst) := by
      clear hapart
      fun_induction dropOverridden vars front entries with
      | case1 => exact List.Sublist.slnil
      | case2 name inner rest ih => exact ih.cons_cons _
      | case3 name value rest hvalue hset ih => exact ih.cons _
      | case4 name value rest hvalue hunset ih => exact ih.cons_cons _
    exact hapart.names.sublist hsub
  · intro e he inner hinner
    obtain ⟨d, hd, _, hleft⟩ := mem_dropOverridden he
    rcases hleft with ⟨whole, hwhole, hleft⟩ | ⟨hnot, hvalue, _⟩
    · rw [hinner] at hleft
      cases hleft
      exact (hapart.keys d hd whole hwhole).sublist (List.filter_sublist.map _)
    · exact absurd (hvalue.trans hinner) (hnot inner)

theorem areApart_of_isPlain (hplain : IsPlain entries) : AreApart entries := by
  refine ⟨isApart_of_isTextKeyed hplain.keyed, ?_⟩
  intro e he inner hinner
  obtain ⟨k, w⟩ := e
  obtain ⟨s, hs⟩ := hplain.keyed.isText _ he
  obtain rfl : k = .text s := hs
  obtain ⟨_, inner', hvalue, hsection⟩ := hplain.section_ s w he
  cases hvalue.symm.trans hinner
  exact isApart_of_isTextKeyed hsection.keyed

/-- Keys of a document that are apart are apart in what is made of it. -/
theorem isApart_of_areApart {R : Yaml.Key × Yaml.Part → Scalar × Datum → Prop}
    {es : List (Yaml.Key × Yaml.Part)} (hall : List.Forall₂ R es entries)
    (hR : ∀ e f, R e f → e.1.scalar = f.1) (hapart : Yaml.AreApart es) : IsApart entries := by
  induction hall with
  | nil => exact isApart_nil
  | @cons e f es entries hhead htail ih =>
    rw [Yaml.AreApart, List.pairwise_cons] at hapart
    refine List.pairwise_cons.2 ⟨?_, ih hapart.2⟩
    intro k hk
    obtain ⟨g, hg, rfl⟩ := List.mem_map.1 hk
    obtain ⟨e', he', hpair⟩ := Yaml.exists_of_forall₂ htail.flip hg
    intro s hf hg
    have hfirst : e.1.scalar = .text s := (hR e f hhead).trans hf
    have hother : e'.1.scalar = .text s := (hR e' g hpair).trans hg
    have hdifferent := hapart.1 e' he'
    rw [Yaml.Key.sameAs, hfirst, hother] at hdifferent
    exact Bool.false_ne_true (hdifferent.symm.trans (Scalar.sameAs_text.2 rfl))

/-- What was read from a file has keys that are apart. -/
theorem areApart_of_isRead {s : Sheet} (hread : s.IsRead) : AreApart s.entries := by
  rcases hread with rfl | ⟨a, entries, rfl, hkeyed, hvalue⟩
  · exact areApart_nil
  · have hholds : ∀ {p i es}, a.entries? p = some (i, es) → Yaml.AreApart es := by
      intro p i es hes
      obtain ⟨_, hholding⟩ := Yaml.holding_of_entries? hes
      have hi := hkeyed i
      rw [hholding] at hi
      exact hi
    obtain ⟨i, es, hes, hall⟩ := Yaml.Assembly.entries_of_value hvalue
    refine ⟨isApart_of_areApart hall (fun _ _ h => h.1) (hholds hes), ?_⟩
    rintro ⟨k, w⟩ he inner rfl
    obtain ⟨_, _, _, hmirrors⟩ := Yaml.exists_of_forall₂ hall.flip he
    obtain ⟨j, settings, hsettings, hentries⟩ := Yaml.entries_of_mirrors hmirrors
    exact isApart_of_areApart hentries (fun _ _ h => h.1) (hholds hsettings)

end Sources

section Insists

/-- Under a key there is a value, and no other one. -/
def Holds (entries : List (Scalar × Datum)) (k : String) (v : Datum) : Prop :=
  (.text k, v) ∈ entries ∧ ∀ w, (.text k, w) ∈ entries → w = v

/-- For a setting there is a value, and no other one. -/
def Insists (entries : List (Scalar × Datum)) (n : String × String) (v : Datum) : Prop :=
  ∃ inner, Holds entries n.1 (.dict inner) ∧ Holds inner n.2 v

theorem holds_of_isApart {k : String} (hapart : IsApart entries)
    (hfound : find? (.text k) entries = some v) : Holds entries k v :=
  ⟨mem_of_find? hfound, fun _ hw => hapart.eq hw (mem_of_find? hfound)⟩

/-- What is there under a text is found there. -/
theorem Holds.find? {k : String} (hholds : Holds entries k v) :
    Datum.find? (.text k) entries = some v := by
  cases hfound : Datum.find? (.text k) entries with
  | none => exact absurd (List.mem_map_of_mem hholds.1) (find?_eq_none.1 hfound)
  | some w => rw [hholds.2 w (mem_of_find? hfound)]

theorem insists_of_areApart (hapart : AreApart entries) (hraw : raw? entries n.1 n.2 = some v) :
    Insists entries n v := by
  unfold raw? at hraw
  split at hraw
  · rename_i inner hsection
    refine ⟨inner, holds_of_isApart hapart.names hsection, holds_of_isApart ?_ hraw⟩
    exact hapart.keys _ (mem_of_find? hsection) inner rfl
  · cases hraw

/-- What every change under a text brings about, and no other change undoes, is so in the end if
it was so before or there is such a change. -/
theorem overlayEntries_of_change {P : List (Scalar × Datum) → Prop} {k : String}
    (hchange : ∀ value done, (.text k, value) ∈ upper →
      P (alter (.text k) value (fun old => overlay old value) done))
    (hother : ∀ key value done, key ≠ .text k → P done →
      P (alter key value (fun old => overlay old value) done))
    (hsome : P lower ∨ ∃ value, (.text k, value) ∈ upper) : P (overlayEntries lower upper) := by
  induction upper generalizing lower with
  | nil =>
    rw [overlayEntries_nil]
    apply hsome.resolve_right
    rintro ⟨_, hmem⟩
    cases hmem
  | cons e rest ih =>
    obtain ⟨key, value⟩ := e
    rw [overlayEntries]
    apply ih fun value done hmem => hchange value done (List.mem_cons_of_mem _ hmem)
    by_cases hkey : key = .text k
    · left
      subst hkey
      exact hchange value lower List.mem_cons_self
    · apply hsome.imp (hother key value lower hkey)
      rintro ⟨w, hmem⟩
      rcases List.mem_cons.1 hmem with heq | hmem
      · exact absurd (Prod.mk.inj heq).1.symm hkey
      · exact ⟨w, hmem⟩

/-- What is no mapping and is the only value under its key is found there, whatever it is laid
over. -/
theorem find?_overlayEntries_of_all {k : String} (hv : v.isMapping = false)
    (hall : ∀ w, (.text k, w) ∈ upper → w = v)
    (hsome : find? (.text k) lower = some v ∨ (.text k, v) ∈ upper) :
    find? (.text k) (overlayEntries lower upper) = some v := by
  apply overlayEntries_of_change (P := fun done => find? (.text k) done = some v)
  · intro value done hmem
    rw [hall value hmem, find?_alter_self]
    cases find? (.text k) done with
    | none => rfl
    | some old => rw [Option.map_some, overlay_of_not_isMapping hv, Option.getD_some]
  · intro key value done hkey hdone
    rw [find?_alter_of_ne _ hkey, hdone]
  · exact hsome.imp_right fun hmem => ⟨v, hmem⟩

/-- The same for a value in a section. -/
theorem raw?_overlayEntries_of_all (hv : v.isMapping = false) (hinner : Holds inner n.2 v)
    (hall : ∀ w, (.text n.1, w) ∈ upper → w = .dict inner)
    (hsome : raw? lower n.1 n.2 = some v ∨ (.text n.1, .dict inner) ∈ upper) :
    raw? (overlayEntries lower upper) n.1 n.2 = some v := by
  apply overlayEntries_of_change (P := fun done => raw? done n.1 n.2 = some v)
  · intro value done hmem
    rw [hall value hmem, raw?, find?_alter_self]
    have hover : ∀ old, find? (.text n.2) (overlayEntries old inner) = some v :=
      fun old => find?_overlayEntries_of_all hv hinner.2 (Or.inr hinner.1)
    cases find? (.text n.1) done with
    | none => exact hinner.find?
    | some old =>
      rw [Option.map_some, Option.getD_some]
      cases old with
      | dict below =>
        rw [overlay_dict]
        exact hover below
      | _ =>
        simp only [overlay]
        exact hinner.find?
  · intro key value done hkey hdone
    rw [raw?, find?_alter_of_ne _ hkey, ← raw?, hdone]
  · exact hsome.imp_right fun hmem => ⟨_, hmem⟩

/-- Giving entries their proper names changes nothing about a section that has its own. -/
theorem holds_renamed {k : String} (hk : k ∈ sectionNames) (hholds : Holds entries k v) :
    Holds (renamed entries) k v := by
  have hone : ∀ name ∈ sectionNames, ∀ {entries : List (Scalar × Datum)},
      Holds entries k v → Holds (renamedTo name entries) k v := by
    intro name hname entries hholds
    rw [renamedTo]
    by_cases hsame : name = k
    · rw [hsame, hholds.find?]
      exact hholds
    · split
      · exact hholds
      · -- An entry keeps its name, or it is named after another section.
        have hkept : ∀ e, namedAs name e = e ∨ (namedAs name e).1 = .text name := by
          intro e
          rw [namedAs]
          split
          · split
            · exact Or.inr rfl
            · exact Or.inl rfl
          · exact Or.inl rfl
        constructor
        · refine List.mem_map.2 ⟨_, hholds.1, ?_⟩
          rw [namedAs]
          dsimp only
          rw [lower_sectionName hk, if_neg fun heq => hsame (eq_of_beq heq).symm]
        · intro w hw
          obtain ⟨d, hd, hnamed⟩ := List.mem_map.1 hw
          rcases hkept d with hsame' | hname'
          · rw [hsame'] at hnamed
            exact hholds.2 w (hnamed ▸ hd)
          · rw [hnamed] at hname'
            exact absurd (Scalar.text.inj hname').symm hsame
  rw [renamed_eq]
  exact hone journalSection (by decide) (hone baselineSection (by decide) hholds)

/-- A setting that is given by what is laid over all others has its value. -/
theorem raw?_of_insists {given : List (Scalar × Datum)} (hname : n.1 ∈ sectionNames)
    (hv : v.isMapping = false) (hinsists : Insists entries n v) :
    raw? (overlayEntries given (renamed entries)) n.1 n.2 = some v := by
  obtain ⟨inner, hsection, hinner⟩ := hinsists
  obtain ⟨hmem, hall⟩ := holds_renamed hname hsection
  exact raw?_overlayEntries_of_all hv hinner hall (Or.inr hmem)

end Insists

section Load

/-- A setting that was checked is what its value stands for. -/
theorem convert_eq_ok {α : Type} {name key : String} {d a : α} {convert : Datum → Except Flaw α}
    (hraw : raw? entries name key = some v)
    (hfield : checkField name key (sectionOf entries name) d convert = .ok a) :
    convert v = .ok a := by
  rw [checkField, ← raw?_eq, hraw] at hfield
  exact mapError_eq_ok.1 hfield

variable {t : FileTree} {cwd : Location} {home file : Path} {env : Environment}
  {flags : List (String × Datum)}

theorem exists_checked_of_flags {settings : Settings} (hpaths : hasPaths flags = true)
    (hload : load t cwd home env file flags = .ok settings) :
    ∃ entries, check entries = .ok settings ∧
      ∀ n ∈ names, ∀ v, v.isMapping = false → flagValue? flags n.1 n.2 = some v →
        raw? entries n.1 n.2 = some v := by
  obtain ⟨user, project, set, given, huser, hproject, hset, hgiven, hcheck⟩ := load_eq_ok hload
  refine ⟨_, hcheck, ?_⟩
  intro n hn v hv hflag
  obtain ⟨set', hset', hplain, hraw⟩ := ofFlags_spec hpaths
  cases hset.symm.trans hset'
  have hfiles := areApart_overlayEntries
    (areApart_overlayEntries areApart_nil (areApart_of_isRead (isRead_of_ofFile huser)))
    (areApart_of_isRead (isRead_of_ofFile hproject))
  have hjoined := areApart_overlayEntries
    (areApart_dropOverridden (env.map (·.1)) variablePrefix hfiles) (areApart_of_isPlain hplain)
  have hname : n.1 ∈ sectionNames := by
    obtain ⟨e, he, hfield⟩ := List.mem_flatMap.1 hn
    obtain ⟨f, _, rfl⟩ := List.mem_map.1 hfield
    exact List.mem_map_of_mem he
  apply raw?_of_insists hname hv
  apply insists_of_areApart hjoined
  rw [raw?_overlayEntries hplain, hraw, hflag]
  rfl

end Load

end Settings

end FindingLedger
