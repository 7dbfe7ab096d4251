/-
The raw values of settings in dictionaries of sections.

Settings are checked one by one.  So where sections are dictionaries, checking depends only on
the raw value that each of the settings has.
-/
import FindingLedger.Proofs.Datum.Entries
import FindingLedger.Settings.Load

namespace FindingLedger

namespace Settings

open Datum

/-- The settings that there are, by section and key. -/
def names : List (String × String) :=
  default.sections.flatMap fun e => e.2.map fun f => (e.1, f.1)

/-- The raw value that a dictionary of sections has for a setting. -/
def raw? (entries : List (Scalar × Datum)) (sectionName key : String) : Option Datum :=
  match find? (.text sectionName) entries with
  | some (.dict inner) => find? (.text key) inner
  | _ => none

/-- The raw values of all settings as a dictionary of sections.  A setting without one is left
out. -/
def sectionsOf (raw : String → String → Option Datum) : List (Scalar × Datum) :=
  default.sections.map fun e =>
    (.text e.1, .dict (e.2.filterMap fun f => (raw e.1 f.1).map fun v => (.text f.1, v)))

/-- Dictionaries all whose sections are dictionaries. -/
def HasSections (entries : List (Scalar × Datum)) : Prop :=
  ∀ e ∈ default.sections, ∀ v, find? (.text e.1) entries = some v → ∃ inner, v = .dict inner

section Check

variable {entries entries' : List (Scalar × Datum)}

/-- The settings of a section that is a dictionary; none where there is no such section. -/
def sectionOf (entries : List (Scalar × Datum)) (sectionName : String) :
    List (Scalar × Datum) :=
  match find? (.text sectionName) entries with
  | some (.dict inner) => inner
  | _ => []

theorem raw?_eq (entries : List (Scalar × Datum)) (sectionName key : String) :
    raw? entries sectionName key = find? (.text key) (sectionOf entries sectionName) := by
  rw [raw?, sectionOf]
  split <;> rfl

/-- A section that is not given is checked like an empty one. -/
theorem checkSection_eq {α : Type} {sectionName model : String} {fallback : α}
    {convert : List (Scalar × Datum) → Checked α} (hfallback : convert [] = .ok fallback)
    (hsection : ∀ v, find? (.text sectionName) entries = some v → ∃ inner, v = .dict inner) :
    checkSection sectionName model entries fallback convert =
      convert (sectionOf entries sectionName) := by
  rw [checkSection, sectionOf]
  cases hfound : find? (.text sectionName) entries with
  | none => exact hfallback.symm
  | some v =>
    obtain ⟨inner, rfl⟩ := hsection v hfound
    rfl

/-- The check of a setting looks at this setting only. -/
theorem checkField_congr {α : Type} {sectionName : String} {keys : List String} (key : String)
    (d : α) (convert : Datum → Except Flaw α)
    (hsame : ∀ k ∈ keys, find? (.text k) entries = find? (.text k) entries')
    (hkey : keys.contains key = true) :
    checkField sectionName key entries d convert =
      checkField sectionName key entries' d convert := by
  rw [checkField, checkField, hsame key (List.contains_iff_mem.1 hkey)]

theorem checkBaseline_congr
    (hsame : ∀ k ∈ (baselineEntries default.baseline).map Prod.fst,
      find? (.text k) entries = find? (.text k) entries') :
    checkBaseline entries = checkBaseline entries' := by
  rw [checkBaseline, checkBaseline]
  dsimp only
  rw [checkField_congr "enabled" _ _ hsame rfl, checkField_congr "path" _ _ hsame rfl]

theorem checkJournal_congr
    (hsame : ∀ k ∈ (journalEntries default.journal).map Prod.fst,
      find? (.text k) entries = find? (.text k) entries') :
    checkJournal entries = checkJournal entries' := by
  rw [checkJournal, checkJournal]
  dsimp only
  rw [checkField_congr "level" _ _ hsame rfl, checkField_congr "file" _ _ hsame rfl,
    checkField_congr "json_format" _ _ hsame rfl,
    checkField_congr "max_file_size_mb" _ _ hsame rfl,
    checkField_congr "backup_count" _ _ hsame rfl]

theorem check_eq (hsections : HasSections entries) :
    check entries =
      ((checkBaseline (sectionOf entries baselineSection)).both
        (checkJournal (sectionOf entries journalSection))).map
        fun (baseline, journal) => ⟨baseline, journal⟩ := by
  have hbaseline := hsections (baselineSection, baselineEntries default.baseline)
    List.mem_cons_self
  have hjournal := hsections (journalSection, journalEntries default.journal)
    (List.mem_cons_of_mem _ List.mem_cons_self)
  have hdefault : checkBaseline [] = .ok default.baseline := rfl
  have hdefault' : checkJournal [] = .ok default.journal := rfl
  rw [check, checkSection_eq hdefault hbaseline, checkSection_eq hdefault' hjournal]

/-- Dictionaries with the same raw values are checked the same. -/
theorem check_congr (hsections : HasSections entries) (hsections' : HasSections entries')
    (hsame : ∀ n ∈ names, raw? entries n.1 n.2 = raw? entries' n.1 n.2) :
    check entries = check entries' := by
  have hraw : ∀ e ∈ default.sections, ∀ k ∈ e.2.map Prod.fst,
      find? (.text k) (sectionOf entries e.1) = find? (.text k) (sectionOf entries' e.1) := by
    intro e he k hk
    obtain ⟨f, hf, rfl⟩ := List.mem_map.1 hk
    rw [← raw?_eq, ← raw?_eq]
    apply hsame (e.1, f.1)
    exact List.mem_flatMap.2 ⟨e, he, List.mem_map.2 ⟨f, hf, rfl⟩⟩
  have hbaseline := hraw (baselineSection, baselineEntries default.baseline) List.mem_cons_self
  have hjournal := hraw (journalSection, journalEntries default.journal)
    (List.mem_cons_of_mem _ List.mem_cons_self)
  rw [check_eq hsections, check_eq hsections', checkBaseline_congr hbaseline,
    checkJournal_congr hjournal]

end Check

section SectionsOf

/-- Of given values, each is found under its key. -/
theorem find?_filterMap {α : Type} (raw : String → Option Datum) (fields : List (String × α))
    (key : String) :
    find? (.text key) (fields.filterMap fun f => (raw f.1).map fun v => (.text f.1, v)) =
      if key ∈ fields.map Prod.fst then raw key else none := by
  induction fields with
  | nil => rfl
  | cons f rest ih =>
    obtain ⟨k, d⟩ := f
    by_cases hk : k = key
    · subst hk
      rw [List.map_cons, if_pos List.mem_cons_self, List.filterMap_cons]
      cases hraw : raw k with
      | none =>
        dsimp only [Option.map_none]
        rw [ih, hraw, ite_self]
      | some v => exact find?_cons_self
    · have hmem : key ∈ ((k, d) :: rest).map Prod.fst ↔ key ∈ rest.map Prod.fst := by
        rw [List.map_cons, List.mem_cons]
        exact or_iff_right fun heq => hk heq.symm
      rw [List.filterMap_cons]
      simp only [hmem]
      rw [← ih]
      cases raw k with
      | none => rfl
      | some v => exact find?_cons_of_ne fun heq => hk (Scalar.text.inj heq)

theorem find?_sectionsOf (raw : String → String → Option Datum)
    {e : String × List (String × Scalar)} (he : e ∈ default.sections) :
    find? (.text e.1) (sectionsOf raw) =
      some (.dict (e.2.filterMap fun f => (raw e.1 f.1).map fun v => (.text f.1, v))) := by
  apply find?_of_mem
  · rw [sectionsOf, List.map_map]
    change (default.sections.map fun e => Scalar.text e.1).Nodup
    decide
  · exact List.mem_map.2 ⟨e, he, rfl⟩

theorem hasSections_sectionsOf (raw : String → String → Option Datum) :
    HasSections (sectionsOf raw) := by
  intro e he v hfound
  rw [find?_sectionsOf raw he] at hfound
  exact ⟨_, (Option.some.inj hfound).symm⟩

/-- The dictionary of raw values has these values. -/
theorem raw?_sectionsOf (raw : String → String → Option Datum) {n : String × String}
    (hn : n ∈ names) : raw? (sectionsOf raw) n.1 n.2 = raw n.1 n.2 := by
  obtain ⟨e, he, hfield⟩ := List.mem_flatMap.1 hn
  obtain ⟨f, hf, rfl⟩ := List.mem_map.1 hfield
  rw [raw?, find?_sectionsOf raw he]
  dsimp only
  rw [find?_filterMap (raw e.1), if_pos (List.mem_map_of_mem hf)]

theorem check_eq_check_sectionsOf {entries : List (Scalar × Datum)}
    {raw : String → String → Option Datum} (hsections : HasSections entries)
    (hraw : ∀ n ∈ names, raw? entries n.1 n.2 = raw n.1 n.2) :
    check entries = check (sectionsOf raw) := by
  apply check_congr hsections (hasSections_sectionsOf raw)
  intro n hn
  rw [hraw n hn, raw?_sectionsOf raw hn]

end SectionsOf

end Settings

end FindingLedger
