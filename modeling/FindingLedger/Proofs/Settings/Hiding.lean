/-
Settings laid over other entries.

The entries that settings are written as give every setting, in sections that are dictionaries.
Laid over other entries they hide all that these say of the settings, whatever the values there
are: numbers in place of sections, values of other types, settings that there are not.  Where no
variable is one for settings, nothing is left out and nothing is added.  All that a section below
can do is to have a key that is too long to be written or broken.
-/
import FindingLedger.Proofs.Settings.Precedence
import FindingLedger.Proofs.Settings.Spelling
import FindingLedger.Proofs.Text.CaseMap

namespace FindingLedger

namespace Settings

open Datum

/-- The paths among the settings were read from texts, and that of the baseline is not blank. -/
structure HasPaths (s : Settings) : Prop where
  baseline : ∃ text, s.baseline.path = .ofString text
  isVisible : Text.isBlankText s.baseline.path.text = false
  journal : ∀ p, s.journal.file = some p → ∃ text, p = .ofString text

/-- The keys of a file are names of sections. -/
def HasSectionKeys (entries : List (Scalar × Datum)) : Prop :=
  ∀ e ∈ entries, ∃ name ∈ sectionNames, e.1 = .text name

instance (entries : List (Scalar × Datum)) : Decidable (HasSectionKeys entries) :=
  inferInstanceAs (Decidable (∀ e ∈ entries, ∃ name ∈ sectionNames, e.1 = .text name))

/-- No variable is one for settings, in whatever letters. -/
def HasNoVariables (env : Environment) : Prop := ∀ e ∈ env, isForSettings e.1 = false

instance (env : Environment) : Decidable (HasNoVariables env) :=
  inferInstanceAs (Decidable (∀ e ∈ env, isForSettings e.1 = false))

section Entries

variable (s : Settings)

theorem isPlainSection_map {settings : List (String × Scalar)}
    (hnodup : (settings.map Prod.fst).Nodup) :
    IsPlainSection (settings.map fun f => (.text f.1, .scalar f.2)) := by
  refine ⟨⟨?_, ?_⟩, ?_⟩
  · intro e he
    obtain ⟨f, _, rfl⟩ := List.mem_map.1 he
    exact ⟨f.1, rfl⟩
  · have hkeys : (settings.map fun f => (Scalar.text f.1, Datum.scalar f.2)).map Prod.fst =
        (settings.map Prod.fst).map Scalar.text := by
      rw [List.map_map, List.map_map]
      rfl
    rw [hkeys]
    exact hnodup.map fun _ _ => Scalar.text.inj
  · intro e he
    obtain ⟨f, _, rfl⟩ := List.mem_map.1 he
    rfl

/-- The settings are sections that there are, with scalars for values. -/
theorem isPlain_entries : IsPlain s.entries := by
  refine ⟨⟨?_, ?_⟩, ?_⟩
  · intro e he
    obtain ⟨f, _, rfl⟩ := List.mem_map.1 he
    exact ⟨f.1, rfl⟩
  · change ([Scalar.text baselineSection, .text journalSection]).Nodup
    decide
  · intro name v hmem
    obtain ⟨e, he, heq⟩ := List.mem_map.1 hmem
    cases heq
    rcases List.mem_cons.1 he with rfl | he
    · have hname : baselineSection ∈ sectionNames := by decide
      refine ⟨hname, _, rfl, isPlainSection_map ?_⟩
      change ["enabled", "path"].Nodup
      decide
    · obtain rfl := List.mem_singleton.1 he
      have hname : journalSection ∈ sectionNames := by decide
      refine ⟨hname, _, rfl, isPlainSection_map ?_⟩
      change ["level", "file", "json_format", "max_file_size_mb", "backup_count"].Nodup
      decide

theorem find?_entries {name : String} (hname : name ∈ sectionNames) :
    ∃ inner, Datum.find? (.text name) s.entries = some (.dict inner) := by
  have hnames : sectionNames = [baselineSection, journalSection] := rfl
  rw [hnames, List.mem_cons, List.mem_singleton] at hname
  rcases hname with rfl | rfl
  · exact ⟨_, rfl⟩
  · exact ⟨_, rfl⟩

/-- Every setting has a value. -/
theorem isSome_raw?_entries {n : String × String} (hn : n ∈ names) :
    (raw? s.entries n.1 n.2).isSome = true := by
  simp only [names_eq, List.mem_cons, List.not_mem_nil, or_false] at hn
  rcases hn with rfl | rfl | rfl | rfl | rfl | rfl | rfl <;> rfl

theorem toThreshold_word (l : Threshold) : toThreshold (.text l.word) = .ok l := by
  cases l <;> decide

theorem toOptionalPath_text {file : Option Path}
    (hfile : ∀ p, file = some p → ∃ text, p = .ofString text) :
    toOptionalPath (.scalar ((file.map fun p => Scalar.text p.text).getD .null)) = .ok file := by
  cases file with
  | none => rfl
  | some p =>
    obtain ⟨text, rfl⟩ := hfile p rfl
    change Except.ok (some (Path.ofString (Path.ofString text).text)) = _
    rw [Path.ofString_text_ofString]

theorem toBaselinePath_text {p : Path} (hpath : ∃ text, p = .ofString text)
    (hvisible : Text.isBlankText p.text = false) : toBaselinePath (.text p.text) = .ok p := by
  obtain ⟨text, rfl⟩ := hpath
  rw [toBaselinePath, hvisible]
  change Except.ok (Path.ofString (Path.ofString text).text) = _
  rw [Path.ofString_text_ofString]

/-- A setting is checked with the value that it has. -/
theorem checkField_of_find? {α : Type} {name key : String} {entries : List (Scalar × Datum)}
    {d a : α} {v : Datum} {convert : Datum → Except Flaw α}
    (hfound : Datum.find? (.text key) entries = some v) (hconvert : convert v = .ok a) :
    checkField name key entries d convert = .ok a := by
  rw [checkField, hfound]
  exact mapError_eq_ok.2 hconvert

theorem checkBaseline_entries (hpaths : s.HasPaths) :
    checkBaseline ((baselineEntries s.baseline).map fun f => (.text f.1, .scalar f.2)) =
      .ok s.baseline := by
  have hpath := toBaselinePath_text hpaths.baseline hpaths.isVisible
  rw [checkBaseline]
  dsimp only
  rw [checkField_of_find? (a := s.baseline.enabled) rfl rfl, checkField_of_find? rfl hpath]
  rfl

theorem checkJournal_entries (hpaths : s.HasPaths) :
    checkJournal ((journalEntries s.journal).map fun f => (.text f.1, .scalar f.2)) =
      .ok s.journal := by
  have hfile := toOptionalPath_text hpaths.journal
  have hlevel := toThreshold_word s.journal.level
  rw [checkJournal]
  dsimp only
  rw [checkField_of_find? rfl hlevel, checkField_of_find? rfl hfile]
  rfl

/-- Settings are found again among their values. -/
theorem check_entries (hpaths : s.HasPaths) : check s.entries = .ok s := by
  have hbaseline : checkSection baselineSection "BaselineSettings" s.entries default.baseline
      checkBaseline = .ok s.baseline := checkBaseline_entries s hpaths
  have hjournal : checkSection journalSection "LoggingConfig" s.entries default.journal
      checkJournal = .ok s.journal := checkJournal_entries s hpaths
  rw [check, hbaseline, hjournal]
  rfl

end Entries

section Names

variable {entries lower upper : List (Scalar × Datum)}

/-- Whether the keys of a section can be part of names of variables, if it is a dictionary. -/
def hasWritableKeys : Datum → Bool
  | .dict inner => inner.all fun f => namesVariable f.1
  | _ => true

/-- Where the sections have names, their keys are all that may be too long or broken. -/
theorem namesWritable_eq (hkeys : HasSectionKeys entries) :
    namesWritable entries = entries.all fun e => hasWritableKeys e.2 := by
  induction entries with
  | nil => rfl
  | cons e rest ih =>
    obtain ⟨name, _, hname⟩ := hkeys e List.mem_cons_self
    have hwritable : namesVariable e.1 = true := by
      rw [hname]
      rfl
    have hrest := ih fun e he => hkeys e (List.mem_cons_of_mem _ he)
    obtain ⟨key, v⟩ := e
    rw [List.all_cons, ← hrest]
    cases v with
    | dict inner => simp only [namesWritable_dict, hwritable, Bool.true_and, hasWritableKeys]
    | _ =>
      simp only [namesWritable, variableParts, List.all_cons, List.all_nil, hwritable,
        Bool.and_true, hasWritableKeys]

theorem mem_keys_overlayEntries {e : Scalar × Datum} (he : e ∈ overlayEntries lower upper) :
    (∃ f ∈ lower, f.1 = e.1) ∨ ∃ f ∈ upper, f.1 = e.1 := by
  refine forall_mem_overlayEntries
    (P := fun e => (∃ f ∈ lower, f.1 = e.1) ∨ ∃ f ∈ upper, f.1 = e.1) ?_ ?_ ?_ e he
  · exact fun f hf => Or.inl ⟨f, hf, rfl⟩
  · exact fun f hf => Or.inr ⟨f, hf, rfl⟩
  · exact fun _ _ _ _ _ hold _ => hold

theorem hasSectionKeys_overlayEntries (hlower : HasSectionKeys lower)
    (hupper : HasSectionKeys upper) : HasSectionKeys (overlayEntries lower upper) := by
  intro e he
  rcases mem_keys_overlayEntries he with ⟨f, hf, hkey⟩ | ⟨f, hf, hkey⟩
  · exact hkey ▸ hlower f hf
  · exact hkey ▸ hupper f hf

theorem hasWritableKeys_overlay {old value : Datum} (hold : hasWritableKeys old = true)
    (hvalue : hasWritableKeys value = true) : hasWritableKeys (overlay old value) = true := by
  cases value with
  | dict upper =>
    cases old with
    | dict lower =>
      rw [overlay_dict, hasWritableKeys, List.all_eq_true]
      intro e he
      rcases mem_keys_overlayEntries he with ⟨f, hf, hkey⟩ | ⟨f, hf, hkey⟩
      · exact hkey ▸ List.all_eq_true.1 hold f hf
      · exact hkey ▸ List.all_eq_true.1 hvalue f hf
    | _ => simpa only [overlay] using hvalue
  | _ => simp only [overlay, hasWritableKeys]

theorem hasWritableKeys_overlayEntries (hlower : ∀ e ∈ lower, hasWritableKeys e.2 = true)
    (hupper : ∀ e ∈ upper, hasWritableKeys e.2 = true) :
    ∀ e ∈ overlayEntries lower upper, hasWritableKeys e.2 = true :=
  forall_mem_overlayEntries hlower hupper fun _ _ _ _ _ hold hvalue =>
    hasWritableKeys_overlay hold hvalue

/-- Laying such files over each other makes no key too long or broken. -/
theorem namesWritable_overlayEntries (hlowerKeys : HasSectionKeys lower)
    (hupperKeys : HasSectionKeys upper) (hlower : namesWritable lower = true)
    (hupper : namesWritable upper = true) :
    namesWritable (overlayEntries lower upper) = true := by
  rw [namesWritable_eq hlowerKeys, List.all_eq_true] at hlower
  rw [namesWritable_eq hupperKeys, List.all_eq_true] at hupper
  rw [namesWritable_eq (hasSectionKeys_overlayEntries hlowerKeys hupperKeys), List.all_eq_true]
  exact hasWritableKeys_overlayEntries hlower hupper

theorem hasSectionKeys_nil : HasSectionKeys [] := nofun

theorem hasSectionKeys_of_isPlain (hplain : IsPlain entries) : HasSectionKeys entries := by
  intro e he
  obtain ⟨name, hname⟩ := hplain.keyed.isText e he
  have hmem : (Scalar.text name, e.2) ∈ entries := by
    rw [← hname]
    exact he
  exact ⟨name, (hplain.section_ name e.2 hmem).1, hname⟩

theorem HasSectionKeys.isText (hkeys : HasSectionKeys entries) :
    ∀ e ∈ entries, ∃ s, e.1 = .text s :=
  fun e he => let ⟨name, _, hname⟩ := hkeys e he; ⟨name, hname⟩

theorem HasSectionKeys.all_isNamed (hkeys : HasSectionKeys entries) :
    entries.all isNamed = true := by
  rw [List.all_eq_true]
  intro e he
  obtain ⟨name, hname⟩ := hkeys.isText e he
  rw [isNamed, hname]

end Names

section Alone

variable {env : Environment} {entries : List (Scalar × Datum)}

/-- A name that starts with the prefix is one for settings. -/
theorem isForSettings_upper (tail : String) :
    isForSettings (Text.upper (variablePrefix ++ tail)) = true := by
  have hall : (variablePrefix.toList.all fun c => c.toNat < 0x80) = true := by decide +kernel
  have hascii : ∀ c ∈ variablePrefix.toList, c.toNat < 0x80 :=
    fun c hc => of_decide_eq_true (List.all_eq_true.1 hall c hc)
  have hsmall : variablePrefix.toList.map Char.toLower = (Text.lower variablePrefix).toList := by
    decide +kernel
  have hcapital : Text.upper variablePrefix = variablePrefix := by decide +kernel
  have hlower : (Text.lower (variablePrefix ++ Text.upper tail)).toList =
      Text.lowerFrom [] [] (variablePrefix.toList ++ (Text.upper tail).toList) := by
    rw [Text.lower, String.toList_ofList, String.toList_append]
  rw [isForSettings, List.isPrefixOf_iff_prefix, Text.upper_append, hcapital, hlower, ← hsmall]
  exact Text.prefix_lowerFrom_append hascii [] [] (Text.upper tail).toList

/-- Where there are no variables for settings, no setting has one. -/
theorem contains_upper_eq_false (henv : HasNoVariables env) (tail : String) :
    (env.map (·.1)).contains (Text.upper (variablePrefix ++ tail)) = false := by
  rw [← Bool.not_eq_true, List.contains_iff_mem]
  intro hmem
  obtain ⟨e, he, hname⟩ := List.mem_map.1 hmem
  have hnone := henv e he
  rw [hname, isForSettings_upper] at hnone
  cases hnone

/-- Then nothing of the files is left out. -/
theorem dropOverridden_eq (henv : HasNoVariables env) (entries : List (Scalar × Datum)) :
    dropOverridden (env.map (·.1)) variablePrefix entries = entries := by
  have hkeys : ∀ sectionName inner,
      dropKeys (env.map (·.1)) variablePrefix sectionName inner = inner := by
    intro sectionName inner
    rw [dropKeys, List.filter_eq_self]
    intro e _
    rw [String.append_assoc, String.append_assoc, contains_upper_eq_false henv]
    rfl
  fun_induction dropOverridden (env.map (·.1)) variablePrefix entries with
  | case1 => rfl
  | case2 sectionName inner rest ih => rw [hkeys, ih]
  | case3 sectionName value rest _ hset ih =>
    rw [contains_upper_eq_false henv] at hset
    cases hset
  | case4 sectionName value rest _ hset ih => rw [ih]

theorem nestedVariables_eq_nil {sectionName : String}
    (hnone : ∀ e ∈ env, keyIn sectionName e.1 = none) : nestedVariables sectionName env = [] := by
  induction env using List.reverseRecOn with
  | nil => rfl
  | append_singleton env e ih =>
    rw [nestedVariables_snoc, hnone e (List.mem_append_right _ List.mem_cons_self)]
    exact ih fun e he => hnone e (List.mem_append_left _ he)

theorem ofVariables_eq_nil (henv : HasNoVariables env) : ofVariables env = .ok [] := by
  have hnames : namesSettings env = true := by
    rw [namesSettings, List.all_eq_true]
    intro e he
    rw [henv e he]
    rfl
  have hnone : ∀ sectionName, sectionGiven? env sectionName = none := by
    intro sectionName
    have hnested : nestedVariables sectionName (smallNames env) = [] := by
      refine nestedVariables_eq_nil fun e he => keyIn_eq_none ?_
      have hkey : e.1 ∈ (smallNames env).map Prod.fst := List.mem_map_of_mem he
      rw [smallNames, Keyed.keys_ofList, List.mem_eraseDups, List.map_map] at hkey
      obtain ⟨f, hf, hlower⟩ := List.mem_map.1 hkey
      rw [← hlower]
      exact henv f hf
    rw [sectionGiven?, hnested]
    rfl
  rw [ofVariables_eq hnames, given]
  simp only [hnone, Option.map_none, List.filterMap_none]

theorem renamed_of_isSome
    (hall : ∀ name ∈ sectionNames, (Datum.find? (.text name) entries).isSome = true) :
    renamed entries = entries := by
  have hbaseline : baselineSection ∈ sectionNames := by decide
  have hjournal : journalSection ∈ sectionNames := by decide
  rw [renamed_eq, renamedTo.eq_def baselineSection, if_pos (hall _ hbaseline), renamedTo,
    if_pos (hall _ hjournal)]

end Alone

section Over

variable {entries lower : List (Scalar × Datum)} (s : Settings)

theorem isFlat_of_isPlain (hplain : IsPlain entries) : Yaml.IsFlat (.dict entries) := by
  intro entries' heq e he inner hinner f hf
  cases heq
  obtain ⟨name, hname⟩ := hplain.keyed.isText e he
  have hmem : (Scalar.text name, Datum.dict inner) ∈ entries := by
    rw [← hname, ← hinner]
    exact he
  obtain ⟨_, _, heq, hsection⟩ := hplain.section_ name _ hmem
  cases heq
  have hvalue := hsection.isMapping f hf
  cases hdatum : f.2 with
  | dict below =>
    rw [hdatum] at hvalue
    cases hvalue
  | _ => rfl

theorem hasSections_over (lower : List (Scalar × Datum)) :
    HasSections (overlayEntries lower s.entries) := by
  intro e he v hfound
  obtain ⟨inner, hinner⟩ := s.find?_entries (List.mem_map_of_mem (f := Prod.fst) he)
  rw [find?_overlayEntries s.isPlain_entries.keyed, hinner] at hfound
  cases hbelow : Datum.find? (.text e.1) lower with
  | none =>
    rw [hbelow] at hfound
    exact ⟨inner, (Option.some.inj hfound).symm⟩
  | some old =>
    rw [hbelow] at hfound
    cases old with
    | dict below => exact ⟨overlayEntries below inner, by rw [← overlay_dict]; exact
        (Option.some.inj hfound).symm⟩
    | _ => exact ⟨inner, by simpa [overlay] using hfound.symm⟩

/-- Laid over other entries, the sections have their names. -/
theorem renamed_over (lower : List (Scalar × Datum)) :
    renamed (overlayEntries lower s.entries) = overlayEntries lower s.entries := by
  apply renamed_of_isSome
  intro name hname
  obtain ⟨inner, hinner⟩ := s.find?_entries hname
  rw [find?_overlayEntries s.isPlain_entries.keyed, hinner]
  rfl

/-- Laid over other entries, each setting has its own value. -/
theorem raw?_over (lower : List (Scalar × Datum)) {n : String × String} (hn : n ∈ names) :
    raw? (overlayEntries lower s.entries) n.1 n.2 = raw? s.entries n.1 n.2 := by
  rw [raw?_overlayEntries s.isPlain_entries]
  exact Option.or_of_isSome (s.isSome_raw?_entries hn)

/-- Whatever settings are laid over, checking gives them. -/
theorem check_over (hpaths : s.HasPaths) (hlower : IsTextKeyed lower) :
    check (overlayEntries [] (overlayEntries lower s.entries)) = .ok s := by
  have hkeyed := isTextKeyed_overlayEntries hlower s.isPlain_entries.keyed.isText
  rw [nil_overlayEntries hkeyed.isKeyed, ← s.check_entries hpaths]
  apply check_congr
  · exact s.hasSections_over lower
  · exact fun e he v hv => s.isPlain_entries.find? hv |>.imp fun _ h => h.1
  · exact fun n hn => s.raw?_over lower hn

end Over

end Settings

end FindingLedger
