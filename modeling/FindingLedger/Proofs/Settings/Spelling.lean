/-
Variables that files take precedence over.

A variable may be spelled in letters of either case, and one variable may hold a whole section
in JSON.  Files are asked to leave out only settings that have a variable of their own, in
capital letters.  So a setting is the one that variables alone give where it has such a
variable or where no file gives it; a file that gives it takes precedence over a variable of
any other spelling.
-/
import FindingLedger.Proofs.Settings.Precedence
import FindingLedger.Proofs.Text.CaseMap

namespace FindingLedger

namespace Settings

open Datum

def setting? (s : Settings) (sectionName key : String) : Option Scalar :=
  (s.sections.lookup sectionName).bind (·.lookup key)

section Check

variable {entries entries' : List (Scalar × Datum)} {s s' : Settings}

theorem exists_dict_of_checkSection {α : Type} {name model : String} {fallback a : α}
    {convert : List (Scalar × Datum) → Checked α}
    (hcheck : checkSection name model entries fallback convert = .ok a) {v : Datum}
    (hfound : find? (.text name) entries = some v) : ∃ inner, v = .dict inner := by
  rw [checkSection, hfound] at hcheck
  cases v with
  | dict inner => exact ⟨inner, rfl⟩
  | _ => cases hcheck

theorem hasSections_of_check (hcheck : check entries = .ok s) : HasSections entries := by
  obtain ⟨hbaseline, hjournal⟩ := checkSections_of_check hcheck
  intro e he v hfound
  rcases List.mem_cons.1 he with rfl | he
  · exact exists_dict_of_checkSection hbaseline hfound
  · obtain rfl := List.mem_singleton.1 he
    exact exists_dict_of_checkSection hjournal hfound

theorem sections_of_check (hcheck : check entries = .ok s) :
    checkBaseline (sectionOf entries baselineSection) = .ok s.baseline ∧
      checkJournal (sectionOf entries journalSection) = .ok s.journal := by
  rw [check_eq (hasSections_of_check hcheck)] at hcheck
  obtain ⟨⟨b, j⟩, hboth, rfl⟩ := map_eq_ok.1 hcheck
  exact both_eq_ok.1 hboth

theorem checkField_sectionOf {α : Type} {name key : String}
    (hraw : raw? entries name key = raw? entries' name key) (d : α)
    (convert : Datum → Except Flaw α) :
    checkField name key (sectionOf entries name) d convert =
      checkField name key (sectionOf entries' name) d convert := by
  rw [checkField, checkField, ← raw?_eq, ← raw?_eq, hraw]

theorem checkJournal_eq_ok {j : JournalSettings} (hcheck : checkJournal entries = .ok j) :
    checkField journalSection "level" entries default.journal.level toThreshold = .ok j.level ∧
      checkField journalSection "file" entries default.journal.file toOptionalPath =
        .ok j.file ∧
      checkField journalSection "json_format" entries default.journal.jsonFormat toBool =
        .ok j.jsonFormat ∧
      checkField journalSection "max_file_size_mb" entries default.journal.maxFileSize toInt =
        .ok j.maxFileSize ∧
      checkField journalSection "backup_count" entries default.journal.backupCount toInt =
        .ok j.backupCount := by
  obtain ⟨r, hboth, rfl⟩ := map_eq_ok.1 hcheck
  obtain ⟨hlevel, hboth⟩ := both_eq_ok.1 hboth
  obtain ⟨hfile, hboth⟩ := both_eq_ok.1 hboth
  obtain ⟨hjson, hboth⟩ := both_eq_ok.1 hboth
  exact ⟨hlevel, hfile, hjson, both_eq_ok.1 hboth⟩

/-- The same raw value gives the same setting. -/
theorem field_eq {α : Type} {name key : String} {d a a' : α} {convert : Datum → Except Flaw α}
    (hraw : raw? entries name key = raw? entries' name key)
    (hfield : checkField name key (sectionOf entries name) d convert = .ok a)
    (hfield' : checkField name key (sectionOf entries' name) d convert = .ok a') : a = a' := by
  rw [checkField_sectionOf hraw, hfield'] at hfield
  exact (Except.ok.inj hfield).symm

theorem names_eq : names =
    [("baseline", "enabled"), ("baseline", "path"), ("logging", "level"), ("logging", "file"),
      ("logging", "json_format"), ("logging", "max_file_size_mb"), ("logging", "backup_count")] :=
  rfl

/-- Settings that were checked differ only where raw values do. -/
theorem setting?_eq_of_raw? (hcheck : check entries = .ok s) (hcheck' : check entries' = .ok s')
    {n : String × String} (hn : n ∈ names)
    (hraw : raw? entries n.1 n.2 = raw? entries' n.1 n.2) :
    s.setting? n.1 n.2 = s'.setting? n.1 n.2 := by
  obtain ⟨hb, hj⟩ := sections_of_check hcheck
  obtain ⟨hb', hj'⟩ := sections_of_check hcheck'
  obtain ⟨henabled, hpath⟩ := checkBaseline_eq_ok hb
  obtain ⟨henabled', hpath'⟩ := checkBaseline_eq_ok hb'
  obtain ⟨hlevel, hfile, hjson, hsize, hcount⟩ := checkJournal_eq_ok hj
  obtain ⟨hlevel', hfile', hjson', hsize', hcount'⟩ := checkJournal_eq_ok hj'
  simp only [names_eq, List.mem_cons, List.not_mem_nil, or_false] at hn
  rcases hn with rfl | rfl | rfl | rfl | rfl | rfl | rfl
  · exact congrArg (fun b => some (Scalar.bool b)) (field_eq hraw henabled henabled')
  · exact congrArg (fun p => some (Scalar.text p.text)) (field_eq hraw hpath hpath')
  · exact congrArg (fun l => some (Scalar.text l.word)) (field_eq hraw hlevel hlevel')
  · exact congrArg (fun f => some ((f.map fun p => Scalar.text p.text).getD .null))
      (field_eq hraw hfile hfile')
  · exact congrArg (fun b => some (Scalar.bool b)) (field_eq hraw hjson hjson')
  · exact congrArg (fun i => some (Scalar.int i)) (field_eq hraw hsize hsize')
  · exact congrArg (fun i => some (Scalar.int i)) (field_eq hraw hcount hcount')

end Check

section Left

variable {vars : List String} {entries lower upper : List (Scalar × Datum)}

/-- The letters of sections are plain, so their case tells nothing about their variables. -/
theorem upper_eq_of_isKeyOf {name s : String} (hname : name ∈ sectionNames)
    (hkey : isKeyOf name (.text s) = true) : Text.upper s = Text.upper name := by
  have hplain : ∀ name ∈ sectionNames, name.toList.all Text.isPlainSmall = true := by decide
  exact Text.upper_eq_of_lower_eq (hplain name hname) (eq_of_beq hkey)

theorem variableName_eq_of_isKeyOf {name s : String} (hname : name ∈ sectionNames)
    (hkey : isKeyOf name (.text s) = true) (key : String) :
    variableName s key = variableName name key := by
  simp only [variableName, Text.upper_append, upper_eq_of_isKeyOf hname hkey]

/-- Whether the value of a section leaves a setting to the variables: a dictionary that does not
give it, or whose setting has its own variable, and any other value if the section has one. -/
def leavesTo (vars : List String) (n : String × String) : Datum → Bool
  | .dict inner => vars.contains (variableName n.1 n.2) || (find? (.text n.2) inner).isNone
  | _ => vars.contains (Text.upper (variablePrefix ++ n.1))

/-- What is not dropped is a dictionary, without the settings that have variables, or another
value that has none. -/
theorem mem_dropOverridden {front : String} {e : Scalar × Datum}
    (he : e ∈ dropOverridden vars front entries) :
    ∃ d ∈ entries, d.1 = e.1 ∧
      ((∃ inner, d.2 = .dict inner ∧ e.2 = .dict (dropKeys vars front e.1 inner)) ∨
        (∀ inner, d.2 ≠ .dict inner) ∧ d.2 = e.2 ∧
          vars.contains (Text.upper (front ++ e.1.display)) = false) := by
  fun_induction dropOverridden vars front entries with
  | case1 => exact absurd he List.not_mem_nil
  | case2 sectionName inner rest ih =>
    rcases List.mem_cons.1 he with rfl | he
    · exact ⟨_, List.mem_cons_self, rfl, Or.inl ⟨inner, rfl, rfl⟩⟩
    · obtain ⟨d, hd, hleft⟩ := ih he
      exact ⟨d, List.mem_cons_of_mem _ hd, hleft⟩
  | case3 sectionName value rest hvalue hset ih =>
    obtain ⟨d, hd, hleft⟩ := ih he
    exact ⟨d, List.mem_cons_of_mem _ hd, hleft⟩
  | case4 sectionName value rest hvalue hunset ih =>
    rcases List.mem_cons.1 he with rfl | he
    · exact ⟨_, List.mem_cons_self, rfl, Or.inr ⟨hvalue, rfl, Bool.eq_false_iff.2 hunset⟩⟩
    · obtain ⟨d, hd, hleft⟩ := ih he
      exact ⟨d, List.mem_cons_of_mem _ hd, hleft⟩

/-- Entries that have their proper names are in the same sections as before. -/
theorem mem_renamed {e : Scalar × Datum} (he : e ∈ renamed entries) :
    ∃ d ∈ entries, d.2 = e.2 ∧ ∀ name, isKeyOf name e.1 = isKeyOf name d.1 := by
  have hone : ∀ name ∈ sectionNames, ∀ (entries : List (Scalar × Datum)) (e : Scalar × Datum),
      e ∈ renamedTo name entries →
        ∃ d ∈ entries, d.2 = e.2 ∧ ∀ other, isKeyOf other e.1 = isKeyOf other d.1 := by
    intro name hname entries e he
    rw [renamedTo] at he
    split at he
    · exact ⟨e, he, rfl, fun _ => rfl⟩
    · obtain ⟨d, hd, rfl⟩ := List.mem_map.1 he
      refine ⟨d, hd, ?_, fun other => isKeyOf_namedAs (lower_sectionName hname) other d⟩
      rw [namedAs]
      split
      · split <;> rfl
      · rfl
  rw [renamed_eq] at he
  obtain ⟨d, hd, hvalue, hkey⟩ := hone journalSection (by decide) _ e he
  obtain ⟨d', hd', hvalue', hkey'⟩ := hone baselineSection (by decide) _ d hd
  exact ⟨d', hd', hvalue'.trans hvalue, fun name => (hkey name).trans (hkey' name)⟩

/-- What is left of entries that leave a setting to the variables does not give it. -/
theorem lacks_of_leavesTo {n : String × String} (hname : n.1 ∈ sectionNames)
    (hentries : ∀ e ∈ entries, isKeyOf n.1 e.1 = true → leavesTo vars n e.2 = true)
    {e : Scalar × Datum} (he : e ∈ renamed (dropOverridden vars variablePrefix entries))
    (hkey : e.1 = .text n.1) :
    ∃ inner, e.2 = .dict inner ∧ find? (.text n.2) inner = none := by
  obtain ⟨d, hd, hvalue, hsame⟩ := mem_renamed he
  obtain ⟨f, hf, hfkey, hleft⟩ := mem_dropOverridden hd
  have hdkey : isKeyOf n.1 d.1 = true := by
    rw [← hsame, hkey, isKeyOf, lower_sectionName hname, beq_self_eq_true]
  have hleaves := hentries f hf (hfkey ▸ hdkey)
  obtain ⟨k, v⟩ := d
  cases k with
  | text s =>
    rcases hleft with ⟨inner, hinner, hdropped⟩ | ⟨hnot, _, hunset⟩
    · refine ⟨_, hvalue.symm.trans hdropped, ?_⟩
      rw [hinner, leavesTo, Bool.or_eq_true_iff, Option.isNone_iff_eq_none] at hleaves
      rw [find?_dropKeys, variableName_eq_of_isKeyOf hname hdkey]
      rcases hleaves with hset | hnone
      · rw [if_pos hset]
      · rw [hnone, ite_self]
    · have hset : vars.contains (Text.upper (variablePrefix ++ n.1)) = true := by
        unfold leavesTo at hleaves
        split at hleaves
        · next inner heq => exact absurd heq (hnot inner)
        · exact hleaves
      rw [Text.upper_append, ← upper_eq_of_isKeyOf hname hdkey, ← Text.upper_append] at hset
      exact absurd (hset.symm.trans hunset) (by decide)
  | _ => cases hdkey

/-- Sections that do not give a setting leave the one below as it is. -/
theorem raw?_overlayEntries_of_lacks {name key : String}
    (hlower : ∀ v, find? (.text name) lower = some v → ∃ inner, v = .dict inner)
    (hupper : ∀ e ∈ upper, e.1 = .text name →
      ∃ inner, e.2 = .dict inner ∧ find? (.text key) inner = none) :
    raw? (overlayEntries lower upper) name key = raw? lower name key := by
  -- The section of the name stays a dictionary, which the next change of it needs.
  refine (overlayEntries_induction (P := fun done =>
    (∀ v, find? (.text name) done = some v → ∃ inner, v = .dict inner) ∧
      raw? done name key = raw? lower name key) ⟨hlower, rfl⟩ ?_).2
  rintro k v done hmem ⟨hdicts, hraw⟩
  rw [← hraw]
  by_cases hk : k = .text name
  · subst hk
    obtain ⟨inner, rfl, hnone⟩ := hupper _ hmem rfl
    have hfound := find?_alter_self (fun old => overlay old (.dict inner)) name (.dict inner) done
    cases hbelow : find? (.text name) done with
    | none =>
      rw [hbelow] at hfound
      constructor
      · intro v hv
        rw [hfound] at hv
        exact ⟨inner, (Option.some.inj hv).symm⟩
      · rw [raw?, raw?, hfound, hbelow]
        exact hnone
    | some below =>
      obtain ⟨below, rfl⟩ := hdicts below hbelow
      rw [hbelow, Option.map_some, Option.getD_some, overlay_dict] at hfound
      constructor
      · intro v hv
        rw [hfound] at hv
        exact ⟨_, (Option.some.inj hv).symm⟩
      · rw [raw?, raw?, hfound, hbelow]
        exact find?_overlayEntries_of_none hnone
  · have hother := find?_alter_of_ne (fun old => overlay old v) hk v done
    constructor
    · intro w hw
      exact hdicts w (hother.symm.trans hw)
    · rw [raw?, raw?, hother]

end Left

section Variables

theorem ofEntries_nil {env : Environment} {alone : Settings}
    (halone : ofEntries env [] = .ok alone) :
    ∃ said, ofVariables env = .ok said ∧ check said = .ok alone := by
  rw [ofEntries] at halone
  obtain ⟨said, hsaid, hcheck⟩ := bind_eq_ok.1 halone
  refine ⟨said, mapError_eq_ok.1 hsaid, ?_⟩
  rw [renamed_of_isPlain isPlain_nil, overlayEntries_nil] at hcheck
  exact mapError_eq_ok.1 hcheck

/-- A setting is the one that variables alone give where the files leave it to them: no section
gives it, or its own variable is set, in capital letters. -/
theorem setting?_of_load {t : FileTree} {cwd : Location} {home file : Path} {env : Environment}
    {user project : Sheet} {alone settings : Settings} {n : String × String}
    (huser : ofFile t cwd (home.join userFile) = .ok user)
    (hproject : ofFile t cwd file = .ok project)
    (halone : ofEntries env [] = .ok alone) (hload : load t cwd home env file [] = .ok settings)
    (hn : n ∈ names)
    (hfiles : ∀ e ∈ filesOf user project, isKeyOf n.1 e.1 = true →
      leavesTo (env.map (·.1)) n e.2 = true) :
    settings.setting? n.1 n.2 = alone.setting? n.1 n.2 := by
  obtain ⟨said, hsaid, hcheck⟩ := ofEntries_nil halone
  obtain ⟨user', project', set, said', huser', hproject', hset, hsaid', hcheck'⟩ :=
    load_eq_ok hload
  cases huser.symm.trans huser'
  cases hproject.symm.trans hproject'
  cases hsaid.symm.trans hsaid'
  cases hset
  obtain ⟨e, he, hfield⟩ := List.mem_flatMap.1 hn
  obtain ⟨f, _, rfl⟩ := List.mem_map.1 hfield
  apply setting?_eq_of_raw? hcheck' hcheck hn
  rw [joined, overlayEntries_nil]
  apply raw?_overlayEntries_of_lacks (hasSections_of_check hcheck e he)
  intro e' he' hkey
  exact lacks_of_leavesTo (List.mem_map_of_mem he) hfiles he' hkey

/-- A file of settings that gives the path of the baseline. -/
def oneFile : FileTree where
  nodes := [(["p.yml"], .file 0)]
  contents := [(0, "baseline:\n path: u.xml\n".toUTF8)]
  next := 1

def loadOneFile (env : Environment) : Except LoadFault Settings :=
  load oneFile [] (.ofString "home") env (.ofString "p.yml") []

/-- A variable in small letters counts for a setting that no file gives. -/
theorem setting?_of_load_oneFile :
    (loadOneFile [("lintbaseline_logging__file", "v.log")]).toOption.bind
      (·.setting? "logging" "file") = some (.text "v.log") := by
  have huser := eq_ok_getD (x := ofFile oneFile [] ((Path.ofString "home").join userFile))
    .blank (by decide +kernel)
  have hproject := eq_ok_getD (x := ofFile oneFile [] (.ofString "p.yml"))
    .blank (by decide +kernel)
  have halone := eq_ok_getD (x := ofEntries [("lintbaseline_logging__file", "v.log")] []) default
    (by decide +kernel)
  have hload := eq_ok_getD (x := loadOneFile [("lintbaseline_logging__file", "v.log")]) default
    (by decide +kernel)
  have hsame := setting?_of_load (n := ("logging", "file")) huser hproject halone hload
    (by decide +kernel) (by decide +kernel)
  rw [hload]
  exact hsame.trans (by decide +kernel)

/-- What would hold if variables took precedence over files in any spelling: a setting that
variables give is the one that they alone give, whatever the files say. -/
def SpellingIsFree : Prop :=
  ∀ (t : FileTree) (cwd : Location) (home file : Path) (env : Environment)
    (said : List (Scalar × Datum)) (alone settings : Settings) (n : String × String),
    n ∈ names → ofVariables env = .ok said → (raw? said n.1 n.2).isSome = true →
    ofEntries env [] = .ok alone → load t cwd home env file [] = .ok settings →
    settings.setting? n.1 n.2 = alone.setting? n.1 n.2

/-- A file takes precedence over a variable in small letters. -/
theorem not_spellingIsFree : ¬ SpellingIsFree := by
  intro hfree
  have hsaid := eq_ok_getD (x := ofVariables [("lintbaseline_baseline__path", "v.xml")]) []
    (by decide +kernel)
  have halone := eq_ok_getD (x := ofEntries [("lintbaseline_baseline__path", "v.xml")] []) default
    (by decide +kernel)
  have hload := eq_ok_getD (x := loadOneFile [("lintbaseline_baseline__path", "v.xml")]) default
    (by decide +kernel)
  have hsame := hfree _ _ _ _ _ _ _ _ ("baseline", "path") (by decide +kernel) hsaid
    (by decide +kernel) halone hload
  revert hsame
  decide +kernel

-- So it does over a variable that holds the section in JSON.
example :
    let env := [("LINTBASELINE_BASELINE", "\x7b\"path\": \"v.xml\"\x7d")]
    (ofEntries env []).toOption.bind (·.setting? "baseline" "path") = some (.text "v.xml") ∧
      (loadOneFile env).toOption.bind (·.setting? "baseline" "path") = some (.text "u.xml") := by
  decide +kernel

end Variables

end Settings

end FindingLedger
