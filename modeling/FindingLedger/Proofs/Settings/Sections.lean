/-
Sections of settings that do not meet.

Flags for the journal reach the section of the journal alone.  Two command lines that differ
in such flags load the same settings of the baseline, whatever the files and the variables
say about either section.
-/
import FindingLedger.Proofs.Datum.Entries
import FindingLedger.Proofs.FileTree.Sound
import FindingLedger.Proofs.Path
import FindingLedger.Settings.Load

namespace FindingLedger

namespace Settings

/-- Whether a key names the section of the journal, whatever the case of its letters. -/
def isJournalKey : Scalar → Bool
  | .text s => Text.lower s == journalSection
  | _ => false

def offJournal (entries : List (Scalar × Datum)) : List (Scalar × Datum) :=
  entries.filter fun e => !isJournalKey e.1

/-- Whether a flag sets something in the section of the journal. -/
def isJournalFlag (flag : String) : Bool :=
  (flagTarget? flag).any fun target => target.1 == journalSection

theorem isText_of_sameAs {k key : Scalar} (hsame : k.sameAs key = true) :
    (∃ s, k = .text s ∧ key = .text s) ∨ isJournalKey k = false ∧ isJournalKey key = false := by
  by_cases hkey : ∃ s, key = .text s
  · obtain ⟨s, rfl⟩ := hkey
    exact Or.inl ⟨s, Scalar.sameAs_text.1 hsame, rfl⟩
  · right
    constructor
    · cases k with
      | text s => exact absurd ⟨s, Scalar.text_sameAs.1 hsame⟩ hkey
      | _ => rfl
    · cases key with
      | text s => exact absurd ⟨s, rfl⟩ hkey
      | _ => rfl

theorem isJournalKey_eq_of_sameAs {k key : Scalar} (hsame : k.sameAs key = true) :
    isJournalKey k = isJournalKey key := by
  rcases isText_of_sameAs hsame with ⟨s, rfl, rfl⟩ | ⟨hk, hkey⟩
  · rfl
  · rw [hk, hkey]

theorem offJournal_cons_journal {key : Scalar} (hkey : isJournalKey key = true) (value : Datum)
    (rest : List (Scalar × Datum)) : offJournal ((key, value) :: rest) = offJournal rest := by
  simp [offJournal, hkey]

theorem offJournal_cons_other {key : Scalar} (hkey : isJournalKey key = false) (value : Datum)
    (rest : List (Scalar × Datum)) :
    offJournal ((key, value) :: rest) = (key, value) :: offJournal rest := by
  simp [offJournal, hkey]

theorem find?_offJournal {key : Scalar} (hkey : isJournalKey key = false)
    (entries : List (Scalar × Datum)) :
    Datum.find? key (offJournal entries) = Datum.find? key entries := by
  rw [Datum.find?, Datum.find?, offJournal, List.find?_filter]
  congr 2
  funext e
  cases hsame : e.1.sameAs key with
  | false => simp
  | true => simp [isJournalKey_eq_of_sameAs hsame, hkey]

section Alter

variable {key : Scalar} (value : Datum) (f : Datum → Datum)

/-- What is done to the section of the journal is not seen elsewhere. -/
theorem offJournal_alter_journal (hkey : isJournalKey key = true)
    (entries : List (Scalar × Datum)) :
    offJournal (Datum.alter key value f entries) = offJournal entries := by
  induction entries with
  | nil => simp [Datum.alter, offJournal, hkey]
  | cons e rest ih =>
    obtain ⟨k, v⟩ := e
    rw [Datum.alter]
    by_cases hsame : k.sameAs key = true
    · rw [if_pos hsame]
      simp [offJournal, isJournalKey_eq_of_sameAs hsame, hkey]
    · rw [if_neg hsame, offJournal, List.filter_cons, ← offJournal, ih]
      rw [offJournal, offJournal, List.filter_cons]

theorem offJournal_alter_other (hkey : isJournalKey key = false)
    (entries : List (Scalar × Datum)) :
    offJournal (Datum.alter key value f entries) =
      Datum.alter key value f (offJournal entries) := by
  induction entries with
  | nil => simp [Datum.alter, offJournal, hkey]
  | cons e rest ih =>
    obtain ⟨k, v⟩ := e
    rw [Datum.alter]
    by_cases hsame : k.sameAs key = true
    · have hk : isJournalKey k = false := (isJournalKey_eq_of_sameAs hsame).trans hkey
      simp [hsame, offJournal, hk, Datum.alter]
    · rw [if_neg hsame]
      cases hk : isJournalKey k with
      | true => rw [offJournal_cons_journal hk, offJournal_cons_journal hk, ih]
      | false =>
        rw [offJournal_cons_other hk, offJournal_cons_other hk, ih, Datum.alter, if_neg hsame]

end Alter

/-- Laying entries over others is done section by section. -/
theorem offJournal_overlayEntries (lower upper : List (Scalar × Datum)) :
    offJournal (Datum.overlayEntries lower upper) =
      Datum.overlayEntries (offJournal lower) (offJournal upper) := by
  induction upper generalizing lower with
  | nil =>
    rw [Datum.overlayEntries_nil, offJournal, offJournal, List.filter_nil,
      Datum.overlayEntries_nil]
  | cons e rest ih =>
    obtain ⟨k, v⟩ := e
    rw [Datum.overlayEntries, ih]
    cases hk : isJournalKey k with
    | true => rw [offJournal_alter_journal _ _ hk, offJournal_cons_journal hk]
    | false =>
      rw [offJournal_alter_other _ _ hk, offJournal_cons_other hk, Datum.overlayEntries]

/-- Give an entry that names a section its proper name. -/
def namedAs (name : String) (e : Scalar × Datum) : Scalar × Datum :=
  match e.1 with
  | .text s => if Text.lower s == name then (.text name, e.2) else e
  | _ => e

/-- Give one section its proper name, unless an entry has it. -/
def renamedTo (name : String) (entries : List (Scalar × Datum)) : List (Scalar × Datum) :=
  if (Datum.find? (.text name) entries).isSome then entries else entries.map (namedAs name)

theorem renamed_eq (entries : List (Scalar × Datum)) :
    renamed entries = renamedTo journalSection (renamedTo baselineSection entries) := rfl

/-- Whether a key names a section, whatever the case of its letters. -/
def isKeyOf (name : String) : Scalar → Bool
  | .text s => Text.lower s == name
  | _ => false

theorem isJournalKey_eq (k : Scalar) : isJournalKey k = isKeyOf journalSection k := by
  cases k <;> rfl

/-- An entry with its proper name is still in its section. -/
theorem isKeyOf_namedAs {name : String} (hlower : Text.lower name = name) (section_ : String)
    (e : Scalar × Datum) : isKeyOf section_ (namedAs name e).1 = isKeyOf section_ e.1 := by
  obtain ⟨k, v⟩ := e
  cases k with
  | text s =>
    rw [namedAs]
    dsimp only
    by_cases hname : (Text.lower s == name) = true
    · rw [if_pos hname, isKeyOf, isKeyOf, hlower, eq_of_beq hname]
    · rw [if_neg hname]
  | _ => rfl

theorem namedAs_of_not_journal {e : Scalar × Datum} (he : isJournalKey e.1 = false) :
    namedAs journalSection e = e := by
  obtain ⟨k, v⟩ := e
  cases k with
  | text s =>
    have hname : ¬ (Text.lower s == journalSection) = true := by
      rw [show (Text.lower s == journalSection) = false from he]
      exact Bool.false_ne_true
    rw [namedAs]
    exact if_neg hname
  | _ => rfl

/-- Giving entries their names leaves each of them in its section. -/
theorem offJournal_map_namedAs {name : String} (hlower : Text.lower name = name)
    (entries : List (Scalar × Datum)) :
    offJournal (entries.map (namedAs name)) = (offJournal entries).map (namedAs name) := by
  rw [offJournal, List.filter_map, offJournal]
  congr 2
  funext e
  rw [Function.comp, isJournalKey_eq, isKeyOf_namedAs hlower, isJournalKey_eq]

theorem offJournal_renamed (entries : List (Scalar × Datum)) :
    offJournal (renamed entries) = renamedTo baselineSection (offJournal entries) := by
  have hbaseline : offJournal (renamedTo baselineSection entries) =
      renamedTo baselineSection (offJournal entries) := by
    rw [renamedTo, renamedTo, find?_offJournal (by decide)]
    split
    · rfl
    · exact offJournal_map_namedAs (by decide) entries
  rw [renamed_eq, ← hbaseline, renamedTo.eq_def journalSection]
  split
  · rfl
  · rw [offJournal_map_namedAs (by decide)]
    refine (List.map_congr_left fun e he => ?_).trans (List.map_id _)
    have hnot := (List.mem_filter.1 he).2
    exact namedAs_of_not_journal (by simpa using hnot)

/-- A flag that does not set anything in the section of the journal sets something in
another one. -/
theorem isJournalKey_of_flagTarget? {flag sectionName key : String} {kind : FlagKind}
    (htarget : flagTarget? flag = some (sectionName, key, kind)) :
    isJournalKey (.text sectionName) = isJournalFlag flag := by
  rw [isJournalFlag, htarget, Option.any_some]
  unfold flagTarget? at htarget
  split at htarget <;> cases htarget <;> decide

/-- Drop a flag of the journal, keep another one. -/
theorem filter_flag_cons (flag : String) (value : Datum) (rest : List (String × Datum)) :
    ((flag, value) :: rest).filter (fun e => !isJournalFlag e.1) =
      if isJournalFlag flag then rest.filter fun e => !isJournalFlag e.1
      else (flag, value) :: rest.filter fun e => !isJournalFlag e.1 := by
  rw [List.filter_cons]
  cases isJournalFlag flag <;> rfl

/-- The settings that flags stand for, but for those of the journal, are those that all
other flags stand for. -/
theorem offJournal_ofFlagsFrom {done result : List (Scalar × Datum)}
    {flags : List (String × Datum)} (hflags : ofFlagsFrom done flags = .ok result) :
    ofFlagsFrom (offJournal done) (flags.filter fun e => !isJournalFlag e.1) =
      .ok (offJournal result) := by
  fun_induction ofFlagsFrom done flags with
  | case1 done =>
    cases hflags
    rfl
  | case2 done flag rest ih =>
    rw [filter_flag_cons]
    split
    · exact ih hflags
    · rw [ofFlagsFrom]
      exact ih hflags
  | case3 done flag value rest htarget hvalue ih =>
    have hother : isJournalFlag flag = false := by rw [isJournalFlag, htarget, Option.any_none]
    rw [filter_flag_cons, hother, if_neg Bool.false_ne_true,
      ofFlagsFrom.eq_3 _ _ _ _ hvalue htarget]
    exact ih hflags
  | case4 done flag rest value sectionName key kind hvalue htarget ih ihskip =>
    obtain ⟨v?, hkind, hrest⟩ := bind_eq_ok.1 hflags
    rw [filter_flag_cons]
    -- A flag of the journal is dropped on one side, and sets what is left out on the other.
    cases hflag : isJournalFlag flag with
    | true =>
      have hkey := (isJournalKey_of_flagTarget? htarget).trans hflag
      cases v? with
      | none => exact ihskip hrest
      | some v =>
        have hset := ih v hrest
        rw [setIn, offJournal_alter_journal _ _ hkey] at hset
        exact hset
    | false =>
      have hkey := (isJournalKey_of_flagTarget? htarget).trans hflag
      rw [if_neg Bool.false_ne_true, ofFlagsFrom.eq_4 _ _ _ _ _ _ _ hvalue htarget, hkind]
      cases v? with
      | none => exact ihskip hrest
      | some v =>
        have hset := ih v hrest
        rw [setIn, offJournal_alter_other _ _ hkey] at hset
        exact hset

/-- Checking two things succeeds when both of them do. -/
theorem both_eq_ok {α β : Type} {a : Checked α} {b : Checked β} {r : α × β} :
    a.both b = .ok r ↔ a = .ok r.1 ∧ b = .ok r.2 := by
  obtain ⟨x, y⟩ := r
  cases a <;> cases b <;> simp [Checked.both]

/-- Where the check of all succeeds, that of each section does. -/
theorem checkSections_of_check {entries : List (Scalar × Datum)} {settings : Settings}
    (hcheck : check entries = .ok settings) :
    checkSection baselineSection "BaselineSettings" entries default.baseline checkBaseline =
        .ok settings.baseline ∧
      checkSection journalSection "LoggingConfig" entries default.journal checkJournal =
        .ok settings.journal := by
  obtain ⟨⟨b, j⟩, hboth, rfl⟩ := map_eq_ok.1 hcheck
  exact both_eq_ok.1 hboth

/-- What loading goes through: the files are read, flags are laid over them, and all of
this over the variables. -/
theorem load_eq_ok {t : FileTree} {cwd : Location} {home file : Path} {env : Environment}
    {flags : List (String × Datum)} {settings : Settings}
    (hload : load t cwd home env file flags = .ok settings) :
    ∃ user project set given,
      ofFile t cwd (home.join userFile) = .ok user ∧ ofFile t cwd file = .ok project ∧
      ofFlags flags = .ok set ∧ ofVariables env = .ok given ∧
      check (Datum.overlayEntries given (renamed (joined env
        (Datum.overlayEntries (Datum.overlayEntries [] user.entries) project.entries) set))) =
          .ok settings := by
  obtain ⟨user, huser, hload⟩ := bind_eq_ok.1 hload
  obtain ⟨project, hproject, hload⟩ := bind_eq_ok.1 hload
  split at hload
  · cases hload
  dsimp only at hload
  split at hload
  · cases hload
  obtain ⟨set, hset, hload⟩ := bind_eq_ok.1 hload
  rw [ofEntries] at hload
  split at hload
  · cases hload
  obtain ⟨given, hgiven, hload⟩ := bind_eq_ok.1 hload
  exact ⟨user, project, set, given, huser, hproject, mapError_eq_ok.1 hset,
    mapError_eq_ok.1 hgiven, mapError_eq_ok.1 hload⟩

theorem load_baseline_eq {t t' : FileTree} {cwd : Location} {home file : Path}
    {env : Environment} {flags flags' : List (String × Datum)} {settings settings' : Settings}
    (hload : load t cwd home env file flags = .ok settings)
    (hload' : load t' cwd home env file flags' = .ok settings')
    (huser : ofFile t' cwd (home.join userFile) = ofFile t cwd (home.join userFile))
    (hfile : ofFile t' cwd file = ofFile t cwd file)
    (hflags : (flags.filter fun e => !isJournalFlag e.1) =
      flags'.filter fun e => !isJournalFlag e.1) :
    settings.baseline = settings'.baseline := by
  obtain ⟨user, project, set, given, hu, hp, hs, hg, hcheck⟩ := load_eq_ok hload
  obtain ⟨user', project', set', given', hu', hp', hs', hg', hcheck'⟩ := load_eq_ok hload'
  cases hu.symm.trans (huser.symm.trans hu')
  cases hp.symm.trans (hfile.symm.trans hp')
  cases hg.symm.trans hg'
  have hset := offJournal_ofFlagsFrom hs
  rw [hflags, offJournal_ofFlagsFrom hs'] at hset
  have hsections : ∀ set : List (Scalar × Datum),
      Datum.find? (.text baselineSection) (Datum.overlayEntries given (renamed (joined env
        (Datum.overlayEntries (Datum.overlayEntries [] user.entries) project.entries) set))) =
      Datum.find? (.text baselineSection) (Datum.overlayEntries (offJournal given)
        (renamedTo baselineSection (Datum.overlayEntries
          (offJournal (dropOverridden (env.map (·.1)) variablePrefix
            (Datum.overlayEntries (Datum.overlayEntries [] user.entries) project.entries)))
          (offJournal set)))) := by
    intro set
    rw [← find?_offJournal (by decide), offJournal_overlayEntries, offJournal_renamed,
      joined, offJournal_overlayEntries]
  have hbaseline := (checkSections_of_check hcheck).1
  have hbaseline' := (checkSections_of_check hcheck').1
  rw [checkSection, hsections] at hbaseline hbaseline'
  rw [Except.ok.inj hset, hbaseline] at hbaseline'
  exact Except.ok.inj hbaseline'

theorem toPath_eq_ok {v : Datum} {p : Path} (hpath : toPath v = .ok p) :
    ∃ s, p = .ofString s := by
  unfold toPath at hpath
  split at hpath
  · exact ⟨_, (Except.ok.inj hpath).symm⟩
  · cases hpath
  · exact ⟨_, (Except.ok.inj hpath).symm⟩
  · cases hpath

theorem toBaselinePath_eq_ok {v : Datum} {p : Path} (hpath : toBaselinePath v = .ok p) :
    ∃ s, p = .ofString s := by
  unfold toBaselinePath at hpath
  split at hpath
  · split at hpath
    · cases hpath
    · exact ⟨_, (Except.ok.inj hpath).symm⟩
  · exact toPath_eq_ok hpath

theorem checkBaseline_eq_ok {entries : List (Scalar × Datum)} {b : BaselineSettings}
    (hcheck : checkBaseline entries = .ok b) :
    checkField baselineSection "enabled" entries default.baseline.enabled toBool =
        .ok b.enabled ∧
      checkField baselineSection "path" entries default.baseline.path toBaselinePath =
        .ok b.path := by
  obtain ⟨r, hboth, rfl⟩ := map_eq_ok.1 hcheck
  exact both_eq_ok.1 hboth

theorem exists_path_of_load {t : FileTree} {cwd : Location} {home file : Path}
    {env : Environment} {flags : List (String × Datum)} {settings : Settings}
    (hload : load t cwd home env file flags = .ok settings) :
    ∃ s, settings.baseline.path = .ofString s := by
  obtain ⟨_, _, _, _, _, _, _, _, hcheck⟩ := load_eq_ok hload
  have hsection := (checkSections_of_check hcheck).1
  rw [checkSection] at hsection
  split at hsection
  · rw [← Except.ok.inj hsection]
    exact ⟨_, rfl⟩
  · have hpath := (checkBaseline_eq_ok hsection).2
    rw [checkField] at hpath
    split at hpath
    · rw [← Except.ok.inj hpath]
      exact ⟨_, rfl⟩
    · exact toBaselinePath_eq_ok (mapError_eq_ok.1 hpath)
  · cases hsection

theorem ofString_path_of_load {t : FileTree} {cwd : Location} {home file : Path}
    {env : Environment} {flags : List (String × Datum)} {settings : Settings}
    (hload : load t cwd home env file flags = .ok settings) :
    Path.ofString settings.baseline.path.text = settings.baseline.path := by
  obtain ⟨text, htext⟩ := exists_path_of_load hload
  rw [htext, Path.ofString_text_ofString]

/-- A file of settings is read the same where its way and its bytes are the same. -/
theorem ofFile_eq {t t' : FileTree} {cwd : Location} {path : Path} {ids : List Nat}
    (hway : t.KeepsWay t' cwd path.text) (havoids : t.Avoids cwd path.text ids)
    (hbytes : ∀ id, id ∉ ids → t'.bytesOf id = t.bytesOf id) :
    ofFile t' cwd path = ofFile t cwd path := by
  have hholds : t'.holds cwd path.text = t.holds cwd path.text := by
    rw [FileTree.holds, FileTree.holds, FileTree.status_eq_of_keepsWay hway]
  rw [ofFile, ofFile]
  simp only [hholds, FileTree.read_eq hway havoids hbytes]

/-- Settings are loaded the same from files that are read the same. -/
theorem load_eq {t t' : FileTree} {cwd : Location} {home file : Path} (env : Environment)
    (flags : List (String × Datum))
    (huser : ofFile t' cwd (home.join userFile) = ofFile t cwd (home.join userFile))
    (hfile : ofFile t' cwd file = ofFile t cwd file) :
    load t' cwd home env file flags = load t cwd home env file flags := by
  rw [load, load, huser, hfile]

end Settings

end FindingLedger
