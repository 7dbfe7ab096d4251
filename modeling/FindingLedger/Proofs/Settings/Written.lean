/-
Settings that are written to a file and loaded again.

What is written is read back as the entries that give every setting.  These hide the file of the
user, so that loading gives the settings that were written, as long as no variables or flags say
otherwise and no key of the user is too long to be written or broken.
-/
import FindingLedger.Proofs.FileTree.Written
import FindingLedger.Proofs.Settings.Hiding
import FindingLedger.Proofs.Text.Utf8

namespace FindingLedger

namespace Settings

open Datum

def bytes (s : Settings) : ByteArray := (String.ofList s.document).toUTF8

/-- Reading the file gives the values that were written, where these have texts. -/
def IsReadBack (s : Settings) : Prop :=
  s.isWritable = true →
    (Yaml.Source.ofBytes s.bytes.toList >>= Yaml.read?).map (Option.map Yaml.Assembly.value) =
      .ok (some (.dict s.entries))

section Read

/-- The bytes of a text have its characters, with line ends of one kind. -/
theorem ofBytes_encode (text : String) : Yaml.Source.ofBytes (Utf8.encode text) =
    Yaml.Source.ofText (Utf8.plainLines text.toList) none := by
  rw [Yaml.Source.ofBytes, Utf8.decodeLines, Utf8.decode_encode]
  rfl

def plainSetting? : Scalar × Datum → Option (String × Scalar)
  | (.text key, .scalar v) => some (key, v)
  | _ => none

def plainSection? : Scalar × Datum → Option (String × List (String × Scalar))
  | (.text name, .dict inner) => (inner.mapM plainSetting?).map (name, ·)
  | _ => none

def plainSections? : Datum → Option (List (String × List (String × Scalar)))
  | .dict entries => entries.mapM plainSection?
  | _ => none

theorem eq_map_of_mapM {α β : Type} {f : α → Option β} {g : β → α}
    (hinverse : ∀ a b, f a = some b → a = g b) {as : List α} {bs : List β}
    (hsome : as.mapM f = some bs) : as = bs.map g := by
  induction as generalizing bs with
  | nil =>
    cases hsome
    rfl
  | cons a rest ih =>
    rw [List.mapM_cons] at hsome
    obtain ⟨b, hb, hsome⟩ := Option.bind_eq_some_iff.1 hsome
    obtain ⟨below, hbelow, hsome⟩ := Option.bind_eq_some_iff.1 hsome
    cases hsome
    rw [List.map_cons, ← hinverse a b hb, ← ih hbelow]

theorem eq_of_plainSetting? (e : Scalar × Datum) (f : String × Scalar)
    (hsome : plainSetting? e = some f) : e = (.text f.1, .scalar f.2) := by
  rw [plainSetting?.eq_def] at hsome
  split at hsome
  · cases hsome
    rfl
  · cases hsome

theorem eq_of_plainSection? (e : Scalar × Datum) (f : String × List (String × Scalar))
    (hsome : plainSection? e = some f) :
    e = (.text f.1, .dict (f.2.map fun g => (.text g.1, .scalar g.2))) := by
  rw [plainSection?.eq_def] at hsome
  split at hsome
  · next name inner =>
    obtain ⟨settings, hsettings, rfl⟩ := Option.map_eq_some_iff.1 hsome
    rw [eq_map_of_mapM eq_of_plainSetting? hsettings]
  · cases hsome

theorem isReadBack_of_plainSections? {s : Settings}
    (hsections :
      (Yaml.Source.ofText (Utf8.plainLines s.document) none >>= Yaml.read?).toOption.join.bind
        (fun a => plainSections? a.value) = some s.sections) :
    s.IsReadBack := by
  intro _
  obtain ⟨a, hread, hsections⟩ := Option.bind_eq_some_iff.1 hsections
  have hread := toOption_eq_some.1 (Option.join_eq_some_iff.1 hread)
  have hbytes : s.bytes.toList = Utf8.encode (String.ofList s.document) := rfl
  rw [hbytes, ofBytes_encode, String.toList_ofList, hread]
  cases hvalue : a.value with
  | dict sections =>
    rw [hvalue] at hsections
    rw [Settings.entries, ← eq_map_of_mapM eq_of_plainSection? hsections, ← hvalue]
    rfl
  | _ =>
    rw [hvalue] at hsections
    cases hsections

end Read

section Load

variable {t t' : FileTree} {cwd : Location} {home file : Path} {env : Environment} {user : Sheet}
  {s : Settings}

theorem ofFile_of_write (hwritable : s.isWritable = true) (hreads : s.IsReadBack)
    (hwrite : t.write cwd file.text s.bytes = .ok t') :
    ∃ a, ofFile t' cwd file = .ok ⟨s.entries, some a⟩ ∧ a.value = .dict s.entries := by
  obtain ⟨a?, hread, hsome⟩ := map_eq_ok.1 (hreads hwritable)
  obtain ⟨a, ha, hvalue⟩ := Option.map_eq_some_iff.1 hsome
  obtain ⟨hholds, hbytes⟩ := FileTree.status_of_write hwrite
  subst ha
  refine ⟨a, ?_, hvalue⟩
  have hbound : ofFile t' cwd file = ofBytes file.text s.bytes.toList := by
    rw [ofFile, hholds, hbytes]
  rw [hbound, ofBytes, hread]
  change (if !a.value.truthy then _ else _) = _
  rw [hvalue]
  rfl

/-- Settings can be laid over every file: their sections hold scalars alone. -/
theorem isEndlessUnder_written {a : Yaml.Assembly} (user : Sheet)
    (hvalue : a.value = .dict s.entries) : user.isEndlessUnder ⟨s.entries, some a⟩ = false := by
  rw [Sheet.isEndlessUnder]
  split
  · next b c _ hc =>
    cases hc
    exact Yaml.isEndlessUnder_eq_false
      (Or.inr (hvalue ▸ isFlat_of_isPlain s.isPlain_entries))
  · rfl

/-- Settings are only loaded where all names are texts. -/
theorem namesWritable_of_load {flags : List (String × Datum)} {project : Sheet}
    (huser : ofFile t cwd (home.join userFile) = .ok user)
    (hproject : ofFile t cwd file = .ok project) (hload : load t cwd home env file flags = .ok s) :
    namesWritable (filesOf user project) = true := by
  rw [load, huser, hproject] at hload
  dsimp only [bind, Except.bind] at hload
  rw [filesOf]
  by_contra hnames
  rw [Bool.not_eq_true] at hnames
  rw [hnames] at hload
  split at hload <;> cases hload

/-- Settings that are written to a file are loaded from it: where no variables or flags say
anything, they hide the file of the user, whatever it holds in its sections, but for keys that
no name of a variable can be made with. -/
theorem load_written (hpaths : s.HasPaths) (hwritable : s.isWritable = true)
    (hreads : s.IsReadBack) (hwrite : t.write cwd file.text s.bytes = .ok t')
    (huser : ofFile t' cwd (home.join userFile) = .ok user) (hkeys : HasSectionKeys user.entries)
    (hnames : namesWritable user.entries = true) (henv : HasNoVariables env) :
    load t' cwd home env file [] = .ok s := by
  obtain ⟨a, hproject, hvalue⟩ := ofFile_of_write hwritable hreads hwrite
  have hplain := s.isPlain_entries
  have hsectionKeys := hasSectionKeys_of_isPlain hplain
  have hlowerKeys := hasSectionKeys_overlayEntries hasSectionKeys_nil hkeys
  have hlower := isTextKeyed_overlayEntries isTextKeyed_nil hkeys.isText
  have hlowerNames := namesWritable_overlayEntries hasSectionKeys_nil hkeys rfl hnames
  have hfilesNames := namesWritable_overlayEntries hlowerKeys hsectionKeys hlowerNames
    (namesWritable_of_isPlain hplain)
  have hnamed := (hasSectionKeys_overlayEntries hlowerKeys hsectionKeys).all_isNamed
  rw [load_of_ok huser hproject (isEndlessUnder_written user hvalue) hfilesNames
    (rfl : ofFlags [] = .ok []), joined, overlayEntries_nil, dropOverridden_eq henv, ofEntries,
    filesOf, hnamed, ofVariables_eq_nil henv, s.renamed_over]
  change (check (overlayEntries [] (overlayEntries _ s.entries))).mapError LoadFault.invalid = _
  rw [s.check_over hpaths hlower]
  rfl

theorem hasPaths_default : default.HasPaths := ⟨⟨_, rfl⟩, by decide, nofun⟩

theorem isWritable_default : default.isWritable = true := by decide +kernel

theorem isReadBack_default : default.IsReadBack :=
  isReadBack_of_plainSections? (by decide +kernel)

def onlyUser (text : String) : FileTree where
  nodes := [(["home"], .directory), (["home", ".lintbaseline"], .directory),
    (["home", ".lintbaseline", "config.yml"], .file 0), (["work"], .directory)]
  contents := [(0, text.toUTF8)]
  next := 1

/-- The file of a project beside that of the user. -/
def userAnd (text : String) (s : Settings) : FileTree where
  nodes := (onlyUser text).nodes ++ [(["work", ".lintbaseline.yml"], .file 1)]
  contents := (onlyUser text).contents ++ [(1, s.bytes)]
  next := 2

theorem write_onlyUser (text : String) (s : Settings) :
    (onlyUser text).write [] (Path.ofString "work/.lintbaseline.yml").text s.bytes =
      .ok (userAnd text s) := by
  rfl

theorem ofFile_userAnd (text : String) (s : Settings) :
    ofFile (userAnd text s) [] ((Path.ofString "home").join userFile) =
      ofBytes ((Path.ofString "home").join userFile).text (Utf8.encode text) := by
  rfl

/-- Settings whose texts have blanks or stand for no. -/
def unusual : Settings :=
  ⟨⟨false, .ofString "known issues.xml"⟩, ⟨.error, some (.ofString "no"), true, -3, 40⟩⟩

/-- A number as a section, a list as a path, a level that there is not, and more. -/
def oddUser : String := "baseline: 5\nlogging:\n  level: LOUD\n  file: [1]\n  7: x\n"

/-- An odd file of the user is hidden. -/
theorem load_written_unusual :
    load (userAnd oddUser unusual) [] (.ofString "home") [("HOME", "/home")]
      (.ofString "work/.lintbaseline.yml") [] = .ok unusual := by
  have huser := eq_ok_getD
    (x := ofFile (userAnd oddUser unusual) [] ((Path.ofString "home").join userFile)) .blank
    (by decide +kernel)
  exact load_written ⟨⟨_, rfl⟩, by decide, fun p hp => ⟨"no", (Option.some.inj hp).symm⟩⟩
    (by decide +kernel) (isReadBack_of_plainSections? (by decide +kernel))
    (write_onlyUser oddUser unusual) huser (by decide +kernel) (by decide +kernel) (by decide)

/-- Whether written settings hide every file of the user whose names are of a kind. -/
def HidesEveryUser (isKind : Scalar → Bool) : Prop :=
  ∀ (t t' : FileTree) (cwd : Location) (home file : Path) (env : Environment) (user : Sheet)
    (s : Settings), s.HasPaths → s.isWritable = true → s.IsReadBack →
    t.write cwd file.text s.bytes = .ok t' → ofFile t' cwd (home.join userFile) = .ok user →
    HasSectionKeys user.entries →
    (∀ parts ∈ variableParts user.entries, ∀ part ∈ parts, isKind part = true) →
    HasNoVariables env → load t' cwd home env file [] = .ok s

/-- Whether a name is no broken text. -/
def isWhole : Scalar → Bool
  | .broken _ => false
  | _ => true

/-- A key shows through that no name of a variable can be made with. -/
theorem not_hidesEveryUser_of_key {isKind : Scalar → Bool} (text : String) (below : Datum)
    (source : Yaml.Assembly) {key : Scalar} (hkind : isKind (.text baselineSection) = true)
    (huser : ofFile (userAnd text default) [] ((Path.ofString "home").join userFile) =
      .ok ⟨[(.text baselineSection, .dict [(key, below)])], some source⟩)
    (hkey : isKind key = true) (hnot : namesVariable key = false) : ¬ HidesEveryUser isKind := by
  intro hhides
  have hkeys : HasSectionKeys [(.text baselineSection, .dict [(key, below)])] := by
    intro e he
    rw [List.mem_singleton.1 he]
    exact ⟨baselineSection, by decide, rfl⟩
  have hparts : ∀ parts ∈ variableParts [(.text baselineSection, .dict [(key, below)])],
      ∀ part ∈ parts, isKind part = true := by
    simp [variableParts, hkind, hkey]
  have hwrite := write_onlyUser text default
  have hload := hhides _ _ _ _ _ [] _ default hasPaths_default isWritable_default
    isReadBack_default hwrite huser hkeys hparts (List.forall_mem_nil _)
  obtain ⟨b, hproject, -⟩ := ofFile_of_write isWritable_default isReadBack_default hwrite
  have hnames := namesWritable_of_load huser hproject hload
  -- The key stays among the entries of both files together, whatever it is.
  obtain ⟨settings, rest, hfiles⟩ : ∃ settings rest,
      filesOf ⟨[(.text baselineSection, .dict [(key, below)])], some source⟩
        ⟨default.entries, some b⟩ =
      (.text baselineSection, .dict ((key, below) :: settings)) :: rest := by
    cases key with
    | int n => exact ⟨_, _, rfl⟩
    | broken t => exact ⟨_, _, rfl⟩
    | _ => cases hnot
  rw [hfiles, namesWritable_dict, List.all_cons, hnot, Bool.and_false, Bool.false_and,
    Bool.false_and] at hnames
  cases hnames

/-- A file of the user with a number of more than 4300 digits for a key. -/
def longKeyed : List Char :=
  "baseline:\n  ? !!int \"0x\\\n".toList ++
    (List.replicate 36 ("  ".toList ++ List.replicate 100 'f' ++ "\\\n".toList)).flatten ++
    "  \"\n  : 1\n".toList

/-- A file of the user with half a pair for a key. -/
def brokenKeyed : List Char := "baseline: \x7b\"\\ud800\": 1\x7d\n".toList

/-- The one key in the one section of a file, if it is of a kind. -/
def soleKey? (isKind : Scalar → Bool) : Datum → Option Scalar
  | .dict [(.text name, .dict [(key, _)])] =>
    if name == baselineSection && isKind key && !namesVariable key then some key else none
  | _ => none

theorem soleKey?_eq_some {isKind : Scalar → Bool} {v : Datum} {key : Scalar}
    (hkey : soleKey? isKind v = some key) :
    (∃ below, v = .dict [(.text baselineSection, .dict [(key, below)])]) ∧
      isKind key = true ∧ namesVariable key = false := by
  rw [soleKey?.eq_def] at hkey
  split at hkey
  · next name k below =>
    split at hkey
    · next hall =>
      cases hkey
      obtain ⟨hboth, hnot⟩ := Bool.and_eq_true_iff.1 hall
      obtain ⟨hname, hkind⟩ := Bool.and_eq_true_iff.1 hboth
      rw [eq_of_beq hname]
      exact ⟨⟨below, rfl⟩, hkind, Bool.not_eq_true' _ ▸ hnot⟩
    · cases hkey
  · cases hkey

/-- The key of a file that has one of a kind shows through. -/
theorem not_hidesEveryUser_of_soleKey {isKind : Scalar → Bool} (text : List Char)
    (hkind : isKind (.text baselineSection) = true)
    (hread : ((Yaml.Source.ofText (Utf8.plainLines text) none >>= Yaml.read?).toOption.join.any
      fun a => (soleKey? isKind a.value).isSome) = true) : ¬ HidesEveryUser isKind := by
  obtain ⟨a, hread, hsole⟩ := (Option.any_eq_true _ _).1 hread
  have hread := toOption_eq_some.1 (Option.join_eq_some_iff.1 hread)
  obtain ⟨key, hkey⟩ := Option.isSome_iff_exists.1 hsole
  obtain ⟨⟨below, hvalue⟩, hkey, hnot⟩ := soleKey?_eq_some hkey
  refine not_hidesEveryUser_of_key (String.ofList text) below a hkind ?_ hkey hnot
  rw [ofFile_userAnd, ofBytes, ofBytes_encode, String.toList_ofList, hread]
  change (if !a.value.truthy then _ else _) = _
  rw [hvalue]
  rfl

/-- Both kinds of keys that are left out show through: a number that is too long to be written,
and a text that can not be encoded. -/
theorem not_hidesEveryUser :
    ¬ HidesEveryUser isWhole ∧ ¬ HidesEveryUser Scalar.isWritable :=
  ⟨not_hidesEveryUser_of_soleKey longKeyed rfl (by decide +kernel),
    not_hidesEveryUser_of_soleKey brokenKeyed rfl (by decide +kernel)⟩

end Load

end Settings

end FindingLedger
