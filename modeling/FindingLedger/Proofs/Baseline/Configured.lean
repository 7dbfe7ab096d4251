/-
The baseline of settings that were loaded.

Settings are loaded only with a path of the baseline whose text is not blank.  But a text that
is not blank may stand for a path that is, and the path of a flag is not looked at.  Where no
source has such a text, the baseline that the settings ask for can always be loaded.
-/
import FindingLedger.Baseline.Load
import FindingLedger.Proofs.Path
import FindingLedger.Proofs.Settings.Origin

namespace FindingLedger

/-- Whether a value stands for a blank path, though it is no blank text. -/
def Datum.hidesBlank : Datum → Bool
  | .scalar (.text s) => !Text.isBlankText s && Text.isBlankText (Path.ofString s).text
  | .path s => Text.isBlankText (Path.ofString s).text
  | _ => false

namespace Settings

def pathSetting : String × String := (baselineSection, "path")

/-- A value that passes as the path of the baseline stands for a visible path, or it hides a
blank one. -/
theorem hidesBlank_of_toBaselinePath {v : Datum} {p : Path} (hpath : toBaselinePath v = .ok p) :
    v.isMapping = false ∧ (Text.isBlankText p.text = true → v.hidesBlank = true) := by
  unfold toBaselinePath at hpath
  split at hpath
  · rename_i s
    split at hpath
    · cases hpath
    · rename_i hvisible
      cases hpath
      refine ⟨rfl, fun hblank => ?_⟩
      rw [Datum.hidesBlank, hblank, Bool.eq_false_iff.2 hvisible]
      rfl
  · unfold toPath at hpath
    split at hpath
    · rename_i hno
      exact absurd rfl (hno _)
    · cases hpath
    · cases hpath
      exact ⟨rfl, fun hblank => hblank⟩
    · cases hpath

theorem path_cases {entries : List (Scalar × Datum)} {settings : Settings}
    (hcheck : check entries = .ok settings) :
    settings.baseline.path = default.baseline.path ∨
      ∃ v, raw? entries pathSetting.1 pathSetting.2 = some v ∧
        toBaselinePath v = .ok settings.baseline.path := by
  have hpath := (checkBaseline_eq_ok (sections_of_check hcheck).1).2
  rw [checkField, ← raw?_eq] at hpath
  cases hraw : raw? entries baselineSection "path" with
  | none =>
    rw [hraw] at hpath
    exact Or.inl (Except.ok.inj hpath).symm
  | some v =>
    rw [hraw] at hpath
    exact Or.inr ⟨v, hraw, mapError_eq_ok.1 hpath⟩

section Load

variable {t : FileTree} {cwd : Location} {home file : Path} {env : Environment}
  {flags : List (String × Datum)} {settings : Settings}

theorem exists_hidesBlank (hload : load t cwd home env file flags = .ok settings)
    (hblank : Text.isBlankText settings.baseline.path.text = true) :
    ∃ v, Originates t cwd home file env flags pathSetting v ∧ v.hidesBlank = true := by
  obtain ⟨entries, hcheck, horigin⟩ := exists_checked_of_load hload
  rcases path_cases hcheck with hdefault | ⟨v, hraw, hpath⟩
  · rw [hdefault] at hblank
    exact absurd hblank (by decide +kernel)
  · obtain ⟨hleaf, hhides⟩ := hidesBlank_of_toBaselinePath hpath
    exact ⟨v, horigin pathSetting v (by decide) hleaf hraw, hhides hblank⟩

end Load

end Settings

namespace Baseline

/-- There is no baseline for settings exactly when they ask for one at a blank path. -/
theorem loadConfigured?_eq_none {t : FileTree} {cwd : Location} {b : BaselineSettings} :
    loadConfigured? t cwd b = none ↔
      b.enabled = true ∧ Text.isBlankText b.path.text = true := by
  rw [loadConfigured?, load?, attempt?]
  cases b.enabled <;> cases Text.isBlankText b.path.text <;> simp

/-- Where no source hides a blank path, the path of loaded settings is not blank, and in any
file system the baseline that they ask for is loaded.  Else the path may be a single blank
name; then a source has hidden it, and there is no such baseline unless it is disabled. -/
theorem loadConfigured?_of_load {t : FileTree} {cwd : Location} {home file : Path}
    {env : Environment} {flags : List (String × Datum)} {settings : Settings}
    (hload : Settings.load t cwd home env file flags = .ok settings) :
    ((∀ v, Settings.Originates t cwd home file env flags Settings.pathSetting v →
        v.hidesBlank = false) →
      Text.isBlankText settings.baseline.path.text = false ∧
        ∀ t' cwd', ∃ l, loadConfigured? t' cwd' settings.baseline = some l) ∧
    (Text.isBlankText settings.baseline.path.text = true →
      (∃ name, settings.baseline.path = ⟨.here, [name]⟩ ∧ Text.isBlankText name = true) ∧
      (∃ v, Settings.Originates t cwd home file env flags Settings.pathSetting v ∧
        v.hidesBlank = true) ∧
      ∀ t' cwd', loadConfigured? t' cwd' settings.baseline = none ↔
        settings.baseline.enabled = true) := by
  constructor
  · intro hsources
    have hvisible : Text.isBlankText settings.baseline.path.text = false := by
      by_contra hblank
      obtain ⟨v, horigin, hhides⟩ :=
        Settings.exists_hidesBlank hload (Bool.not_eq_false _ ▸ hblank)
      exact absurd (hhides.symm.trans (hsources v horigin)) (by decide)
    refine ⟨hvisible, fun t' cwd' => ?_⟩
    rw [← Option.isSome_iff_exists, Option.isSome_iff_ne_none, ne_eq, loadConfigured?_eq_none,
      hvisible]
    exact fun hboth => Bool.false_ne_true hboth.2
  · intro hblank
    refine ⟨Path.isBlankText_text.1 hblank, Settings.exists_hidesBlank hload hblank, ?_⟩
    intro t' cwd'
    rw [loadConfigured?_eq_none]
    exact and_iff_left hblank

/-- Settings for a path of the baseline that a flag gives. -/
def loadFlag (path : String) : Except Settings.LoadFault Settings :=
  Settings.load .empty [] (.ofString "/h") [] (.ofString ".lintbaseline.yml")
    [("baseline", .text path)]

/-- The path of a flag that hides no blank one. -/
theorem loadConfigured?_of_loadFlag :
    ∃ settings, loadFlag "./b.xml" = .ok settings ∧ settings.baseline.path.text = "b.xml" ∧
      ∀ t' cwd', ∃ l, loadConfigured? t' cwd' settings.baseline = some l := by
  have hload := eq_ok_getD (x := loadFlag "./b.xml") .default (by decide +kernel)
  refine ⟨_, hload, by decide +kernel, ?_⟩
  apply ((loadConfigured?_of_load hload).1 _).2
  intro v horigin
  cases horigin with
  | user sheet reads gives =>
    cases reads
    obtain ⟨e, he, _⟩ := gives
    cases he
  | project sheet reads gives =>
    cases reads
    obtain ⟨e, he, _⟩ := gives
    cases he
  | environment said reads gives =>
    cases reads
    obtain ⟨e, he, _⟩ := gives
    cases he
  | flag gives =>
    obtain ⟨e, he, kind, htarget, hkind⟩ := gives
    obtain rfl := List.mem_singleton.1 he
    cases htarget
    cases hkind
    decide +kernel

/-- A file of settings with a path that is not blank and hides a blank one. -/
def hidingFile : FileTree where
  nodes := [([".lintbaseline.yml"], .file 0)]
  contents := [(0, "baseline:\n  path: \"./ \"\n".toUTF8)]
  next := 1

/-- Blank paths are hidden by a flag, and by a text that is more than a blank one.  The settings
are loaded, and no baseline can be loaded for them. -/
theorem not_loadConfigured?_of_hidden :
    (∃ settings, loadFlag " " = .ok settings ∧
      loadConfigured? .empty [] settings.baseline = none) ∧
    ∃ settings,
      Settings.load hidingFile [] (.ofString "/h") [] (.ofString ".lintbaseline.yml") [] =
        .ok settings ∧
      loadConfigured? hidingFile [] settings.baseline = none := by
  constructor
  · have hload := eq_ok_getD (x := loadFlag " ") .default (by decide +kernel)
    exact ⟨_, hload, loadConfigured?_eq_none.2 (by decide +kernel)⟩
  · have hload := eq_ok_getD
      (x := Settings.load hidingFile [] (.ofString "/h") [] (.ofString ".lintbaseline.yml") [])
      .default (by decide +kernel)
    exact ⟨_, hload, loadConfigured?_eq_none.2 (by decide +kernel)⟩

end Baseline

end FindingLedger
