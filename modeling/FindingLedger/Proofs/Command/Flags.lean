/-
What the command line gives the settings.

Whatever files and variables hold, a baseline that is named on the command line is the one
that the settings are for, and an option that turns the baseline off does so.
-/
import FindingLedger.Command.Run
import FindingLedger.Proofs.Path
import FindingLedger.Proofs.Settings.Given

namespace FindingLedger

namespace Command

variable {s : Surroundings} {t : FileTree} {n : Name} {program line : Line} {settings : Settings}

theorem hasPaths_flagsOf (program line : Line) (baseline : Option Path) :
    Settings.hasPaths (flagsOf program baseline line) = true := by
  rw [flagsOf]
  cases baseline <;> cases program.path? .logFile <;> rfl

theorem flagValue?_path (program line : Line) (p : Path) :
    Settings.flagValue? (flagsOf program (some p) line) "baseline" "path" = some (.path p.text) :=
  rfl

theorem flagValue?_enabled (program : Line) (baseline : Option Path)
    (hoff : line.has .noBaseline = true) :
    Settings.flagValue? (flagsOf program baseline line) "baseline" "enabled" =
      some (.bool false) := by
  rw [flagsOf, hoff]
  rfl

/-- A baseline that is named on the command line is the one of the settings. -/
theorem path_of_settings {p : Path} (hload : n.settings s t program line = .ok settings)
    (hbaseline : n.baseline? line = some p) :
    settings.baseline.path = Path.ofString p.text := by
  obtain ⟨entries, hcheck, hflags⟩ :=
    Settings.exists_checked_of_flags (hasPaths_flagsOf program line _) hload
  have hraw := hflags ("baseline", "path") (by decide) (.path p.text) rfl (by
    rw [hbaseline]
    exact flagValue?_path program line p)
  have hpath := (Settings.checkBaseline_eq_ok (Settings.sections_of_check hcheck).1).2
  have hvalue : Settings.toBaselinePath (.path p.text) = .ok settings.baseline.path :=
    Settings.convert_eq_ok hraw hpath
  exact (Except.ok.inj hvalue).symm

/-- The option that turns the baseline off does so. -/
theorem enabled_of_settings (hload : n.settings s t program line = .ok settings)
    (hoff : line.has .noBaseline = true) : settings.baseline.enabled = false := by
  obtain ⟨entries, hcheck, hflags⟩ :=
    Settings.exists_checked_of_flags (hasPaths_flagsOf program line _) hload
  have hraw := hflags ("baseline", "enabled") (by decide) (.bool false) rfl
    (flagValue?_enabled program _ hoff)
  have henabled := (Settings.checkBaseline_eq_ok (Settings.sections_of_check hcheck).1).1
  have hvalue : Settings.toBool (.bool false) = .ok settings.baseline.enabled :=
    Settings.convert_eq_ok hraw henabled
  exact (Except.ok.inj hvalue).symm

end Command

end FindingLedger
