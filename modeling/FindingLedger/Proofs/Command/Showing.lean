/-
Showing the baseline at a path that is named on the command line.

Main statement: the run ends with a status, and this tells what loading the baseline comes to,
unless a name is too long to be looked up.  Then loading finds nothing, but the settings can not
be checked for what is odd, and the run breaks off before.
-/
import FindingLedger.Proofs.Baseline.Removal
import FindingLedger.Proofs.Command.Call
import FindingLedger.Proofs.Command.Flags
import FindingLedger.Proofs.Command.Gate

namespace FindingLedger

namespace Baseline

variable {t t' : FileTree} {cwd : Location} {path : String}

/-- What loading comes to depends on what is at the path and on what it holds. -/
theorem status_loadAt_eq
    (hstatus : t'.status cwd (Path.ofString path).text = t.status cwd (Path.ofString path).text)
    (hread : t'.read cwd (Path.ofString path).text = t.read cwd (Path.ofString path).text) :
    (loadAt t' cwd path).baseline.status = (loadAt t cwd path).baseline.status := by
  have hholds : t'.holds cwd (Path.ofString path).text = t.holds cwd (Path.ofString path).text := by
    rw [FileTree.holds, FileTree.holds, hstatus]
  have hfile : Document.ofFile t' cwd (Path.ofString path) =
      Document.ofFile t cwd (Path.ofString path) := by
    rw [Document.ofFile, Document.ofFile, hread]
  rw [loadAt_eq, loadAt_eq, hholds, hfile]
  rcases t.holds cwd (Path.ofString path).text with fault | isThere
  · rfl
  · cases isThere with
    | false => rfl
    | true =>
      rcases Document.ofFile t cwd (Path.ofString path) with fault | d
      · exact (status_ofReason _ _ _ _).trans (status_ofReason _ _ _ _).symm
      · rfl

theorem notFound_of_nameTooLong
    (hlong : t.status cwd (Path.ofString path).text = .error .nameTooLong) :
    (loadAt t cwd path).baseline.status = .notFound := by
  rw [loadAt_eq, FileTree.holds_eq_error.2 ⟨rfl, hlong⟩]
  rfl

end Baseline

namespace Command

namespace Call

variable {s : Surroundings} {t : FileTree} {args : List String}

/-- The baseline that is named on the command line is the one that is shown. -/
theorem text_path (c : Call .show_ s t args) {word : String}
    (hword : c.line.words.head? = some word) :
    c.settings.baseline.path.text = (Path.ofString word).text := by
  have hbaseline : Name.show_.baseline? c.line = some (Path.ofString word) := by
    rw [Name.baseline?, hword]
    rfl
  rw [path_of_settings c.loads hbaseline, Path.ofString_text_ofString]

/-- Where the settings can be checked for what is odd, the run ends with the status of what
loading the baseline comes to. -/
theorem run_show_loadAt (c : Call .show_ s t args) (hanswers : c.Answers)
    (henabled : c.settings.baseline.enabled = true)
    (hvisible : Text.isBlankText c.settings.baseline.path.text = false) {p : Progress}
    (hp : p.tree = t) :
    (run s p args).2 = .exit (shownStatus
      (Baseline.loadAt c.ready s.cwd c.settings.baseline.path.text).baseline) := by
  have hloads : Baseline.loadConfigured? (c.started p).tree s.cwd c.settings.baseline =
      some (Baseline.loadAt c.ready s.cwd c.settings.baseline.path.text) := by
    rw [Baseline.loadConfigured?, henabled, if_pos rfl]
    exact Baseline.load?_of_visible _ _ hvisible
  rw [c.run_show hanswers hp, loadBaseline, hloads]

/-- Where a name is too long, the run breaks off before the baseline is loaded. -/
theorem run_show_of_nameTooLong (c : Call .show_ s t args)
    (henabled : c.settings.baseline.enabled = true)
    (hlong : c.ready.status s.cwd c.settings.baseline.path.text = .error .nameTooLong)
    {p : Progress} (hp : p.tree = t) :
    run s p args =
      (c.begun p, .crash (.file ⟨.nameTooLong, c.settings.baseline.path.text⟩)) := by
  have hfails := FileTree.holds_eq_error.2 ⟨rfl, hlong⟩
  rw [c.run_eq hp]
  unfold Name.run runShow
  rcases c.configure_cases p with ⟨hanswers, _⟩ | ⟨_, fault, hholds, hconfigure⟩
  · exact absurd hanswers (c.not_answers henabled hfails)
  · rw [hconfigure]
    cases hholds.symm.trans hfails
    rfl

theorem shownStatus_cases {b : Baseline}
    (hstatus : b.status = .notFound ∨ b.status = .valid ∨ b.status = .invalid) :
    (shownStatus b = 0 ∨ shownStatus b = 3) ∧ (shownStatus b = 0 ↔ b.status = .valid) ∧
      (shownStatus b = 3 ↔ b.status = .notFound ∨ b.status = .invalid) := by
  rw [shownStatus]
  rcases hstatus with hstatus | hstatus | hstatus <;> rw [hstatus] <;> decide

/-- With a path on the command line whose text is not blank and the baseline enabled, showing
ends with status zero or three: zero exactly when loading the baseline at the path gives a valid
one, three exactly when it finds none or none that is valid.  If a name is too long, it breaks
off instead, while loading finds nothing.  It is the same whether the baseline is loaded then or
before anything was run, where setting the journal up leaves the way to it as it was. -/
theorem shows_what_loads (c : Call .show_ s t args) {word : String}
    (hword : c.line.words.head? = some word) (henabled : c.settings.baseline.enabled = true)
    (hvisible : Text.isBlankText (Path.ofString word).text = false) :
    ∃ a, Baseline.load? c.ready s.cwd (Path.ofString word).text = some a ∧
      (c.ready.status s.cwd (Path.ofString word).text ≠ .error .nameTooLong →
        ∀ p : Progress, p.tree = t →
          ((run s p args).2 = .exit 0 ∨ (run s p args).2 = .exit 3) ∧
          ((run s p args).2 = .exit 0 ↔ a.baseline.status = .valid) ∧
          ((run s p args).2 = .exit 3 ↔
            a.baseline.status = .notFound ∨ a.baseline.status = .invalid)) ∧
      (c.ready.status s.cwd (Path.ofString word).text = .error .nameTooLong →
        a.baseline.status = .notFound ∧ ∀ p : Progress, p.tree = t →
          run s p args =
            (c.begun p, .crash (.file ⟨.nameTooLong, (Path.ofString word).text⟩))) ∧
      (t.IsSound → t.KeepsWay c.ready s.cwd (Path.ofString word).text →
        ∃ a', Baseline.load? t s.cwd (Path.ofString word).text = some a' ∧
          a'.baseline.status = a.baseline.status) := by
  rw [← c.text_path hword] at hvisible ⊢
  have hread_back : (Path.ofString c.settings.baseline.path.text).text =
      c.settings.baseline.path.text := by
    rw [c.text_path hword, Path.ofString_text_ofString]
  refine ⟨_, Baseline.load?_of_visible _ _ hvisible, ?_, ?_, ?_⟩
  · intro hshort p hp
    have hanswers : c.Answers := by
      intro _
      rcases hholds : c.ready.holds s.cwd c.settings.baseline.path.text with fault | isThere
      · exact absurd (FileTree.holds_eq_error.1 hholds).2 hshort
      · exact ⟨isThere, rfl⟩
    have hfits := Baseline.fits_attempt (FileTree.storage s.cwd) c.ready
      c.settings.baseline.path.text
    rw [c.run_show_loadAt hanswers henabled hvisible hp, Ending.exit.injEq, Ending.exit.injEq]
    exact shownStatus_cases hfits.status_cases
  · intro hlong
    refine ⟨Baseline.notFound_of_nameTooLong ?_, fun p hp => ?_⟩
    · rw [hread_back]
      exact hlong
    · exact c.run_show_of_nameTooLong henabled hlong hp
  · intro ht hway
    have hgrown := (c.grown_opened ht).trans (c.grown_ready ht)
    refine ⟨_, Baseline.load?_of_visible _ _ hvisible, ?_⟩
    rw [← hread_back] at hway
    apply (Baseline.status_loadAt_eq _ _).symm
    · exact FileTree.status_eq_of_keepsWay hway
    · exact FileTree.read_eq hway (FileTree.avoids_nil t _ _) fun id _ => hgrown.bytes id

end Call

/-- A path that need not lead anywhere passes, unless it can not be one. -/
theorem check_show_eq_ok {t : FileTree} {cwd : Location} {word : String}
    (hword : ¬ word.toList.contains '\x00' = true) :
    check t cwd showSpec ⟨[], [word]⟩ = .ok () := by
  have hprobe : ∃ found, probe t cwd word = .ok found := probe_eq_ok.2 hword
  obtain ⟨found, hfound⟩ := hprobe
  have hargument : checkArgument t cwd ⟨"BASELINE_FILE", false⟩ word = .ok () := by
    rw [checkArgument, hfound]
    cases found with
    | none => rfl
    | some n => cases n <;> rfl
  have hwords : checkWords t cwd showSpec ⟨[], [word]⟩ = .ok () := by
    have hspec : showSpec.argument = some ⟨"BASELINE_FILE", false⟩ := rfl
    rw [checkWords, hspec]
    dsimp only
    rw [hargument]
    rfl
  exact bind_eq_ok.2 ⟨(), rfl, hwords⟩

/-- A name of more than 255 bytes. -/
def longName : String := String.ofList (List.replicate 64 '𝔸')

/-- A working directory with a link to a file of a name that is too long, and a file with a
blank name. -/
def longTree : FileTree where
  nodes := [(["w"], .directory), (["w", "b"], .link longName), (["w", " "], .file 0)]
  contents := [(0, acceptingText.toUTF8)]
  next := 1

/-- A call that shows the baseline at a path there. -/
def showingCall (word : String)
    (hreads : readProgram ["show", word] = .ok ⟨[], ["show", word]⟩)
    (hline : readCommand .show_ [word] = .ok ⟨[], [word]⟩)
    (hword : ¬ word.toList.contains '\x00' = true)
    (hloads : Name.show_.settings here longTree ⟨[], ["show", word]⟩ ⟨[], [word]⟩ =
      .ok ⟨⟨true, .ofString word⟩, Settings.default.journal⟩) :
    Call .show_ here longTree ["show", word] where
  program := ⟨[], ["show", word]⟩
  rest := [word]
  line := ⟨[], [word]⟩
  opened := longTree
  early := ⟨[.console 20 false], 20, false⟩
  settings := ⟨⟨true, .ofString word⟩, Settings.default.journal⟩
  ready := longTree
  journal := ⟨[.console 20 false], 20, false⟩
  reads_program := hreads
  program_words := rfl
  program_runs := rfl
  program_passes := rfl
  opens := fun _ => rfl
  reads_line := hline
  line_runs := rfl
  line_passes := check_show_eq_ok hword
  loads := hloads
  sets_up := fun _ => rfl

theorem status_longTree : longTree.status here.cwd "b" = .error .nameTooLong := by
  have hlist : longName.toList = List.replicate 64 '𝔸' := String.toList_ofList
  have hnames : FileTree.namesOf longName = [longName] := by
    rw [FileTree.namesOf, Path.pieces, hlist]
    decide +kernel
  -- The link is followed first, and then its target is the name that is too long.
  have hfirst : longTree.descend .content ["w"] ["b"] = .ok (.inr (["w"], [longName])) := by
    have hnode : longTree.node? (["w"] ++ ["b"]) = some (.link longName) := rfl
    have hstart : ¬ (longName.toList.head? == some '/') = true := by
      rw [hlist]
      decide
    rw [FileTree.descend]
    dsimp only
    rw [hnode]
    dsimp only
    rw [hnames, if_neg hstart]
    rfl
  have hsecond : longTree.descend .content ["w"] [longName] = .error .nameTooLong := by
    rw [FileTree.descend, if_neg (by decide +kernel), if_neg (by decide +kernel),
      if_neg (by decide +kernel), if_pos (by decide +kernel)]
  have hwalk : longTree.walk .content FileTree.maxLinks ["w"] ["b"] = .error .nameTooLong := by
    rw [FileTree.maxLinks, FileTree.walk_succ, hfirst, FileTree.landing, FileTree.walk_succ,
      hsecond]
    rfl
  have hlocate : longTree.locate here.cwd .content "b" =
      longTree.walk .content FileTree.maxLinks ["w"] ["b"] := by
    have hb : FileTree.namesOf "b" = ["b"] := by decide +kernel
    rw [FileTree.locate, if_neg (by decide), if_neg (by decide), if_neg (by decide), hb]
    rfl
  rw [FileTree.status, hlocate, hwalk]

/-- A call at the path of the link, and one at the path of the blank name, which is not blank
itself. -/
def linkCall : Call .show_ here longTree ["show", "b"] :=
  showingCall "b" rfl rfl (by decide) rfl

def blankCall : Call .show_ here longTree ["show", "./ "] :=
  showingCall "./ " rfl rfl (by decide) rfl

/-- Before anything is run. -/
def longStart : Progress := ⟨longTree, .unset, [], []⟩

/-- A call at a path where nothing is. -/
def absentCall : Call .show_ here longTree ["show", "c"] :=
  showingCall "c" rfl rfl (by decide) rfl

/-- Where nothing is, loading finds nothing and showing ends with status three. -/
theorem shows_absent :
    absentCall.line.words.head? = some "c" ∧ absentCall.settings.baseline.enabled = true ∧
    Text.isBlankText (Path.ofString "c").text = false ∧
    longTree.status here.cwd (Path.ofString "c").text ≠ .error .nameTooLong ∧
    (run here longStart ["show", "c"]).2 = .exit 3 := by
  have hvisible : Text.isBlankText (Path.ofString "c").text = false := by decide +kernel
  have hshort : longTree.status here.cwd (Path.ofString "c").text ≠ .error .nameTooLong := by
    decide +kernel
  obtain ⟨a, hload, hends, _⟩ := absentCall.shows_what_loads rfl rfl hvisible
  have hstatus : (Baseline.load? longTree here.cwd (Path.ofString "c").text).map
      (·.baseline.status) = some .notFound := by
    decide +kernel
  have hsame : absentCall.ready = longTree := rfl
  rw [hsame] at hload hends
  rw [hload] at hstatus
  refine ⟨rfl, rfl, hvisible, hshort, ?_⟩
  exact (hends hshort longStart rfl).2.2.2 (Or.inl (Option.some.inj hstatus))

/-- The conditions are needed.  Loading finds nothing behind a link to a name that is too long,
and showing what is there breaks off; and so does showing what a blank name leads to, by a path
that is not blank. -/
theorem not_shows_what_loads :
    (linkCall.line.words.head? = some "b" ∧ linkCall.settings.baseline.enabled = true ∧
      Text.isBlankText (Path.ofString "b").text = false ∧
      (∃ a, Baseline.load? longTree here.cwd (Path.ofString "b").text = some a ∧
        a.baseline.status = .notFound) ∧
      (run here longStart ["show", "b"]).2.status? = none) ∧
    (blankCall.line.words.head? = some "./ " ∧ blankCall.settings.baseline.enabled = true ∧
      Text.isBlankText "./ " = false ∧
      (run here longStart ["show", "./ "]).2.status? = none) := by
  have hvisible : Text.isBlankText (Path.ofString "b").text = false := by decide +kernel
  have htext : (Path.ofString "b").text = "b" := by decide +kernel
  have hlong : linkCall.ready.status here.cwd linkCall.settings.baseline.path.text =
      .error .nameTooLong := by
    have hpath : linkCall.settings.baseline.path.text = "b" := htext
    rw [hpath]
    exact status_longTree
  refine ⟨⟨rfl, rfl, hvisible, ?_, ?_⟩, rfl, rfl, by decide +kernel, by decide +kernel⟩
  · refine ⟨_, Baseline.load?_of_visible longTree here.cwd hvisible, ?_⟩
    apply Baseline.notFound_of_nameTooLong
    rw [Path.ofString_text_ofString, htext]
    exact status_longTree
  · rw [linkCall.run_show_of_nameTooLong rfl hlong rfl]
    rfl

end Command

end FindingLedger
