/-
Calls of commands that load settings.

Such a command reads its command line and sets the journal up from it, loads its settings and
sets the journal up once more from these.  A call that gets there goes on with the settings
it has loaded, in the file system that it has then.
-/
import FindingLedger.Command.Reach
import FindingLedger.Command.Run
import FindingLedger.Proofs.Command.Line
import FindingLedger.Proofs.Journal.Upkeep

namespace FindingLedger

/-- It can be told whether something is at the path of the baseline, if this is asked at
all. -/
def BaselineSettings.Answers (s : BaselineSettings) (t : FileTree) (cwd : Location) : Prop :=
  s.enabled = true → ∃ isThere, t.holds cwd s.path.text = .ok isThere

/-- What is odd about settings can be told where it can be told whether something is at the path
of the baseline. -/
theorem Settings.warnings_cases (s : Settings) (t : FileTree) (cwd : Location) :
    (s.baseline.Answers t cwd ∧ ∃ ws, s.warnings t cwd = .ok ws) ∨
    s.baseline.enabled = true ∧ ∃ fault, t.holds cwd s.baseline.path.text = .error fault ∧
      s.warnings t cwd = .error ⟨fault, s.baseline.path.text⟩ := by
  rw [warnings, BaselineSettings.Answers]
  cases henabled : s.baseline.enabled with
  | false =>
    left
    refine ⟨nofun, ?_⟩
    simp only [Bool.not_false, if_true, bind, Except.bind]
    split <;> exact ⟨_, rfl⟩
  | true =>
    simp only [Bool.not_true, Bool.false_eq_true, if_false]
    rcases FileTree.holds_cases t cwd s.baseline.path.text with
      ⟨isThere, isDirectory, hholds, hdirectory⟩ | ⟨fault, hholds, hdirectory⟩
    · left
      refine ⟨fun _ => ⟨isThere, hholds⟩, ?_⟩
      rw [hdirectory]
      cases isDirectory <;> simp only [bind, Except.bind] <;> split <;> exact ⟨_, rfl⟩
    · right
      refine ⟨trivial, fault, hholds, ?_⟩
      rw [hdirectory]
      rfl

namespace Command

variable {s : Surroundings}

/-- Setting the journal up replaces the file system and the journal, and nothing else. -/
theorem setUp_eq {p : Progress} {setup : JournalSetup} {t' : FileTree} {j' : Journal}
    (hup : Journal.SetsUp p.tree s.cwd setup t' j') :
    p.setUp s setup = ({ p with tree := t', journal := j' }, none) := by
  rw [Progress.setUp, hup p.journal]

/-- A command whose words are read, ask for nothing else and pass, runs. -/
theorem runCommand_eq {p : Progress} {program line : Line} {n : Name} {args : List String}
    (hreads : readCommand n args = .ok line) (hruns : line.notice? = none)
    (hpasses : check p.tree s.cwd n.spec line = .ok ()) :
    runCommand s p program n args = n.run s p program line := by
  unfold runCommand
  rw [hreads]
  dsimp only
  rw [hruns, hpasses]
  rfl

theorem foldl_print (ws : List String) (text : String → String) (p : Progress) :
    ws.foldl (fun p w => p.print (text w)) p =
      { p with
        shown := p.shown ++ ws.flatMap fun w => (Markup.lines (text w)).map String.ofList } := by
  induction ws generalizing p with
  | nil => simp
  | cons w rest ih =>
    rw [List.foldl_cons, ih, Progress.print, Progress.show]
    simp [List.append_assoc]

/-- A command is called by its name. -/
theorem ofWord?_name (n : Name) : Name.ofWord? n.spec.name = some n := by
  cases n <;> decide

theorem name_of_ofWord? {word : String} {n : Name} (hname : Name.ofWord? word = some n) :
    n.spec.name = word := by
  rw [Name.ofWord?] at hname
  have hfound := List.find?_some hname
  exact eq_of_beq hfound

theorem calledBy?_of_words {args rest : List String} {program line : Line} {n : Name}
    (hreads : readProgram args = .ok program) (hwords : program.words = n.spec.name :: rest)
    (hline : readCommand n rest = .ok line) : calledBy? args = some (n, program, line) := by
  rw [calledBy?, hreads]
  dsimp only
  rw [hwords]
  dsimp only
  rw [ofWord?_name, Option.getD_some, hline]

/-- The word behind the options of the program calls a command, once the options pass. -/
theorem run_of_words {p : Progress} {args rest : List String} {program : Line} {n : Name}
    (hreads : readProgram args = .ok program) (hwords : program.words = n.spec.name :: rest)
    (hruns : program.notice? = none)
    (hpasses : checkOptions p.tree s.cwd Command.program program = .ok ()) :
    run s p args =
      match p.setUp s (setupOf program) with
      | (p, some e) => (p, .crash (.file e))
      | (p, none) => runCommand s p program n rest := by
  have hargs : args.isEmpty = false := by
    cases args with
    | nil =>
      have hprogram : program = ⟨[], []⟩ := (Except.ok.inj hreads).symm
      rw [hprogram] at hwords
      cases hwords
    | cons word rest => rfl
  have hanswer : answerOptions s p program = none := by
    rw [answerOptions, hruns, hpasses]
  unfold run
  rw [hargs, if_neg Bool.false_ne_true, hreads]
  dsimp only
  rw [hanswer]
  dsimp only
  rw [hwords]
  dsimp only
  split
  · next hnone => cases (ofWord?_name n).symm.trans hnone
  · next m hsome =>
    cases (ofWord?_name n).symm.trans hsome
    rfl

/-- A call that has loaded its settings and set the journal up from them: what it reads off the
command line and off the files, and the file systems it does so in.  The first is that after the
journal was set up from the options of the program, the second that after it was from the
settings. -/
structure Call (n : Name) (s : Surroundings) (t : FileTree) (args : List String) where
  program : Line
  rest : List String
  line : Line
  opened : FileTree
  early : Journal
  settings : Settings
  ready : FileTree
  journal : Journal
  reads_program : readProgram args = .ok program
  program_words : program.words = n.spec.name :: rest
  program_runs : program.notice? = none
  program_passes : checkOptions t s.cwd Command.program program = .ok ()
  opens : Journal.SetsUp t s.cwd (setupOf program) opened early
  reads_line : readCommand n rest = .ok line
  line_runs : line.notice? = none
  line_passes : check opened s.cwd n.spec line = .ok ()
  loads : n.settings s opened program line = .ok settings
  sets_up : Journal.SetsUp opened s.cwd (Journal.setupOf settings.journal) ready journal

namespace Call

variable {n : Name} {t : FileTree} {args : List String}

/-- How far a run has come when its call has set the journal up. -/
def begun (c : Call n s t args) (p : Progress) : Progress :=
  { p with tree := c.ready, journal := c.journal }

/-- What is odd about the settings, as far as it can be told. -/
def warnings (c : Call n s t args) : List String :=
  ((c.settings.warnings c.ready s.cwd).toOption).getD []

def warningLines (c : Call n s t args) : List String :=
  c.warnings.flatMap fun w =>
    (Markup.lines s!"[yellow]Warning:[/] {Markup.escape w}").map String.ofList

/-- How far a run has come when the warnings are shown. -/
def started (c : Call n s t args) (p : Progress) : Progress :=
  { c.begun p with shown := p.shown ++ c.warningLines }

/-- It can be told whether something is at the path of the baseline. -/
def Answers (c : Call n s t args) : Prop := c.settings.baseline.Answers c.ready s.cwd

/-- The path of the baseline is not blank, if it is asked for. -/
def IsVisible (c : Call n s t args) : Prop :=
  c.settings.baseline.enabled = true → Text.isBlankText c.settings.baseline.path.text = false

/-- Setting the journal up changes the bytes of no file. -/
theorem grown_opened (c : Call n s t args) (ht : t.IsSound) : t.Grown c.opened :=
  (c.opens.grown ht).1

theorem grown_ready (c : Call n s t args) (ht : t.IsSound) : c.opened.Grown c.ready :=
  (c.sets_up.grown (c.grown_opened ht).sound).1

theorem calledBy?_eq (c : Call n s t args) : calledBy? args = some (n, c.program, c.line) :=
  calledBy?_of_words c.reads_program c.program_words c.reads_line

/-- A command line calls one command. -/
theorem name_eq {n' : Name} (c : Call n s t args) (c' : Call n' s t args) : n' = n :=
  (Prod.mk.inj (Option.some.inj (c'.calledBy?_eq.symm.trans c.calledBy?_eq))).1

/-- It does so in one way. -/
theorem eq_of_args (c c' : Call n s t args) : c' = c := by
  obtain ⟨program, rest, line, opened, early, settings, ready, journal, hprogram, hwords, _, _,
    hopens, hline, _, _, hloads, hsets⟩ := c
  obtain ⟨program', rest', line', opened', early', settings', ready', journal', hprogram', hwords',
    _, _, hopens', hline', _, _, hloads', hsets'⟩ := c'
  obtain rfl : program' = program := Except.ok.inj (hprogram'.symm.trans hprogram)
  obtain rfl : rest' = rest := (List.cons.inj (hwords'.symm.trans hwords)).2
  obtain rfl : line' = line := Except.ok.inj (hline'.symm.trans hline)
  obtain ⟨rfl, hearly⟩ := Prod.mk.inj ((hopens' .unset).symm.trans (hopens .unset))
  obtain ⟨rfl, _⟩ := Prod.mk.inj hearly
  obtain rfl : settings' = settings := Except.ok.inj (hloads'.symm.trans hloads)
  obtain ⟨rfl, hjournal⟩ := Prod.mk.inj ((hsets' .unset).symm.trans (hsets .unset))
  obtain ⟨rfl, _⟩ := Prod.mk.inj hjournal
  rfl

theorem run_eq (c : Call n s t args) {p : Progress} (hp : p.tree = t) :
    run s p args =
      n.run s { p with tree := c.opened, journal := c.early } c.program c.line := by
  subst hp
  rw [run_of_words c.reads_program c.program_words c.program_runs c.program_passes,
    setUp_eq c.opens]
  exact runCommand_eq c.reads_line c.line_runs c.line_passes

/-- The settings are loaded and the journal is set up from them.  Then what is odd is shown,
unless the path of the baseline gives no answer. -/
theorem configure_cases (c : Call n s t args) (p : Progress) :
    (c.Answers ∧
      configure n s { p with tree := c.opened, journal := c.early } c.program c.line =
        .ok (c.started p, c.settings)) ∨
    c.settings.baseline.enabled = true ∧
      ∃ fault, c.ready.holds s.cwd c.settings.baseline.path.text = .error fault ∧
        configure n s { p with tree := c.opened, journal := c.early } c.program c.line =
          .error (c.begun p, .crash (.file ⟨fault, c.settings.baseline.path.text⟩)) := by
  have hup : Journal.SetsUp ({ p with tree := c.opened, journal := c.early } : Progress).tree
      s.cwd (Journal.setupOf c.settings.journal) c.ready c.journal := c.sets_up
  unfold configure
  rw [c.loads]
  dsimp only
  rw [setUp_eq hup]
  dsimp only
  rcases c.settings.warnings_cases c.ready s.cwd with
    ⟨hanswers, ws, hws⟩ | ⟨henabled, fault, hholds, hws⟩
  · left
    refine ⟨hanswers, ?_⟩
    have hlines : c.warnings = ws := by
      rw [warnings, hws]
      rfl
    rw [hws, started, warningLines, hlines]
    dsimp only
    rw [foldl_print]
    rfl
  · right
    refine ⟨henabled, fault, hholds, ?_⟩
    rw [hws]
    rfl

theorem not_answers (c : Call n s t args) (henabled : c.settings.baseline.enabled = true)
    {fault : FileFault}
    (hholds : c.ready.holds s.cwd c.settings.baseline.path.text = .error fault) :
    ¬ c.Answers := by
  intro hanswers
  obtain ⟨isThere, hthere⟩ := hanswers henabled
  cases hthere.symm.trans hholds

theorem configure_eq (c : Call n s t args) (hanswers : c.Answers) (p : Progress) :
    configure n s { p with tree := c.opened, journal := c.early } c.program c.line =
      .ok (c.started p, c.settings) := by
  rcases c.configure_cases p with ⟨_, hconfigure⟩ | ⟨henabled, fault, hholds, _⟩
  · exact hconfigure
  · exact absurd hanswers (c.not_answers henabled hholds)

/-- The results that a comparison reads. -/
def results (c : Call .diff s t args) : Except ResultsFault Results :=
  Results.ofFile c.ready s.cwd (.ofString (c.line.words.head?.getD ""))

theorem run_diff (c : Call .diff s t args) (hanswers : c.Answers) {p : Progress}
    (hp : p.tree = t) :
    run s p args =
      match c.results with
      | .error f =>
        if f.isExpected then
          ((c.started p).print
            s!"[red]Unable to read lint results:[/] {Markup.escape f.message}", .exit misuse)
        else (c.started p, .crash (.results f))
      | .ok live =>
        match loadBaseline s (c.started p) c.settings with
        | .error outcome => outcome
        | .ok (p, b) =>
          showDiff (if b.status.suppresses then p else p.show (summaryLines b))
            (c.program.has .quiet) b live := by
  rw [c.run_eq hp]
  unfold Name.run runDiff
  dsimp only
  rw [c.configure_eq hanswers p]
  rfl

theorem run_show (c : Call .show_ s t args) (hanswers : c.Answers) {p : Progress}
    (hp : p.tree = t) :
    run s p args =
      match loadBaseline s (c.started p) c.settings with
      | .error outcome => outcome
      | .ok (p, b) =>
        (if b.status == .valid && !c.program.has .quiet then
            (p.show (summaryLines b)).show (filesLines b)
          else p.show (summaryLines b), .exit (shownStatus b)) := by
  rw [c.run_eq hp]
  unfold Name.run runShow
  dsimp only
  split
  · next hfails => cases (c.configure_eq hanswers p).symm.trans hfails
  · next hready =>
    cases (c.configure_eq hanswers p).symm.trans hready
    rfl

end Call

end Command

end FindingLedger
