/-
Running the program.

The options of the program set the journal up.  The commands that load settings set it
up once more from these, which the options are part of.
-/
import FindingLedger.Command.Help
import FindingLedger.Command.Line
import FindingLedger.Command.Report

namespace FindingLedger

namespace Command

/-- What has come of a run, when it is over. -/
abbrev Outcome := Progress × Ending

/-- Show the lines of a text and end well. -/
def Progress.finishWith (p : Progress) (ls : List String) : Outcome :=
  (p.show ls, .exit success)

def complain (p : Progress) (front usage : String) (f : UsageFault) : Outcome :=
  let reminder :=
    if f.showsUsage then [usage, s!"Try '{front} --help' for help.", ""] else []
  (p.tell (reminder ++ [s!"Error: {f.message}"]), .exit misuse)

/-- Complain about a value of the command line. -/
def refuse (p : Progress) (front usage : String) : ValueFault → Outcome
  | .usage f => complain p front usage f
  | .nullCharacter => (p, .crash (.file ⟨.nullCharacter, ""⟩))

/-- The settings that the options of a command line stand for.  That of speaking more
comes after that of speaking less, and so wins. -/
def flagsOf (program : Line) (baseline : Option Path) (line : Line) :
    List (String × Datum) :=
  let path (p : Option Path) : Datum := (p.map fun p => Datum.path p.text).getD .null
  [("quiet", .bool (program.has .quiet)), ("verbose", .bool (program.has .verbose)),
   ("log_file", path (program.path? .logFile)), ("json_logs", .bool (program.has .jsonLogs)),
   ("baseline", path baseline), ("no_baseline", .bool (line.has .noBaseline))]

/-- Where the settings of the project in the working directory are. -/
def projectFile (s : Surroundings) : Path := Path.join ⟨.root, s.cwd⟩ Settings.projectFile

/-- The path of the baseline that the command line of a command names. -/
def Name.baseline? (n : Name) (line : Line) : Option Path :=
  match n with
  | .show_ => line.words.head?.map .ofString
  | .diff => line.path? .baseline
  | .init | .version => none

def Name.settings (n : Name) (s : Surroundings) (t : FileTree) (program line : Line) :
    Except Settings.LoadFault Settings :=
  Settings.load t s.cwd s.home s.environment ((line.path? .config).getD (projectFile s))
    (flagsOf program (n.baseline? line) line)

/-- Load the settings, set the journal up from them, and warn of what is odd. -/
def configure (n : Name) (s : Surroundings) (p : Progress) (program line : Line) :
    Except Outcome (Progress × Settings) :=
  match n.settings s p.tree program line with
  | .error f =>
    let p := p.print s!"[red]Configuration error:[/] {Markup.escape f.message}"
    .error (p, .exit misuse)
  | .ok settings =>
    match p.setUp s (Journal.setupOf settings.journal) with
    | (p, some e) => .error (p, .crash (.file e))
    | (p, none) =>
      match settings.warnings p.tree s.cwd with
      | .error e => .error (p, .crash (.file e))
      | .ok ws =>
        .ok (ws.foldl (fun p w => p.print s!"[yellow]Warning:[/] {Markup.escape w}") p, settings)

def loadBaseline (s : Surroundings) (p : Progress) (settings : Settings) :
    Except Outcome (Progress × Baseline) :=
  match Baseline.loadConfigured? p.tree s.cwd settings.baseline with
  | none => .error (p, .crash .blankPath)
  | some l => .ok ({ p with tree := l.tree }.note s Baseline.loader l.notes, l.baseline)

def shownStatus (b : Baseline) : Nat :=
  match b.status with
  | .notFound | .invalid => noBaseline
  | .valid | .disabled => success

def runShow (s : Surroundings) (p : Progress) (program line : Line) : Outcome :=
  match configure .show_ s p program line with
  | .error outcome => outcome
  | .ok (p, settings) =>
    match loadBaseline s p settings with
    | .error outcome => outcome
    | .ok (p, b) =>
      let p := p.show (summaryLines b)
      let p := if b.status == .valid && !program.has .quiet then p.show (filesLines b) else p
      (p, .exit (shownStatus b))

/-- The lines that show findings, up to the first that can not be shown, and why it can
not. -/
def findingLines : List (String × Finding) → List String × Option RunFault
  | [] => ([], none)
  | (file, f) :: rest =>
    match findingText file f with
    | .error fault => ([], some fault)
    | .ok text =>
      let (lines, fault?) := findingLines rest
      ((Markup.lines text).map String.ofList ++ lines, fault?)

def Findings.flatten (fs : Findings) : List (String × Finding) :=
  fs.flatMap fun e => e.2.map fun f => (e.1, f)

/-- Show the new findings of the files whose names come before that of a stray, and break off at
its finding. -/
def showUpTo (p : Progress) (fresh : Findings) (name : BrokenText) (f : Finding) : Outcome :=
  let before := fresh.filter fun e => e.1.toList.map Char.toNat < name.codes
  let (lines, fault?) := findingLines (Findings.flatten before)
  (p.show lines, .crash (fault?.getD (strayFault f)))

/-- Compare findings with a baseline, and show the new ones. -/
def showDiff (p : Progress) (isQuiet : Bool) (b : Baseline) (live : Results) : Outcome :=
  match b.diff live.files with
  | .error f => (p, .crash (.rule f))
  | .ok d =>
    match live.firstStray? with
    | some (name, f) => showUpTo p (byName d.fresh) name f
    | none =>
      match findingLines (Findings.flatten (byName d.fresh)) with
      | (lines, some fault) => (p.show lines, .crash fault)
      | (lines, none) =>
        let p := p.show lines
        let p := if isQuiet then p else p.print (countsText d)
        (p, .exit (if d.hasFresh then newFindings else success))

/-- Compare lint results with a baseline. -/
def runDiff (s : Surroundings) (p : Progress) (program line : Line) : Outcome :=
  let results := Path.ofString (line.words.head?.getD "")
  match configure .diff s p program line with
  | .error outcome => outcome
  | .ok (p, settings) =>
    match Results.ofFile p.tree s.cwd results with
    | .error f =>
      if f.isExpected then
        (p.print s!"[red]Unable to read lint results:[/] {Markup.escape f.message}", .exit misuse)
      else (p, .crash (.results f))
    | .ok live =>
      match loadBaseline s p settings with
      | .error outcome => outcome
      | .ok (p, b) =>
        let p := if b.status.suppresses then p else p.show (summaryLines b)
        showDiff p (program.has .quiet) b live

/-- Write a file of settings into a directory.  One that is there already stays, unless the
user insists. -/
def runInit (s : Surroundings) (p : Progress) (line : Line) : Outcome :=
  let directory := Path.ofString (line.words.head?.getD ".")
  let file := directory.join Settings.projectFile
  match p.tree.holds s.cwd file.text with
  | .error fault => (p, .crash (.file ⟨fault, file.text⟩))
  | .ok isThere =>
    if isThere && !line.has .force then
      let p := p.print s!"[yellow]Configuration already exists:[/] {Markup.escape file.text}"
      (p.print "Use --force to overwrite", .exit success)
    else match Settings.ofEntries s.environment [] with
      | .error f => (p, .crash (.settings f))
      | .ok settings =>
        match p.tree.write s.cwd file.text (String.ofList settings.document).toUTF8 with
        | .error fault => (p, .crash (.file ⟨fault, file.text⟩))
        | .ok tree =>
          let p := { p with tree }
          (p.print s!"[green]Created configuration:[/] {Markup.escape file.text}", .exit success)

def Name.run (n : Name) (s : Surroundings) (p : Progress) (program line : Line) : Outcome :=
  match n with
  | .diff => runDiff s p program line
  | .init => runInit s p line
  | .show_ => runShow s p program line
  | .version => p.finishWith versionLines

def runCommand (s : Surroundings) (p : Progress) (program : Line) (n : Name)
    (args : List String) : Outcome :=
  let front := s!"{Command.program.name} {n.spec.name}"
  match readCommand n args with
  | .error f => complain p front n.usage f
  | .ok line =>
    if line.notice?.isSome then p.finishWith n.help
    else match check p.tree s.cwd n.spec line with
      | .error f => refuse p front n.usage f
      | .ok () => n.run s p program line

/-- The threshold of the journal that options ask for. -/
def thresholdOf (line : Line) : Threshold :=
  if line.has .verbose then .debug else if line.has .quiet then .error else .info

/-- The setup of the journal that options ask for. -/
def setupOf (line : Line) : JournalSetup :=
  let d := Settings.default.journal
  Journal.setupOf
    { d with
      level := thresholdOf line
      file := line.path? .logFile
      jsonFormat := line.has .jsonLogs }

/-- Show what the options of the program ask for, if they ask for a text or have values of
no use. -/
def answerOptions (s : Surroundings) (p : Progress) (line : Line) : Option Outcome :=
  match line.notice? with
  | some .version => some (p.finishWith [s!"{program.name}, version {version}"])
  | some _ => some (p.finishWith programHelp)
  | none =>
    match checkOptions p.tree s.cwd program line with
    | .error f => some (refuse p program.name programUsage f)
    | .ok () => none

/-- Refuse a word that is no command.  One that looks like options is read as such
first. -/
def refuseCommand (s : Surroundings) (p : Progress) (word : String) (rest : List String) :
    Outcome :=
  let unknown := complain p program.name programUsage
    (.unknownCommand word (Text.closeTo word (Name.all.map (·.spec.name))))
  match readProgram (word :: rest) with
  | .error f => complain p program.name programUsage f
  | .ok line => (answerOptions s p line).getD unknown

def run (s : Surroundings) (p : Progress) (args : List String) : Outcome :=
  if args.isEmpty then (p.tell programHelp, .exit misuse)
  else match readProgram args with
    | .error f => complain p program.name programUsage f
    | .ok line =>
      match answerOptions s p line with
      | some outcome => outcome
      | none =>
        match line.words with
        | [] => complain p program.name programUsage .missingCommand
        | word :: rest =>
          match Name.ofWord? word with
          | none => refuseCommand s p word rest
          | some n =>
            match p.setUp s (setupOf line) with
            | (p, some e) => (p, .crash (.file e))
            | (p, none) => runCommand s p line n rest

end Command

end FindingLedger
