/-
What a command line may hold: commands, their options and their arguments.
-/

namespace FindingLedger

namespace Command

/-- The options of all commands. -/
inductive OptionId
  | help | version | verbose | quiet | logFile | jsonLogs | config | baseline | noBaseline
  | force
deriving DecidableEq, Repr

/-- What an option is for. -/
inductive OptionKind
  /-- It is given or not. -/
  | switch
  /-- It shows a text instead of running a command. -/
  | notice
  /-- It takes a path, which may have to lead somewhere. -/
  | path (mustExist : Bool)
deriving DecidableEq, Repr

/-- An option: the names it is written by, short ones first, and what it does. -/
structure OptionSpec where
  id : OptionId
  names : List String
  kind : OptionKind
  meaning : String
deriving DecidableEq, Repr

def OptionSpec.takesValue (o : OptionSpec) : Bool :=
  match o.kind with
  | .path _ => true
  | _ => false

/-- Whether the path that an option takes has to lead somewhere. -/
def OptionSpec.mustExist (o : OptionSpec) : Bool := o.kind == .path true

/-- The argument of a command. -/
structure ArgumentSpec where
  name : String
  /-- Whether it has to be given, and to be the path of a file that is there. -/
  required : Bool
deriving DecidableEq, Repr

/-- A command, or the program as a whole.  The first paragraph says in short what it
does. -/
structure CommandSpec where
  name : String
  summary : String
  paragraphs : List String
  examples : List String
  options : List OptionSpec
  argument : Option ArgumentSpec
deriving DecidableEq, Repr

/-- Whether a name is a short one: a dash and one letter. -/
def isShort (name : String) : Bool := name.toList.length == 2

def CommandSpec.option? (c : CommandSpec) (name : String) : Option OptionSpec :=
  c.options.find? fun o => o.names.contains name

def CommandSpec.longOption? (c : CommandSpec) (name : String) : Option OptionSpec :=
  if isShort name then none else c.option? name

def CommandSpec.longNames (c : CommandSpec) : List String :=
  (c.options.flatMap (·.names)).filter fun n => !isShort n

/-- The option that shows how a command is used. -/
def helpOption : OptionSpec := ⟨.help, ["--help"], .notice, "Show this message and exit."⟩

/-- The option for the file of the settings. -/
def configOption : OptionSpec :=
  ⟨.config, ["-c", "--config"], .path true, "Configuration file path"⟩

def program : CommandSpec where
  name := "lintbaseline"
  summary := "lintbaseline - baselines of accepted lint errors."
  paragraphs := ["Inspect baseline files and compare lint results against them."]
  examples := []
  options := [⟨.version, ["--version"], .notice, "Show the version and exit."⟩,
    ⟨.verbose, ["-v", "--verbose"], .switch, "Enable verbose output (DEBUG level)"⟩,
    ⟨.quiet, ["-q", "--quiet"], .switch, "Suppress non-error output (ERROR level)"⟩,
    ⟨.logFile, ["--log-file"], .path false, "Write logs to file"⟩,
    ⟨.jsonLogs, ["--json-logs"], .switch, "Output logs in JSON format"⟩, helpOption]
  argument := none

def showSpec : CommandSpec where
  name := "show"
  summary := "Show the lint errors stored in a baseline file."
  paragraphs := ["BASELINE_FILE defaults to the path from the configuration. " ++
    "A baseline file that can not be parsed is deleted."]
  examples := ["lintbaseline show", "lintbaseline show build/baseline.xml"]
  options := [configOption,
    ⟨.noBaseline, ["--no-baseline"], .switch, "Do not load a baseline"⟩, helpOption]
  argument := some ⟨"BASELINE_FILE", false⟩

/-- Comparing lint results with a baseline. -/
def diffSpec : CommandSpec where
  name := "diff"
  summary := "Show lint errors that are not in the baseline."
  paragraphs := ["LINT_RESULTS is a JSON file mapping relative file paths to lists of " ++
    "lint errors with \"line\", \"col\", \"rule_id\" and optional \"detail\"."]
  examples := ["lintbaseline diff lint-results.json",
    "lintbaseline diff lint-results.json -b build/baseline.xml"]
  options := [⟨.baseline, ["-b", "--baseline"], .path false, "Baseline file path"⟩,
    configOption,
    ⟨.noBaseline, ["--no-baseline"], .switch, "Report all lint errors as new"⟩, helpOption]
  argument := some ⟨"LINT_RESULTS", true⟩

/-- Writing a file of settings. -/
def initSpec : CommandSpec where
  name := "init"
  summary := "Initialize .lintbaseline.yml configuration in a directory."
  paragraphs := []
  examples := ["lintbaseline init", "lintbaseline init ./my-project --force"]
  options := [⟨.force, ["--force"], .switch, "Overwrite existing configuration"⟩, helpOption]
  argument := some ⟨"PATH", false⟩

def versionSpec : CommandSpec where
  name := "version"
  summary := "Show version information."
  paragraphs := []
  examples := []
  options := [helpOption]
  argument := none

/-- The commands of the program, in the order of their names. -/
inductive Name
  | diff | init | show_ | version
deriving DecidableEq, Repr

def Name.all : List Name := [.diff, .init, .show_, .version]

def Name.spec : Name → CommandSpec
  | .diff => diffSpec
  | .init => initSpec
  | .show_ => showSpec
  | .version => versionSpec

def Name.ofWord? (s : String) : Option Name := all.find? fun n => n.spec.name == s

end Command

end FindingLedger
