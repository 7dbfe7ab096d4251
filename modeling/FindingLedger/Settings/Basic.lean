/-
The settings of the program.
-/
import FindingLedger.Datum
import FindingLedger.FileTree
import FindingLedger.Text.CaseMap
import FindingLedger.Yaml.Write

namespace FindingLedger

/-- From which level on the console shows notes. -/
inductive Threshold
  | debug | info | warning | error | critical
deriving DecidableEq, Repr

namespace Threshold

def all : List Threshold := [.debug, .info, .warning, .error, .critical]

def word : Threshold → String
  | .debug => "DEBUG"
  | .info => "INFO"
  | .warning => "WARNING"
  | .error => "ERROR"
  | .critical => "CRITICAL"

/-- The threshold that a word stands for, in whatever case. -/
def named? (s : String) : Option Threshold :=
  all.find? fun t => t.word == Text.upper s

end Threshold

/-- Settings of the baseline. -/
structure BaselineSettings where
  enabled : Bool
  path : Path
deriving DecidableEq, Repr

/-- Settings of the journal.  The size is in units of 2²⁰ bytes. -/
structure JournalSettings where
  level : Threshold
  file : Option Path
  jsonFormat : Bool
  maxFileSize : Int
  backupCount : Int
deriving DecidableEq, Repr

/-- All settings. -/
structure Settings where
  baseline : BaselineSettings
  journal : JournalSettings
deriving DecidableEq, Repr

namespace Settings

/-- The settings where nothing else is said. -/
def default : Settings :=
  ⟨⟨true, .ofString "baseline.xml"⟩, ⟨.info, none, false, 10, 5⟩⟩

def baselineSection : String := "baseline"

def journalSection : String := "logging"

def baselineEntries (s : BaselineSettings) : List (String × Scalar) :=
  [("enabled", .bool s.enabled), ("path", .text s.path.text)]

def journalEntries (s : JournalSettings) : List (String × Scalar) :=
  [("level", .text s.level.word),
   ("file", (s.file.map fun p => Scalar.text p.text).getD .null),
   ("json_format", .bool s.jsonFormat), ("max_file_size_mb", .int s.maxFileSize),
   ("backup_count", .int s.backupCount)]

def sections (s : Settings) : List (String × List (String × Scalar)) :=
  [(baselineSection, baselineEntries s.baseline), (journalSection, journalEntries s.journal)]

/-- The settings as a dictionary of sections. -/
def entries (s : Settings) : List (Scalar × Datum) :=
  s.sections.map fun e =>
    (.text e.1, .dict (e.2.map fun f => (.text f.1, .scalar f.2)))

/-- The settings as the text of a configuration file. -/
def document (s : Settings) : List Char := Yaml.writeSections s.sections

def isWritable (s : Settings) : Bool :=
  s.sections.all fun e => e.2.all fun f => f.2.isWritable

/-- The ending that the name of a baseline file should have. -/
def baselineSuffix : String := ".xml"

/-- What is odd about the settings.  Looking at the path may fail. -/
def warnings (s : Settings) (t : FileTree) (cwd : Location) :
    Except FileError (List String) := do
  let shown := s.baseline.path.text
  let state ←
    if !s.baseline.enabled then
      .ok ["Baseline is disabled, all lint errors will be reported"]
    else match t.holdsDirectory cwd shown with
      | .error fault => .error ⟨fault, shown⟩
      | .ok true => .ok [s!"Baseline path is a directory: {shown}"]
      | .ok false => .ok []
  let suffix := s.baseline.path.suffix
  if suffix.isEmpty || Text.lower suffix == baselineSuffix then .ok state
  else .ok (state ++ [s!"Baseline path does not have an .xml extension: {shown}"])

end Settings

end FindingLedger
