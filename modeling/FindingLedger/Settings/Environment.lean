/-
Environment variables, and the settings of files that they take precedence over.
-/
import FindingLedger.Json.Read
import FindingLedger.Settings.Basic
import FindingLedger.Settings.Overlay

namespace FindingLedger

/-- The variables of the environment, in its order. -/
abbrev Environment := List (String × String)

namespace Settings

/-- What the names of all variables for settings start with. -/
def variablePrefix : String := "LINTBASELINE_"

/-- The mark between a section and a key in the name of a variable. -/
def variableDelimiter : String := "__"

/-- Leave out the entries of a section for which a variable is set. -/
def dropKeys (names : List String) (front : String) (sectionName : Scalar)
    (entries : List (Scalar × Datum)) : List (Scalar × Datum) :=
  entries.filter fun e =>
    !names.contains
      (Text.upper (front ++ sectionName.display ++ variableDelimiter ++ e.1.display))

/-- Leave out the settings of files for which a variable is set whose name is in capital
letters: `front`, the section and the key, or the section alone when it is no
dictionary. -/
def dropOverridden (names : List String) (front : String) :
    List (Scalar × Datum) → List (Scalar × Datum)
  | [] => []
  | (sectionName, .dict entries) :: rest =>
    (sectionName, .dict (dropKeys names front sectionName entries)) ::
      dropOverridden names front rest
  | (sectionName, value) :: rest =>
    if names.contains (Text.upper (front ++ sectionName.display)) then
      dropOverridden names front rest
    else (sectionName, value) :: dropOverridden names front rest

/-- Split a text at every delimiter; `done` holds the part at hand, last character
first. -/
def splitDelimited (done : List Char) : List Char → List String
  | [] => [String.ofList done.reverse]
  | '_' :: '_' :: rest => String.ofList done.reverse :: splitDelimited [] rest
  | c :: rest => splitDelimited (c :: done) rest

/-- The names of variables in small letters; of two that become the same the later
counts. -/
def smallNames (env : Environment) : Environment :=
  Keyed.ofList (env.map fun e => (Text.lower e.1, e.2))

/-- Set the value under a list of keys; dictionaries are made on the way, but no other
value is replaced by one. -/
def setUnder (value : Datum) : List String → List (Scalar × Datum) → List (Scalar × Datum)
  | [], entries => entries
  | [key], entries => Datum.put (.text key) value entries
  | key :: rest, entries =>
    match Datum.find? (.text key) entries with
    | none => Datum.put (.text key) (.dict (setUnder value rest [])) entries
    | some (.dict inner) =>
      Datum.put (.text key) (.dict (setUnder value rest inner)) entries
    | some _ => entries

/-- The settings of a section for which variables are set one by one. -/
def nestedVariables (sectionName : String) (env : Environment) : List (Scalar × Datum) :=
  let front := (Text.lower variablePrefix ++ sectionName ++ variableDelimiter).toList
  env.foldl
    (fun entries e =>
      match front.isPrefixOf? e.1.toList with
      | some rest => setUnder (.text e.2) (splitDelimited [] rest) entries
      | none => entries)
    []

/-- Write the names of settings as they are defined, whatever the case of their
letters. -/
def properNames (known : List String) (entries : List (Scalar × Datum)) :
    List (Scalar × Datum) :=
  Datum.ofEntries (entries.map fun e =>
    match e.1 with
    | .text s => (.text ((known.find? fun k => Text.lower k == Text.lower s).getD s), e.2)
    | _ => e)

/-- What the variables say about a section: one for the section holds a value in JSON,
and those for single settings are laid over it.  Fails when the value can not be
read. -/
def variablesOf (sectionName : String) (known : List String) (env : Environment) :
    Except Json.Error (Option Datum) :=
  let nested := nestedVariables sectionName env
  let dict (entries : List (Scalar × Datum)) : Datum := .dict (properNames known entries)
  match env.lookup (Text.lower variablePrefix ++ sectionName) with
  | none => .ok (if nested.isEmpty then none else some (dict nested))
  | some text =>
    match Json.read text.toList with
    | .error e => .error e
    | .ok (.scalar .null) => .ok none
    | .ok (.dict entries) => .ok (some (dict (Datum.overlayEntries entries nested)))
    | .ok v => .ok (some v)

/-- A section whose variable can not be read, and why. -/
structure VariableFault where
  sectionName : String
  cause : Json.Error
deriving DecidableEq, Repr

def VariableFault.message (f : VariableFault) : String :=
  if f.cause.isOfText then
    s!"error parsing value for field \"{f.sectionName}\" from source \"EnvSettingsSource\""
  else f.cause.message

/-- What the variables say about all settings. -/
def ofVariables (env : Environment) : Except VariableFault (List (Scalar × Datum)) :=
  let env := smallNames env
  default.sections.foldlM
    (fun entries e =>
      match variablesOf e.1 (e.2.map (·.1)) env with
      | .error cause => .error ⟨e.1, cause⟩
      | .ok none => .ok entries
      | .ok (some v) => .ok (entries ++ [(.text e.1, v)]))
    []

end Settings

end FindingLedger
