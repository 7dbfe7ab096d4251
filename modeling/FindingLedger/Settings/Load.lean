/-
Loading settings from files, variables and flags.

A later source takes precedence over an earlier one, setting by setting: the file of
the user, the file of the project, variables of the environment, flags.
-/
import FindingLedger.Settings.Check
import FindingLedger.Settings.Environment
import FindingLedger.Settings.Flags
import FindingLedger.Yaml.Endless
import FindingLedger.Yaml.Value

namespace FindingLedger

namespace Settings

/-- Why there are no settings. -/
inductive LoadFault
  /-- A file could not be read. -/
  | unreadable (e : FileError)
  | yaml (name : String) (e : Yaml.Error)
  /-- A file holds a value of another type than a dictionary. -/
  | notMapping (typeName : String)
  /-- Two files whose dictionaries hold themselves. -/
  | endless
  /-- A section whose name is no text. -/
  | nameType
  /-- A name of a setting that is a number with too many digits. -/
  | longName
  /-- A name of a setting that can not be encoded. -/
  | brokenName
  | flag (f : PathFault)
  | variable_ (f : VariableFault)
  | invalid (complaints : List Complaint)

def LoadFault.message : LoadFault → String
  | .unreadable e => e.message
  | .yaml name e => e.message name
  | .notMapping typeName => s!"'{typeName}' object has no attribute 'items'"
  | .endless => "maximum recursion depth exceeded while calling a Python object"
  | .nameType => "keywords must be strings"
  | .longName => Numeral.tooLongText
  | .brokenName => "surrogates not allowed"
  | .flag f => f.message
  | .variable_ f => f.message
  | .invalid complaints => complaintsMessage complaints

/-- What a file of settings holds, and the value that this comes from, if there is one. -/
structure Sheet where
  entries : List (Scalar × Datum)
  source? : Option Yaml.Assembly

def Sheet.blank : Sheet := ⟨[], none⟩

/-- Whether one file of settings can not be laid over another. -/
def Sheet.isEndlessUnder (lower upper : Sheet) : Bool :=
  match lower.source?, upper.source? with
  | some a, some b => a.isEndlessUnder b
  | _, _ => false

/-- The settings in the bytes of a file.  A value that stands for no is no setting. -/
def ofBytes (name : String) (bytes : List UInt8) : Except LoadFault Sheet := do
  match ← (Yaml.Source.ofBytes bytes >>= Yaml.read?).mapError (.yaml name) with
  | none => .ok .blank
  | some a =>
    let v := a.value
    if !v.truthy then .ok .blank
    else match v with
      | .dict entries => .ok ⟨entries, some a⟩
      | v => .error (.notMapping v.typeName)

/-- The settings in a file; none when it is not there. -/
def ofFile (t : FileTree) (cwd : Location) (path : Path) : Except LoadFault Sheet :=
  let shown := path.text
  match t.holds cwd shown with
  | .error fault => .error (.unreadable ⟨fault, shown⟩)
  | .ok false => .ok .blank
  | .ok true =>
    match t.read cwd shown with
    | .error fault => .error (.unreadable ⟨fault, shown⟩)
    | .ok bytes => ofBytes shown bytes.toList

/-- Give a section its proper name, unless another one has it: the case of letters does
not matter. -/
def renamed (entries : List (Scalar × Datum)) : List (Scalar × Datum) :=
  default.sections.foldl
    (fun entries e =>
      if (Datum.find? (.text e.1) entries).isSome then entries
      else entries.map fun f =>
        match f.1 with
        | .text s => if Text.lower s == e.1 then (.text e.1, f.2) else f
        | _ => f)
    entries

/-- Whether a section has a name that is a text. -/
def isNamed (e : Scalar × Datum) : Bool :=
  match e.1 with
  | .text _ | .broken _ => true
  | _ => false

/-- The settings that given ones and variables make; the given ones take precedence. -/
def ofEntries (env : Environment) (entries : List (Scalar × Datum)) :
    Except LoadFault Settings := do
  if !entries.all isNamed then .error .nameType
  let given ← (ofVariables env).mapError .variable_
  (check (Datum.overlayEntries given (renamed entries))).mapError .invalid

/-- Join the settings of files and flags.  Settings of files for which a variable is
set are left out. -/
def joined (env : Environment) (files flags : List (Scalar × Datum)) :
    List (Scalar × Datum) :=
  Datum.overlayEntries (dropOverridden (env.map (·.1)) variablePrefix files) flags

/-- Where the file of the user is, below the home directory. -/
def userFile : Path := .ofString ".lintbaseline/config.yml"

/-- Where the file of a project is, below its directory. -/
def projectFile : Path := .ofString ".lintbaseline.yml"

/-- What the names of variables are made with, name by name: a section that is no dictionary, or
a section and a setting in it. -/
def variableParts : List (Scalar × Datum) → List (List Scalar)
  | [] => []
  | (sectionName, .dict entries) :: rest =>
    entries.map (fun e => [sectionName, e.1]) ++ variableParts rest
  | (sectionName, _) :: rest => [sectionName] :: variableParts rest

/-- Whether something can be part of the name of a variable: it has a text, which can be
encoded. -/
def namesVariable : Scalar → Bool
  | .broken t => t.standsForBytes
  | s => s.isWritable

/-- Whether names of variables can be made with all names. -/
def namesWritable (entries : List (Scalar × Datum)) : Bool :=
  (variableParts entries).all (·.all namesVariable)

/-- Why no name of a variable can be made of these parts.  A name is encoded when its parts have
been put together. -/
def partsFault (parts : List Scalar) : LoadFault :=
  if parts.all Scalar.isWritable then .brokenName else .longName

/-- Why names of variables can not be made with all names: what is wrong with the first. -/
def nameFault (entries : List (Scalar × Datum)) : LoadFault :=
  partsFault (((variableParts entries).find? fun parts => !parts.all namesVariable).getD [])

def load (t : FileTree) (cwd : Location) (home : Path) (env : Environment) (file : Path)
    (flags : List (String × Datum)) : Except LoadFault Settings := do
  let user ← ofFile t cwd (home.join userFile)
  let project ← ofFile t cwd file
  if user.isEndlessUnder project then .error .endless
  let files := Datum.overlayEntries (Datum.overlayEntries [] user.entries) project.entries
  if !namesWritable files then .error (nameFault files)
  let flags ← (ofFlags flags).mapError .flag
  ofEntries env (joined env files flags)

end Settings

end FindingLedger
