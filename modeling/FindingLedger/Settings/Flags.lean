/-
Settings that the flags of a command line stand for.

Each flag sets one setting.  Flags that are off or absent set nothing; of two flags
for one setting the later wins.
-/
import FindingLedger.Path
import FindingLedger.Settings.Overlay

namespace FindingLedger

namespace Settings

/-- What a flag does with its value. -/
inductive FlagKind
  /-- A value that stands for yes sets the setting to this one. -/
  | switch (value : Datum)
  /-- The value is a path. -/
  | path

/-- The setting of a flag: its section, its key, and what becomes of the value. -/
def flagTarget? (flag : String) : Option (String × String × FlagKind) :=
  match flag with
  | "verbose" => some ("logging", "level", .switch (.text "DEBUG"))
  | "quiet" => some ("logging", "level", .switch (.text "ERROR"))
  | "log_file" => some ("logging", "file", .path)
  | "json_logs" => some ("logging", "json_format", .switch (.bool true))
  | "baseline" => some ("baseline", "path", .path)
  | "no_baseline" => some ("baseline", "enabled", .switch (.bool false))
  | _ => none

/-- A value that is no path; its type. -/
structure PathFault where
  typeName : String
deriving DecidableEq, Repr

def PathFault.message (f : PathFault) : String :=
  s!"expected str, bytes or os.PathLike object, not {f.typeName}"

/-- The value that a flag gives to its setting, if it sets it at all. -/
def FlagKind.apply (k : FlagKind) (v : Datum) : Except PathFault (Option Datum) :=
  match k with
  | .switch value => .ok (if v.truthy then some value else none)
  | .path =>
    match v with
    | .path t => .ok (some (.path t))
    | .scalar (.text s) => .ok (some (.path (Path.ofString s).text))
    | v => .error ⟨v.typeName⟩

/-- Set a setting of a section; the section is added when it is not there. -/
def setIn (entries : List (Scalar × Datum)) (sectionName key : String) (value : Datum) :
    List (Scalar × Datum) :=
  Datum.alter (.text sectionName) (.dict [(.text key, value)])
    (fun old => match old with
      | .dict inner => .dict (Datum.put (.text key) value inner)
      | v => v) entries

def ofFlagsFrom (done : List (Scalar × Datum)) :
    List (String × Datum) → Except PathFault (List (Scalar × Datum))
  | [] => .ok done
  | (flag, value) :: rest =>
    match value, flagTarget? flag with
    | .scalar .null, _ | _, none => ofFlagsFrom done rest
    | value, some (sectionName, key, kind) => do
      match ← kind.apply value with
      | some v => ofFlagsFrom (setIn done sectionName key v) rest
      | none => ofFlagsFrom done rest

def ofFlags (flags : List (String × Datum)) : Except PathFault (List (Scalar × Datum)) :=
  ofFlagsFrom [] flags

end Settings

end FindingLedger
