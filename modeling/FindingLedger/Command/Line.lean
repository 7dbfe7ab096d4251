/-
Reading a command line.

Words that start with a dash are options, up to a double dash.  An option that takes a
value takes it from the same word, or else from the next one, whatever that is.
-/
import FindingLedger.Command.Spec
import FindingLedger.FileTree
import FindingLedger.Text.Similarity

namespace FindingLedger

namespace Command

/-- Why a command line can not be followed. -/
inductive UsageFault
  | unknownOption (name : String) (close : List String)
  | needsValue (name : String)
  | takesNoValue (name : String)
  /-- A parameter whose value is the path of nothing; what it should be the path of. -/
  | absent (parameter : String) (kind : String) (value : String)
  | directory (parameter : String) (value : String)
  | missingArgument (name : String)
  | extraArguments (words : List String)
  | missingCommand
  | unknownCommand (name : String) (close : List String)
deriving DecidableEq, Repr

/-- A complaint with what may have been meant. -/
def withClose (message many : String) (close : List String) : String :=
  match close with
  | [] => message
  | [name] => s!"{message} Did you mean {Text.quoted name}?"
  | names =>
    let shown := ", ".intercalate ((names.mergeSort fun a b => a ≤ b).map Text.quoted)
    s!"{message} ({many}: {shown})"

def UsageFault.message : UsageFault → String
  | .unknownOption name close =>
    withClose s!"No such option {Text.quoted name}." "Possible options" close
  | .needsValue name => s!"Option {Text.quoted name} requires an argument."
  | .takesNoValue name => s!"Option {Text.quoted name} does not take a value."
  | .absent parameter kind value =>
    s!"Invalid value for {parameter}: {kind} {Text.quoted value} does not exist."
  | .directory parameter value =>
    s!"Invalid value for {parameter}: File {Text.quoted value} is a directory."
  | .missingArgument name => s!"Missing argument '{name}'."
  | .extraArguments words =>
    let plural := if words.length == 1 then "" else "s"
    let shown := " ".intercalate words
    s!"Got unexpected extra argument{plural} ({shown})"
  | .missingCommand => "Missing command."
  | .unknownCommand name close =>
    withClose s!"No such command {Text.quoted name}." "Possible commands" close

/-- Whether the complaint comes with a reminder of the usage. -/
def UsageFault.showsUsage : UsageFault → Bool
  | .needsValue _ | .takesNoValue _ => false
  | _ => true

/-- An option that was given, and its value, if it takes one. -/
abbrev Given := OptionId × String

/-- The options of one word, and the one that waits for its value: its name as written,
and which it is. -/
structure WordOptions where
  given : List Given
  waiting : Option (String × OptionId)
deriving DecidableEq, Repr

/-- Read letters of short options.  One that takes a value takes what follows it. -/
def readShort (c : CommandSpec) : List Char → Except UsageFault WordOptions
  | [] => .ok ⟨[], none⟩
  | letter :: rest =>
    let name := String.ofList ['-', letter]
    match c.option? name with
    | none => .error (.unknownOption name [])
    | some o =>
      if o.takesValue then
        if rest.isEmpty then .ok ⟨[], some (name, o.id)⟩
        else .ok ⟨[(o.id, String.ofList rest)], none⟩
      else do
        let others ← readShort c rest
        .ok { others with given := (o.id, "") :: others.given }

/-- The name and the value of a long option: an equals sign parts them. -/
def splitValue (cs : List Char) : String × Option String :=
  let name := cs.takeWhile (· != '=')
  (String.ofList name,
    if name.length < cs.length then some (String.ofList (cs.drop (name.length + 1))) else none)

def readOptions (c : CommandSpec) (word : String) : Except UsageFault WordOptions :=
  let (name, value) := splitValue word.toList
  match c.longOption? name with
  | some o =>
    match o.takesValue, value with
    | true, some value => .ok ⟨[(o.id, value)], none⟩
    | true, none => .ok ⟨[], some (name, o.id)⟩
    | false, some _ => .error (.takesNoValue name)
    | false, none => .ok ⟨[(o.id, "")], none⟩
  | none =>
    match word.toList with
    | '-' :: '-' :: _ => .error (.unknownOption name (Text.closeTo name c.longNames))
    | _ => readShort c (word.toList.drop 1)

/-- A command line that was read: its options in their order, and its other words. -/
structure Line where
  options : List Given
  words : List String
deriving DecidableEq, Repr

def isOptions (word : String) : Bool := word.toList.head? == some '-' && 1 < word.length

/-- Read the words of a command line.  Options may stand behind other words only where
`mixed` says so. -/
def readFrom (c : CommandSpec) (mixed : Bool) :
    Option (String × OptionId) → List String → Except UsageFault Line
  | none, [] => .ok ⟨[], []⟩
  | some (name, _), [] => .error (.needsValue name)
  | some (_, id), word :: rest => do
    let line ← readFrom c mixed none rest
    .ok { line with options := (id, word) :: line.options }
  | none, word :: rest =>
    if word == "--" then .ok ⟨[], rest⟩
    else if isOptions word then do
      let found ← readOptions c word
      let line ← readFrom c mixed found.waiting rest
      .ok { line with options := found.given ++ line.options }
    else if mixed then do
      let line ← readFrom c mixed none rest
      .ok { line with words := word :: line.words }
    else .ok ⟨[], word :: rest⟩

/-- Read the command line of the program: its options end at the first other word. -/
def readProgram (args : List String) : Except UsageFault Line :=
  readFrom program false none args

def readCommand (n : Name) (args : List String) : Except UsageFault Line :=
  readFrom n.spec true none args

namespace Line

def has (l : Line) (id : OptionId) : Bool := l.options.any fun o => o.1 == id

/-- The value of an option; of several the last counts. -/
def value? (l : Line) (id : OptionId) : Option String :=
  l.options.reverse.lookup id

def path? (l : Line) (id : OptionId) : Option Path := (l.value? id).map .ofString

/-- The first option that shows a text. -/
def notice? (l : Line) : Option OptionId :=
  (l.options.find? fun o => o.1 == .help || o.1 == .version).map (·.1)

end Line

/-- Why the values on a command line are of no use. -/
inductive ValueFault
  | usage (f : UsageFault)
  /-- A path with a null character. -/
  | nullCharacter
deriving DecidableEq, Repr

/-- Look whether a path leads somewhere. -/
def probe (t : FileTree) (cwd : Location) (value : String) :
    Except ValueFault (Option Node) :=
  match t.status cwd value with
  | .ok (_, n) => .ok (some n)
  | .error .nullCharacter => .error .nullCharacter
  | .error _ => .ok none

/-- Check the value of an option that takes a path. -/
def checkOption (t : FileTree) (cwd : Location) (o : OptionSpec) (value : String) :
    Except ValueFault Unit := do
  let found ← probe t cwd value
  if o.mustExist && found.isNone then
    let parameter := " / ".intercalate (o.names.map fun n => s!"'{n}'")
    .error (.usage (.absent parameter "Path" value))
  else .ok ()

def checkArgument (t : FileTree) (cwd : Location) (a : ArgumentSpec) (value : String) :
    Except ValueFault Unit := do
  match ← probe t cwd value with
  | none =>
    if a.required then .error (.usage (.absent s!"'{a.name}'" "File" value)) else .ok ()
  | some .directory =>
    if a.required then .error (.usage (.directory s!"'{a.name}'" value)) else .ok ()
  | some _ => .ok ()

/-- Check the values of the options that were given, in the order in which they came. -/
def checkOptions (t : FileTree) (cwd : Location) (c : CommandSpec) (l : Line) :
    Except ValueFault Unit :=
  (l.options.map (·.1)).eraseDups.forM fun id =>
    match c.options.find? fun o => o.id == id with
    | some o => if o.takesValue then checkOption t cwd o ((l.value? id).getD "") else .ok ()
    | none => .ok ()

/-- Check the words of a command line: at most one, if the command takes an argument. -/
def checkWords (t : FileTree) (cwd : Location) (c : CommandSpec) (l : Line) :
    Except ValueFault Unit := do
  let extra ← match c.argument, l.words with
    | none, words => .ok words
    | some a, [] => if a.required then .error (.usage (.missingArgument a.name)) else .ok []
    | some a, word :: rest => do
      checkArgument t cwd a word
      .ok rest
  if extra.isEmpty then .ok () else .error (.usage (.extraArguments extra))

def check (t : FileTree) (cwd : Location) (c : CommandSpec) (l : Line) :
    Except ValueFault Unit := do
  checkOptions t cwd c l
  checkWords t cwd c l

end Command

end FindingLedger
