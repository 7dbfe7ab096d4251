/-
How commands are used: the text that is shown for help, and the lines above a complaint.
-/
import FindingLedger.Command.Spec

namespace FindingLedger

namespace Command

/-- The longest line of a help text. -/
def helpWidth : Nat := 78

/-- Put words on lines of at most a width; `line` holds the words of the line at hand,
last first, and `length` is its length. -/
def fillLines (width : Nat) (line : List String) (length : Nat) : List String → List String
  | [] => if line.isEmpty then [] else [" ".intercalate line.reverse]
  | word :: rest =>
    if line.isEmpty then fillLines width [word] word.length rest
    else if length + 1 + word.length ≤ width then
      fillLines width (word :: line) (length + 1 + word.length) rest
    else " ".intercalate line.reverse :: fillLines width [word] word.length rest

def wordsOf (s : String) : List String := (s.split (· == ' ')).toList.map (·.toString)

def paragraph (indent : Nat) (s : String) : List String :=
  (fillLines (helpWidth - indent) [] 0 (wordsOf s)).map fun l =>
    String.ofList (List.replicate indent ' ') ++ l

/-- A name with blanks behind it up to a width. -/
def padName (width : Nat) (s : String) : String :=
  String.ofList (s.toList.rightpad width ' ')

/-- Lines of names and what they mean, the meanings below each other. -/
def definitions (entries : List (String × String)) : List String :=
  let width := entries.foldl (fun n e => max n e.1.length) 0
  entries.map fun e => "  " ++ padName (width + 2) e.1 ++ e.2

/-- An option as its names and the kind of its value. -/
def OptionSpec.label (o : OptionSpec) : String :=
  ", ".intercalate o.names ++ if o.takesValue then " PATH" else ""

/-- What follows the name of a command on its command line. -/
def CommandSpec.operands (c : CommandSpec) : String :=
  match c.argument with
  | none => ""
  | some a => if a.required then s!" {a.name}" else s!" [{a.name}]"

def programUsage : String := s!"Usage: {program.name} [OPTIONS] COMMAND [ARGS]..."

def Name.usage (n : Name) : String :=
  s!"Usage: {program.name} {n.spec.name} [OPTIONS]{n.spec.operands}"

/-- A paragraph with an empty line above it. -/
def below (ls : List String) : List String := "" :: ls

/-- The help text of a command below its usage. -/
def CommandSpec.body (c : CommandSpec) : List String :=
  let examples :=
    if c.examples.isEmpty then []
    else below (paragraph 2 "Examples:") ++ c.examples.flatMap fun e => below ["      " ++ e]
  below (paragraph 2 c.summary) ++ c.paragraphs.flatMap (fun p => below (paragraph 2 p)) ++
    examples ++
    below ("Options:" :: definitions (c.options.map fun o => (o.label, o.meaning)))

def programHelp : List String :=
  programUsage :: program.body ++
    below ("Commands:" :: definitions (Name.all.map fun n => (n.spec.name, n.spec.summary)))

def Name.help (n : Name) : List String := n.usage :: n.spec.body

end Command

end FindingLedger
