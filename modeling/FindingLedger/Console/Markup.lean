/-
Text with tags between brackets, which say how it looks and are not shown.

A backslash before a bracket takes its meaning away.  Names between colons stand for
symbols, everywhere but inside of tags.
-/
import FindingLedger.Console.Symbols
import FindingLedger.Text.Blank
import FindingLedger.Text.CaseMap
import FindingLedger.Text.Screen

namespace FindingLedger

namespace Markup

def startsTag (c : Char) : Bool := ('a' ≤ c && c ≤ 'z') || c == '#' || c == '/' || c == '@'

/-- The inside of a tag whose bracket was just read, and what follows its other
bracket. -/
def tag? (cs : List Char) : Option (List Char × List Char) :=
  match cs with
  | [] => none
  | c :: rest =>
    if !startsTag c then none
    else
      let inside := rest.takeWhile fun d => d != '[' && d != ']'
      match rest.drop inside.length with
      | ']' :: after => some (c :: inside, after)
      | _ => none

/-- What follows a tag is shorter than the tag with it. -/
theorem tag?_length {cs inside after : List Char} (h : tag? cs = some (inside, after)) :
    after.length < cs.length := by
  unfold tag? at h
  split at h
  · simp at h
  · next c rest =>
    split at h
    · simp at h
    · simp only at h
      split at h
      · next a he =>
        simp only [Option.some.injEq, Prod.mk.injEq] at h
        obtain ⟨-, rfl⟩ := h
        have hl := congrArg List.length he
        simp only [List.length_drop, List.length_cons] at hl
        simp only [List.length_cons]
        omega
      · simp at h

/-- A part of a marked text. -/
inductive Piece
  | plain (cs : List Char)
  | tag (cs : List Char)
deriving DecidableEq, Repr

/-- Split a marked text.  `done` holds the plain text at hand and `slashes` counts the
backslashes behind it. -/
def split (done : List Char) (slashes : Nat) : List Char → List Piece
  | [] => [.plain (done.reverse ++ List.replicate slashes '\\')]
  | c :: rest =>
    if c == '\\' then split done (slashes + 1) rest
    else
      match _h : if c == '[' then tag? rest else none with
      | some (inside, after) =>
        let before := [.plain done.reverse, .plain (List.replicate (slashes / 2) '\\')]
        if slashes % 2 == 1 then
          before ++ .plain ('[' :: inside ++ [']']) :: split [] 0 after
        else before ++ .tag inside :: split [] 0 after
      | none => split (c :: (List.replicate slashes '\\' ++ done)) 0 rest
termination_by cs => cs.length
decreasing_by
  all_goals simp only [List.length_cons]
  · omega
  all_goals
    first
    | omega
    | (split at _h
       · have := tag?_length _h
         omega
       · simp at _h)

/-- A text without the backslashes that stand before brackets. -/
def dropSlashes : List Char → List Char
  | '\\' :: '[' :: rest => '[' :: dropSlashes rest
  | c :: rest => c :: dropSlashes rest
  | [] => []

/-- Marks behind a name that say how its symbol looks. -/
def variants : List (String × Char) :=
  [("-emoji", Char.ofNat 0xfe0f), ("-text", Char.ofNat 0xfe0e)]

/-- The end of a name: a colon, which a mark may stand before; the mark, and how many
characters the end takes. -/
def nameEnd? (cs : List Char) : Option (List Char × Nat) :=
  if cs.head? == some ':' then some ([], 1)
  else
    (variants.find? fun v => (v.1.toList ++ [':']).isPrefixOf cs).map fun v =>
      ([v.2], v.1.length + 1)

/-- The name behind a colon that was just read, the mark behind it, and how many
characters they take with the colon at the end.  There is no blank in a name. -/
def name? (name : List Char) (count : Nat) : List Char → Option (List Char × List Char × Nat)
  | [] => none
  | c :: rest =>
    match nameEnd? (c :: rest) with
    | some (mark, size) => some (name.reverse, mark, count + size)
    | none => if Text.isBlank c then none else name? (c :: name) (count + 1) rest

/-- A text with symbols for their names; the first `skip` characters are left as they
are. -/
def replaceNames (skip : Nat) : List Char → List Char
  | [] => []
  | c :: rest =>
    match skip with
    | n + 1 => c :: replaceNames n rest
    | 0 =>
      if c != ':' then c :: replaceNames 0 rest
      else match name? [] 0 rest with
        | none => c :: replaceNames 0 rest
        | some (name, mark, count) =>
          match symbol? (Text.lower (String.ofList name)) with
          | none => c :: replaceNames count rest
          | some s => s ++ mark ++ replaceNames 0 (rest.drop count)
termination_by cs => cs.length
decreasing_by all_goals (simp only [List.length_cons, List.length_drop]; omega)

def Piece.shown : Piece → List Char
  | .plain cs => replaceNames 0 (dropSlashes cs)
  | .tag _ => []

def shown (cs : List Char) : List Char :=
  if cs.contains '[' then (split [] 0 cs).flatMap Piece.shown else replaceNames 0 cs

/-- Put a backslash before what would be a tag, and double those that stand there. -/
def escapeTags (slashes : Nat) : List Char → List Char
  | [] => List.replicate slashes '\\'
  | c :: rest =>
    if c == '\\' then escapeTags (slashes + 1) rest
    else if c == '[' && (tag? rest).isSome then
      List.replicate (2 * slashes + 1) '\\' ++ '[' :: escapeTags 0 rest
    else List.replicate slashes '\\' ++ c :: escapeTags 0 rest

/-- A text to be put into a marked one: it holds no tags, and a backslash alone at its
end is doubled. -/
def escape (s : String) : String :=
  let cs := escapeTags 0 s.toList
  let ends := match cs.reverse with
    | '\\' :: '\\' :: _ => false
    | '\\' :: _ => true
    | _ => false
  String.ofList (if ends then cs ++ ['\\'] else cs)

/-- The lines that a marked text is shown as. -/
def lines (s : String) : List (List Char) := Text.screenLines (shown s.toList)

end Markup

end FindingLedger
