/-
Rule ids: a rule set, a colon and a rule.

An id without a colon names a rule of the standard set, so both spellings of such
a rule have one normal form, with the set in front.
-/
import FindingLedger.Datum

namespace FindingLedger

namespace RuleId

/-- The rule set of ids that name none. -/
def standardSet : String := "standard"

/-- The mark between a rule set and a rule. -/
def delimiter : Char := ':'

def hasSet (id : String) : Bool :=
  id.toList.contains delimiter

/-- Put the standard set in front of an id. -/
def withStandardSet (id : String) : String :=
  standardSet ++ delimiter.toString ++ id

def normalize (id : String) : String :=
  if hasSet id then id else withStandardSet id

/-- The rule set and the rule of an id: what stands before and after the first colon
of its normal form. -/
def split (id : String) : String × String :=
  let cs := (normalize id).toList
  (String.ofList (cs.takeWhile (· != delimiter)),
    String.ofList ((cs.dropWhile (· != delimiter)).drop 1))

theorem hasSet_normalize (id : String) : hasSet (normalize id) = true := by
  unfold normalize
  split
  · assumption
  · simp [hasSet, withStandardSet, standardSet, delimiter]

theorem normalize_normalize (id : String) : normalize (normalize id) = normalize id := by
  rw [normalize, if_pos (hasSet_normalize id)]

end RuleId

/-- A value that can not be searched for a colon; its type. -/
structure RuleFault where
  typeName : String
deriving DecidableEq, Repr

def RuleFault.message (f : RuleFault) : String :=
  if f.typeName == "bytes" then "a bytes-like object is required, not 'str'"
  else s!"argument of type '{f.typeName}' is not iterable"

namespace RuleId

/-- Whether the value that stands for a rule id holds a colon: a text in its
characters, a collection among its members. -/
def hasSetIn (id : Datum) : Except RuleFault Bool :=
  let colon := Scalar.text delimiter.toString
  match id with
  | .scalar (.text s) => .ok (hasSet s)
  | .scalar (.broken t) => .ok (t.glyphs.contains (.char delimiter))
  | .list items | .tuple items => .ok (items.any fun i => i.sameAs (.scalar colon))
  | .set items => .ok (items.any fun i => i.sameAs colon)
  | .dict entries => .ok (Datum.find? colon entries).isSome
  | id => .error ⟨id.typeName⟩

/-- A value that stands for a rule id, with the standard set in front.  Halves of pairs stay. -/
def valueWithStandardSet : Datum → Datum
  | .scalar (.broken t) => .scalar (.broken (t.after (withStandardSet "")))
  | id => .text (withStandardSet id.display)

/-- The normal form of the value that stands for a rule id. -/
def normalizeValue (id : Datum) : Except RuleFault Datum := do
  if ← hasSetIn id then .ok id else .ok (valueWithStandardSet id)

theorem normalizeValue_text (s : String) :
    normalizeValue (.text s) = .ok (.text (normalize s)) := by
  simp only [normalizeValue, hasSetIn, normalize, valueWithStandardSet, Datum.display,
    Scalar.display, bind, Except.bind]
  split <;> simp_all

end RuleId

end FindingLedger
