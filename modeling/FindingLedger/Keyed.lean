/-
Lists of pairs as maps that keep the order in which their keys came.
-/

namespace FindingLedger

namespace Keyed

variable {α β : Type} [BEq α]

/-- Set the value of a key: in place when the key is there, else at the end. -/
def put (key : α) (value : β) : List (α × β) → List (α × β)
  | [] => [(key, value)]
  | (k, v) :: rest => if k == key then (k, value) :: rest else (k, v) :: put key value rest

def erase (key : α) (entries : List (α × β)) : List (α × β) :=
  entries.filter fun e => !(e.1 == key)

/-- The map that pairs make when they are set one after the other. -/
def ofList (pairs : List (α × β)) : List (α × β) :=
  pairs.foldl (fun entries p => put p.1 p.2 entries) []

/-- What was set is found. -/
theorem lookup_put_self [LawfulBEq α] (key : α) (value : β) (entries : List (α × β)) :
    (put key value entries).lookup key = some value := by
  induction entries with
  | nil => simp [put]
  | cons e rest ih =>
    obtain ⟨k, v⟩ := e
    by_cases h : k = key
    · subst h
      simp [put]
    · have h' : (key == k) = false := by simpa using fun e => h e.symm
      simp [put, h, List.lookup_cons, h', ih]

/-- Setting one key leaves the others as they are. -/
theorem lookup_put_of_ne [LawfulBEq α] {key other : α} (h : other ≠ key) (value : β)
    (entries : List (α × β)) : (put key value entries).lookup other = entries.lookup other := by
  induction entries with
  | nil =>
    have h' : (other == key) = false := by simpa using h
    simp [put, List.lookup_cons, h']
  | cons e rest ih =>
    obtain ⟨k, v⟩ := e
    by_cases hk : k = key
    · subst hk
      have h' : (other == k) = false := by simpa using h
      simp [put, List.lookup_cons, h']
    · simp [put, hk, List.lookup_cons, ih]

end Keyed

end FindingLedger
