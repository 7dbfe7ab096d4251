/-
Chains of steps of which each may fail.
-/
import Mathlib.Init

namespace FindingLedger

variable {ε ε' α β : Type}

/-- A chain succeeds when its first step does and the rest does on what this gives. -/
theorem bind_eq_ok {x : Except ε α} {f : α → Except ε β} {b : β} :
    (x >>= f) = .ok b ↔ ∃ a, x = .ok a ∧ f a = .ok b := by
  cases x with
  | error e =>
    constructor
    · intro h
      cases h
    · rintro ⟨a, ha, _⟩
      cases ha
  | ok a =>
    constructor
    · exact fun h => ⟨a, rfl, h⟩
    · rintro ⟨a', ha, hb⟩
      cases ha
      exact hb

/-- A chain fails when its first step does, or the rest does on what this gives. -/
theorem bind_eq_error {x : Except ε α} {f : α → Except ε β} {e : ε} :
    (x >>= f) = .error e ↔ x = .error e ∨ ∃ a, x = .ok a ∧ f a = .error e := by
  cases x with
  | error e' =>
    constructor
    · exact fun h => Or.inl (congrArg Except.error (Except.error.inj h))
    · rintro (h | ⟨a, ha, _⟩)
      · exact congrArg Except.error (Except.error.inj h)
      · cases ha
  | ok a =>
    constructor
    · exact fun h => Or.inr ⟨a, rfl, h⟩
    · rintro (h | ⟨a', ha, hf⟩)
      · cases h
      · cases ha
        exact hf

/-- What a step gives when it succeeds. -/
theorem eq_ok_getD {x : Except ε α} (default : α) (hsome : x.toOption.isSome = true) :
    x = .ok (x.toOption.getD default) := by
  cases x with
  | error e => cases hsome
  | ok a => rfl

/-- A step that gives something succeeds. -/
theorem toOption_eq_some {x : Except ε α} {a : α} : x.toOption = some a ↔ x = .ok a := by
  cases x with
  | error e =>
    constructor
    · intro h
      cases h
    · intro h
      cases h
  | ok b => exact ⟨fun h => congrArg Except.ok (Option.some.inj h), fun h => by cases h; rfl⟩

/-- A loop succeeds when every round does. -/
theorem forM_eq_ok {xs : List α} {f : α → Except ε Unit} :
    xs.forM f = .ok () ↔ ∀ x ∈ xs, f x = .ok () := by
  induction xs with
  | nil => exact ⟨fun _ x hx => absurd hx List.not_mem_nil, fun _ => rfl⟩
  | cons x rest ih =>
    rw [List.forM_eq_forM, List.forM_cons, bind_eq_ok]
    rw [List.forM_eq_forM] at ih
    constructor
    · rintro ⟨_, hx, hrest⟩ y hy
      rcases List.mem_cons.1 hy with rfl | hmem
      · exact hx
      · exact ih.1 hrest y hmem
    · intro hall
      exact ⟨(), hall x List.mem_cons_self, ih.2 fun y hy => hall y (List.mem_cons_of_mem _ hy)⟩

/-- Every item has a result of some kind exactly when all of them together do. -/
theorem exists_mapM_iff {xs : List α} {f : α → Except ε β} {P : β → Prop} :
    (∃ ys, xs.mapM f = .ok ys ∧ ∀ y ∈ ys, P y) ↔ ∀ x ∈ xs, ∃ y, f x = .ok y ∧ P y := by
  induction xs with
  | nil =>
    refine ⟨fun _ x hx => absurd hx List.not_mem_nil, fun _ => ⟨[], rfl, ?_⟩⟩
    intro y hy
    exact absurd hy List.not_mem_nil
  | cons x rest ih =>
    rw [List.mapM_cons, List.forall_mem_cons, ← ih]
    constructor
    · rintro ⟨ys, hys, hall⟩
      obtain ⟨y, hy, hys⟩ := bind_eq_ok.1 hys
      obtain ⟨others, hothers, hys⟩ := bind_eq_ok.1 hys
      cases hys
      obtain ⟨hfirst, hrest⟩ := List.forall_mem_cons.1 hall
      exact ⟨⟨y, hy, hfirst⟩, others, hothers, hrest⟩
    · rintro ⟨⟨y, hy, hfirst⟩, others, hothers, hrest⟩
      refine ⟨y :: others, ?_, List.forall_mem_cons.2 ⟨hfirst, hrest⟩⟩
      exact bind_eq_ok.2 ⟨y, hy, bind_eq_ok.2 ⟨others, hothers, rfl⟩⟩

/-- Where there are no results, some item has none, for the same reason. -/
theorem exists_of_mapM_eq_error {xs : List α} {f : α → Except ε β} {e : ε}
    (hfails : xs.mapM f = .error e) : ∃ x ∈ xs, f x = .error e := by
  induction xs with
  | nil => cases hfails
  | cons x rest ih =>
    rw [List.mapM_cons] at hfails
    rcases bind_eq_error.1 hfails with hfirst | ⟨y, _, hfails⟩
    · exact ⟨x, List.mem_cons_self, hfirst⟩
    · rcases bind_eq_error.1 hfails with hrest | ⟨ys, _, hnever⟩
      · obtain ⟨x', hmem, hx'⟩ := ih hrest
        exact ⟨x', List.mem_cons_of_mem _ hmem, hx'⟩
      · cases hnever

/-- A loop whose rounds add what is made of each item gathers all of that. -/
theorem foldlM_eq_filterMap {f : List β → α → Except ε (List β)} {g : α → Option β}
    {xs : List α} (done : List β)
    (hround : ∀ x ∈ xs, ∀ done, f done x = .ok (done ++ (g x).toList)) :
    xs.foldlM f done = .ok (done ++ xs.filterMap g) := by
  induction xs generalizing done with
  | nil =>
    rw [List.filterMap_nil, List.append_nil]
    rfl
  | cons x rest ih =>
    have hrest := ih (done ++ (g x).toList) fun y hy => hround y (List.mem_cons_of_mem _ hy)
    rw [List.foldlM_cons, hround x List.mem_cons_self, List.filterMap_cons]
    refine hrest.trans ?_
    cases g x with
    | none => exact congrArg Except.ok (by rw [Option.toList_none, List.append_nil])
    | some b => exact congrArg Except.ok (List.append_assoc _ _ _)

/-- What a failure is called does not matter where there is none. -/
theorem mapError_eq_ok {f : ε → ε'} {x : Except ε α} {a : α} :
    x.mapError f = .ok a ↔ x = .ok a := by
  cases x with
  | error e =>
    constructor
    · intro h
      cases h
    · intro h
      cases h
  | ok a' => exact ⟨fun h => by cases h; rfl, fun h => by cases h; rfl⟩

/-- A failure by another name is a failure. -/
theorem mapError_eq_error {f : ε → ε'} {x : Except ε α} {e' : ε'} :
    x.mapError f = .error e' ↔ ∃ e, x = .error e ∧ f e = e' := by
  cases x with
  | error e =>
    constructor
    · exact fun h => ⟨e, rfl, Except.error.inj h⟩
    · rintro ⟨_, ⟨⟩, rfl⟩
      rfl
  | ok a =>
    constructor
    · intro h
      cases h
    · rintro ⟨_, h, _⟩
      cases h

/-- Two steps of whose results the same is made fail alike, or both succeed. -/
theorem map_eq_map_iff {x : Except ε α} {y : Except ε β} {γ : Type} {f : α → γ} {g : β → γ} :
    x.map f = y.map g ↔ (∃ e, x = .error e ∧ y = .error e) ∨
      ∃ a b, x = .ok a ∧ y = .ok b ∧ f a = g b := by
  constructor
  · intro hsame
    cases x with
    | error e =>
      cases y with
      | error e' => exact Or.inl ⟨e, rfl, congrArg Except.error (Except.error.inj hsame).symm⟩
      | ok b => cases hsame
    | ok a =>
      cases y with
      | error e' => cases hsame
      | ok b => exact Or.inr ⟨a, b, rfl, rfl, Except.ok.inj hsame⟩
  · rintro (⟨e, rfl, rfl⟩ | ⟨a, b, rfl, rfl, hab⟩)
    · rfl
    · exact congrArg Except.ok hab

/-- What is made of a result has one exactly where there is a result. -/
theorem map_eq_ok {f : α → β} {x : Except ε α} {b : β} :
    x.map f = .ok b ↔ ∃ a, x = .ok a ∧ f a = b := by
  cases x with
  | error e =>
    constructor
    · intro h
      cases h
    · rintro ⟨a, ha, _⟩
      cases ha
  | ok a =>
    constructor
    · intro h
      exact ⟨a, rfl, Except.ok.inj h⟩
    · rintro ⟨a', ha, rfl⟩
      cases ha
      rfl

/-- A changed result fails where there is no result. -/
theorem map_eq_error {f : α → β} {x : Except ε α} {e : ε} :
    x.map f = .error e ↔ x = .error e := by
  cases x with
  | error e' => exact ⟨fun h => congrArg Except.error (Except.error.inj h),
      fun h => congrArg Except.error (Except.error.inj h)⟩
  | ok a =>
    constructor
    · intro h
      cases h
    · intro h
      cases h

end FindingLedger
