/-
Walking from one place to another.

A place is given by its segments from the root, and a walk takes one segment after the other: two
points go up, one point stays, anything else goes down.  Resolving a path is walking along it from
the root.  The route between two places goes up to where they part and down from there, and no
walk takes fewer steps, since each step changes by one at most how far the target is.
-/
import FindingLedger.Proofs.Path

namespace FindingLedger

namespace Path

/-- Where one segment leads from a place. -/
def step (place : List String) (s : String) : List String :=
  if s = "." then place else if s = ".." then place.dropLast else place ++ [s]

/-- Where segments lead from a place, one after the other. -/
def walk (start steps : List String) : List String :=
  steps.foldl step start

/-- The longest segments that two places start with. -/
structure IsLongestCommonPrefix (common start target : List String) : Prop where
  left : common <+: start
  right : common <+: target
  longest : ∀ other, other <+: start → other <+: target → other.length ≤ common.length

variable {start target steps place : List String} {s : String}

theorem walk_cons (start : List String) (s : String) (steps : List String) :
    walk start (s :: steps) = walk (step start s) steps := rfl

theorem walk_append (start first second : List String) :
    walk start (first ++ second) = walk (walk start first) second := by
  rw [walk, walk, walk, List.foldl_append]

theorem resolveFrom_eq_walk (done segments : List String) :
    resolveFrom done segments = walk done.reverse segments := by
  induction segments generalizing done with
  | nil => rfl
  | cons s rest ih =>
    rw [resolveFrom, walk_cons, step]
    by_cases hpoint : s = "."
    · rw [if_pos (beq_iff_eq.2 hpoint), if_pos hpoint, ih]
    · rw [if_neg (by simpa using hpoint), if_neg hpoint]
      by_cases hup : s = ".."
      · rw [if_pos (beq_iff_eq.2 hup), if_pos hup, ih, List.dropLast_reverse]
      · rw [if_neg (by simpa using hup), if_neg hup, ih, List.reverse_cons]

theorem resolved_eq_walk (segments : List String) : resolved segments = walk [] segments :=
  resolveFrom_eq_walk [] segments

/-- Single points can be left out. -/
theorem walk_filter_point (start steps : List String) :
    walk start (steps.filter (· != ".")) = walk start steps := by
  induction steps generalizing start with
  | nil => rfl
  | cons s rest ih =>
    rw [List.filter_cons, walk_cons]
    by_cases hpoint : s = "."
    · simp [hpoint, step, ih]
    · simp [hpoint, walk_cons, ih]

/-- What a walk ends at was there before, or is a step that goes down. -/
theorem mem_walk (hmem : s ∈ walk start steps) :
    s ∈ start ∨ s ∈ steps ∧ s ≠ "." ∧ s ≠ ".." := by
  induction steps generalizing start with
  | nil => exact Or.inl hmem
  | cons t rest ih =>
    rw [walk_cons] at hmem
    rcases ih hmem with hstep | ⟨hrest, hdown⟩
    · rw [step] at hstep
      split at hstep
      · exact Or.inl hstep
      split at hstep
      · exact Or.inl ((List.dropLast_prefix _).subset hstep)
      · rcases List.mem_append.1 hstep with hstart | hhere
        · exact Or.inl hstart
        · obtain rfl := List.mem_singleton.1 hhere
          exact Or.inr ⟨List.mem_cons_self, ‹_›, ‹_›⟩
    · exact Or.inr ⟨List.mem_cons_of_mem _ hrest, hdown⟩

/-- Segments without points go down. -/
theorem walk_down (hdown : ∀ s ∈ steps, s ≠ "." ∧ s ≠ "..") (start : List String) :
    walk start steps = start ++ steps := by
  induction steps generalizing start with
  | nil => simp [walk]
  | cons s rest ih =>
    obtain ⟨⟨hpoint, hup⟩, hrest⟩ := List.forall_mem_cons.1 hdown
    rw [walk_cons, step, if_neg hpoint, if_neg hup, ih hrest, List.append_assoc]
    rfl

theorem walk_up (start : List String) (k : Nat) :
    walk start (List.replicate k "..") = start.take (start.length - k) := by
  induction k generalizing start with
  | zero => simp [walk]
  | succ k ih =>
    have hstep : step start ".." = start.dropLast := rfl
    rw [List.replicate_succ, walk_cons, hstep, ih, List.dropLast_eq_take, List.take_take]
    congr 1
    simp
    omega

section Common

theorem commonLength_le_left (xs ys : List String) : commonLength xs ys ≤ xs.length := by
  fun_induction commonLength xs ys <;> simp_all

theorem commonLength_le_right (xs ys : List String) : commonLength xs ys ≤ ys.length := by
  fun_induction commonLength xs ys <;> simp_all

theorem take_commonLength (xs ys : List String) :
    xs.take (commonLength xs ys) = ys.take (commonLength xs ys) := by
  fun_induction commonLength xs ys <;> simp_all

/-- What both lists start with is no longer. -/
theorem length_le_commonLength {other xs ys : List String} (hxs : other <+: xs)
    (hys : other <+: ys) : other.length ≤ commonLength xs ys := by
  induction other generalizing xs ys with
  | nil => exact Nat.zero_le _
  | cons s rest ih =>
    obtain ⟨xs, rfl, hxs'⟩ := List.cons_prefix_iff.1 hxs
    obtain ⟨ys, rfl, hys'⟩ := List.cons_prefix_iff.1 hys
    rw [commonLength, if_pos (beq_self_eq_true s), List.length_cons]
    exact Nat.succ_le_succ (ih hxs' hys')

theorem isLongestCommonPrefix_take (start target : List String) :
    IsLongestCommonPrefix (start.take (commonLength start target)) start target where
  left := List.take_prefix _ _
  right := by
    rw [take_commonLength]
    exact List.take_prefix _ _
  longest := by
    intro other hstart htarget
    rw [List.length_take, Nat.min_eq_left (commonLength_le_left _ _)]
    exact length_le_commonLength hstart htarget

theorem commonLength_self (xs : List String) : commonLength xs xs = xs.length :=
  Nat.le_antisymm (commonLength_le_left xs xs)
    (length_le_commonLength List.prefix_rfl List.prefix_rfl)

/-- Less has no more in common. -/
theorem commonLength_mono {xs xs' ys : List String} (hxs : xs <+: xs') :
    commonLength xs ys ≤ commonLength xs' ys := by
  have hcommon := isLongestCommonPrefix_take xs ys
  have hlength := length_le_commonLength (hcommon.left.trans hxs) hcommon.right
  rwa [List.length_take, Nat.min_eq_left (commonLength_le_left _ _)] at hlength

/-- One more segment has at most one more in common. -/
theorem commonLength_append_singleton (xs ys : List String) (s : String) :
    commonLength (xs ++ [s]) ys ≤ commonLength xs ys + 1 := by
  induction xs generalizing ys with
  | nil =>
    have hle := commonLength_le_left ([] ++ [s]) ys
    exact Nat.le_trans hle (Nat.le_add_left _ _)
  | cons x xs ih =>
    cases ys with
    | nil => exact Nat.zero_le _
    | cons y ys =>
      rw [List.cons_append, commonLength, commonLength]
      split
      · exact Nat.succ_le_succ (ih ys)
      · exact Nat.zero_le _

end Common

section Route

theorem walk_route (htarget : ∀ s ∈ target, s ≠ "." ∧ s ≠ "..") (start : List String) :
    walk start (route start target) = target := by
  have hdown : ∀ s ∈ target.drop (commonLength start target), s ≠ "." ∧ s ≠ ".." :=
    fun s hs => htarget s (List.mem_of_mem_drop hs)
  have hup : start.length - (start.length - commonLength start target) =
      commonLength start target := by
    have hle := commonLength_le_left start target
    omega
  rw [route, walk_append, walk_up, walk_down hdown, hup, take_commonLength,
    List.take_append_drop]

theorem length_route (start target : List String) :
    (route start target).length + 2 * commonLength start target =
      start.length + target.length := by
  have hstart := commonLength_le_left start target
  have htarget := commonLength_le_right start target
  rw [route, List.length_append, List.length_replicate, List.length_drop]
  omega

/-- One step changes by one at most how far the target is. -/
theorem length_step (place target : List String) (s : String) :
    place.length + 2 * commonLength (step place s) target ≤
      (step place s).length + 2 * commonLength place target + 1 := by
  rw [step]
  split
  · omega
  split
  · have hmono : commonLength place.dropLast target ≤ commonLength place target :=
      commonLength_mono (List.dropLast_prefix place)
    rw [List.length_dropLast]
    omega
  · have happend := commonLength_append_singleton place target s
    rw [List.length_append, List.length_singleton]
    omega

/-- Steps change by their number at most how far the target is. -/
theorem length_walk (start steps target : List String) :
    start.length + 2 * commonLength (walk start steps) target ≤
      (walk start steps).length + 2 * commonLength start target + steps.length := by
  induction steps generalizing start with
  | nil => exact Nat.le_refl _
  | cons s rest ih =>
    have hfirst := length_step start target s
    have hrest := ih (step start s)
    rw [walk_cons, List.length_cons]
    omega

theorem length_route_le (hwalk : walk start steps = target) :
    (route start target).length ≤ steps.length := by
  have hroute := length_route start target
  have hsteps := length_walk start steps target
  rw [hwalk, commonLength_self] at hsteps
  omega

/-- Only the place itself is reached without a step. -/
theorem route_eq_nil : route start target = [] ↔ start = target := by
  have hlength := length_route start target
  have hstart := commonLength_le_left start target
  have htarget := commonLength_le_right start target
  constructor
  · intro hnil
    rw [hnil, List.length_nil] at hlength
    have htake := take_commonLength start target
    rwa [List.take_of_length_le (by omega), List.take_of_length_le (by omega)] at htake
  · rintro rfl
    rw [commonLength_self] at hlength
    exact List.eq_nil_of_length_eq_zero (by omega)

end Route

end Path

end FindingLedger
