/-
What is found under a key.

Keys that are the same find the same entry.  Changing the value of a key touches what is found
under this key alone, and a dictionary that is laid over another decides, key by key, what is
found in both.
-/
import FindingLedger.Proofs.Datum.Sameness
import FindingLedger.Settings.Overlay

namespace FindingLedger

namespace Datum

/-- Whether a value is a mapping.  One may stand for a mapping around it. -/
def isMapping : Datum → Bool
  | .dict _ | .again .dict => true
  | _ => false

variable {k key : Scalar} {value v : Datum} {entries lower upper : List (Scalar × Datum)}

theorem find?_nil (key : Scalar) : find? key [] = none := rfl

theorem find?_cons (key : Scalar) (value : Datum) (entries : List (Scalar × Datum)) :
    find? k ((key, value) :: entries) = if key.sameAs k then some value else find? k entries := by
  rw [find?, find?, List.find?_cons]
  cases key.sameAs k <;> rfl

/-- Nothing is found under a key that is the same as none. -/
theorem find?_eq_none_iff :
    find? key entries = none ↔ ∀ k ∈ entries.map Prod.fst, k.sameAs key = false := by
  simp [find?, List.find?_eq_none]

theorem find?_congr (hsame : key.sameAs k = true) (entries : List (Scalar × Datum)) :
    find? key entries = find? k entries := by
  simp only [find?, Scalar.sameAs_congr hsame]

section Alter

variable (f : Datum → Datum)

theorem find?_alter_of_sameAs (hsame : key.sameAs k = true) (value : Datum)
    (entries : List (Scalar × Datum)) :
    find? k (alter key value f entries) = some (((find? k entries).map f).getD value) := by
  induction entries with
  | nil =>
    rw [alter, find?_cons, if_pos hsame]
    rfl
  | cons e rest ih =>
    obtain ⟨key', v⟩ := e
    rw [alter, Scalar.sameAs_congr hsame, find?_cons]
    by_cases hhere : key'.sameAs k = true
    · rw [if_pos hhere, if_pos hhere, find?_cons, if_pos hhere]
      rfl
    · rw [if_neg hhere, if_neg hhere, find?_cons, if_neg hhere, ih]

/-- Changing the value of one key leaves what is found under another. -/
theorem find?_alter_of_not_sameAs (hother : key.sameAs k = false) (value : Datum)
    (entries : List (Scalar × Datum)) :
    find? k (alter key value f entries) = find? k entries := by
  induction entries with
  | nil =>
    rw [alter, find?_cons, hother]
    rfl
  | cons e rest ih =>
    obtain ⟨key', v⟩ := e
    rw [alter]
    by_cases hhere : key'.sameAs key = true
    · have hnot : key'.sameAs k = false := by
        rw [Scalar.sameAs_comm, Scalar.sameAs_congr hhere, Scalar.sameAs_comm, hother]
      simp only [if_pos hhere, find?_cons, hnot]
      rfl
    · rw [if_neg hhere, find?_cons, find?_cons, ih]

/-- A new key comes last. -/
theorem alter_of_find?_eq_none (hnew : find? key entries = none) (value : Datum) :
    alter key value f entries = entries ++ [(key, value)] := by
  induction entries with
  | nil => rfl
  | cons e rest ih =>
    obtain ⟨key', v⟩ := e
    rw [find?_cons] at hnew
    split at hnew
    · cases hnew
    · next hother => rw [alter, if_neg hother, ih hnew, List.cons_append]

/-- A known key keeps its place. -/
theorem keys_alter_of_find? (hfound : find? key entries = some v) (value : Datum) :
    (alter key value f entries).map Prod.fst = entries.map Prod.fst := by
  induction entries with
  | nil => cases hfound
  | cons e rest ih =>
    obtain ⟨key', w⟩ := e
    rw [find?_cons] at hfound
    rw [alter]
    split
    · rfl
    · next hother =>
      rw [if_neg hother] at hfound
      rw [List.map_cons, List.map_cons, ih hfound]

/-- A change that keeps the value of the key keeps the dictionary. -/
theorem alter_of_find?_eq_some (hfound : find? key entries = some v) (hkept : f v = v)
    (value : Datum) : alter key value f entries = entries := by
  induction entries with
  | nil => cases hfound
  | cons e rest ih =>
    obtain ⟨key', w⟩ := e
    rw [find?_cons] at hfound
    rw [alter]
    split
    · next hsame =>
      rw [if_pos hsame] at hfound
      cases hfound
      rw [hkept]
    · next hother =>
      rw [if_neg hother] at hfound
      rw [ih hfound]

end Alter

/-- The keys of a dictionary, told apart: each is the same as itself and as no other.  A key that
is no number is not even the same as itself. -/
structure IsKeyed (entries : List (Scalar × Datum)) : Prop where
  apart : (entries.map Prod.fst).Pairwise fun k k' => k.sameAs k' = false
  known : ∀ k ∈ entries.map Prod.fst, k.sameAs k = true

instance : Decidable (IsKeyed entries) :=
  decidable_of_iff
    ((entries.map Prod.fst).Pairwise (fun k k' => k.sameAs k' = false) ∧
      ∀ k ∈ entries.map Prod.fst, k.sameAs k = true)
    ⟨fun h => ⟨h.1, h.2⟩, fun h => ⟨h.apart, h.known⟩⟩

theorem isKeyed_nil : IsKeyed [] :=
  ⟨List.Pairwise.nil, nofun⟩

/-- The first key is not found in the rest. -/
theorem isKeyed_cons : IsKeyed ((key, value) :: entries) ↔
    key.sameAs key = true ∧ find? key entries = none ∧ IsKeyed entries := by
  rw [find?_eq_none_iff]
  constructor
  · rintro ⟨hapart, hknown⟩
    obtain ⟨hhead, htail⟩ := List.pairwise_cons.1 hapart
    obtain ⟨hself, hrest⟩ := List.forall_mem_cons.1 hknown
    exact ⟨hself, fun k hk => by rw [Scalar.sameAs_comm, hhead k hk], htail, hrest⟩
  · rintro ⟨hself, hhead, htail, hrest⟩
    refine ⟨List.pairwise_cons.2 ⟨fun k hk => ?_, htail⟩, List.forall_mem_cons.2 ⟨hself, hrest⟩⟩
    rw [Scalar.sameAs_comm, hhead k hk]

theorem IsKeyed.find?_of_mem (hkeyed : IsKeyed entries) (hmem : (key, value) ∈ entries) :
    find? key entries = some value := by
  induction entries with
  | nil => exact absurd hmem List.not_mem_nil
  | cons e rest ih =>
    obtain ⟨key', v⟩ := e
    obtain ⟨hself, hnew, hrest⟩ := isKeyed_cons.1 hkeyed
    rw [find?_cons]
    rcases List.mem_cons.1 hmem with heq | hmem
    · cases heq
      rw [if_pos hself]
    · have hother : key'.sameAs key = false := by
        rw [Scalar.sameAs_comm]
        exact find?_eq_none_iff.1 hnew key (List.mem_map.2 ⟨_, hmem, rfl⟩)
      rw [hother, if_neg Bool.false_ne_true, ih hrest hmem]

theorem overlay_dict (lower upper : List (Scalar × Datum)) :
    overlay (.dict lower) (.dict upper) = .dict (overlayEntries lower upper) := by
  rw [overlay]

/-- What is no mapping replaces what is below it. -/
theorem overlay_of_not_isMapping (hv : v.isMapping = false) (old : Datum) :
    overlay old v = v := by
  cases v with
  | dict entries => cases hv
  | _ => simp only [overlay]

/-- What is so of the lower dictionary is so when another one is laid over it, if every change
of an entry keeps it. -/
theorem overlayEntries_induction {P : List (Scalar × Datum) → Prop} (hstart : P lower)
    (hstep : ∀ key value done, (key, value) ∈ upper → P done →
      P (alter key value (fun old => overlay old value) done)) :
    P (overlayEntries lower upper) := by
  induction upper generalizing lower with
  | nil =>
    rw [overlayEntries_nil]
    exact hstart
  | cons e rest ih =>
    obtain ⟨key, value⟩ := e
    rw [overlayEntries]
    apply ih (hstep key value lower List.mem_cons_self hstart)
    exact fun key value done hmem => hstep key value done (List.mem_cons_of_mem _ hmem)

/-- What the upper dictionary does not have is found as in the lower one. -/
theorem find?_overlayEntries_of_none (hupper : find? k upper = none) :
    find? k (overlayEntries lower upper) = find? k lower := by
  induction upper generalizing lower with
  | nil => rw [overlayEntries_nil]
  | cons e rest ih =>
    obtain ⟨key, v⟩ := e
    obtain ⟨hother, hrest⟩ := List.forall_mem_cons.1 (find?_eq_none_iff.1 hupper)
    rw [overlayEntries, ih (find?_eq_none_iff.2 hrest), find?_alter_of_not_sameAs _ hother]

/-- Under a key of a dictionary that is laid over another, its value is laid over the one that
the other has there. -/
theorem find?_overlayEntries_of_some (hupper : IsKeyed upper) (hfound : find? k upper = some v) :
    find? k (overlayEntries lower upper) =
      some (((find? k lower).map fun old => overlay old v).getD v) := by
  induction upper generalizing lower with
  | nil => cases hfound
  | cons e rest ih =>
    obtain ⟨key, w⟩ := e
    obtain ⟨_, hnew, hrest⟩ := isKeyed_cons.1 hupper
    rw [find?_cons] at hfound
    rw [overlayEntries]
    cases hsame : key.sameAs k with
    | true =>
      rw [if_pos hsame] at hfound
      cases hfound
      rw [find?_congr hsame] at hnew
      rw [find?_overlayEntries_of_none hnew, find?_alter_of_sameAs _ hsame]
    | false =>
      rw [hsame, if_neg Bool.false_ne_true] at hfound
      rw [ih hrest hfound, find?_alter_of_not_sameAs _ hsame]

theorem overlayEntries_of_new (hupper : IsKeyed upper)
    (hnew : ∀ k ∈ upper.map Prod.fst, find? k lower = none) :
    overlayEntries lower upper = lower ++ upper := by
  induction upper generalizing lower with
  | nil => rw [overlayEntries_nil, List.append_nil]
  | cons e rest ih =>
    obtain ⟨key, v⟩ := e
    obtain ⟨_, hfirst, hrest⟩ := isKeyed_cons.1 hupper
    obtain ⟨hkey, hothers⟩ := List.forall_mem_cons.1 hnew
    rw [overlayEntries, ih hrest, alter_of_find?_eq_none _ hkey, List.append_assoc]
    · rfl
    · intro k hk
      have hother := find?_eq_none_iff.1 hfirst k hk
      rw [find?_alter_of_not_sameAs _ (by rw [Scalar.sameAs_comm, hother]), hothers k hk]

theorem nil_overlayEntries (hupper : IsKeyed upper) : overlayEntries [] upper = upper :=
  overlayEntries_of_new hupper fun k _ => find?_nil k

/-- Where every value is there already, nothing changes. -/
theorem overlayEntries_of_kept
    (hkept : ∀ e ∈ upper, ∃ v, find? e.1 lower = some v ∧ overlay v e.2 = v) :
    overlayEntries lower upper = lower := by
  apply overlayEntries_induction (P := fun done => done = lower) rfl
  rintro key value done hmem rfl
  obtain ⟨v, hfound, hv⟩ := hkept _ hmem
  exact alter_of_find?_eq_some (fun old => overlay old value) hfound hv value

/-- The keys of the lower dictionary keep their order, and the additional ones of the upper one
follow in theirs. -/
theorem keys_overlayEntries (hupper : IsKeyed upper) :
    (overlayEntries lower upper).map Prod.fst =
      lower.map Prod.fst ++ (upper.map Prod.fst).filter fun k => (find? k lower).isNone := by
  induction upper generalizing lower with
  | nil => rw [overlayEntries_nil, List.map_nil, List.filter_nil, List.append_nil]
  | cons e rest ih =>
    obtain ⟨key, v⟩ := e
    obtain ⟨_, hnew, hrest⟩ := isKeyed_cons.1 hupper
    -- no key of the rest is the first one, so they are new before its change and after it
    have hothers : ∀ k ∈ rest.map Prod.fst,
        (find? k (alter key v (fun old => overlay old v) lower)).isNone =
          (find? k lower).isNone := by
      intro k hk
      have hother := find?_eq_none_iff.1 hnew k hk
      rw [find?_alter_of_not_sameAs _ (by rw [Scalar.sameAs_comm, hother])]
    rw [overlayEntries, ih hrest, List.filter_congr hothers, List.map_cons, List.filter_cons]
    cases hfound : find? key lower with
    | none =>
      rw [alter_of_find?_eq_none _ hfound, List.map_append, List.append_assoc]
      simp
    | some w =>
      rw [keys_alter_of_find? _ hfound]
      simp

end Datum

end FindingLedger
