/-
Keyed lists that grow by `put`.

A map made of pairs holds every key once, at the place where it first came, with the
value that it was given last.
-/
import FindingLedger.Keyed
import Mathlib.Data.List.Induction
import Mathlib.Data.List.Nodup

namespace FindingLedger

namespace Keyed

variable {α β : Type} [BEq α] [LawfulBEq α]

/-- A known key keeps its place, a new one comes last. -/
theorem keys_put (key : α) (value : β) (entries : List (α × β)) :
    (put key value entries).map Prod.fst =
      if key ∈ entries.map Prod.fst then entries.map Prod.fst
      else entries.map Prod.fst ++ [key] := by
  induction entries with
  | nil => simp [put]
  | cons entry rest ih =>
    obtain ⟨k, v⟩ := entry
    by_cases hk : k = key
    · subst hk
      simp [put]
    · have hne : key ≠ k := fun h => hk h.symm
      by_cases hmem : key ∈ rest.map Prod.fst
      · simp only [put, beq_iff_eq, hk, if_false, List.map_cons, ih, hmem, if_true,
          List.mem_cons, or_true]
      · simp only [put, beq_iff_eq, hk, if_false, List.map_cons, ih, hmem,
          List.mem_cons, hne, or_self, List.cons_append]

/-- A new key comes last, with its value. -/
theorem put_of_not_mem {key : α} {value : β} {entries : List (α × β)}
    (hnew : key ∉ entries.map Prod.fst) : put key value entries = entries ++ [(key, value)] := by
  induction entries with
  | nil => rfl
  | cons entry rest ih =>
    obtain ⟨k, v⟩ := entry
    rw [List.map_cons, List.mem_cons, not_or] at hnew
    have hk : (k == key) = false := beq_eq_false_iff_ne.2 fun h => hnew.1 h.symm
    rw [put, hk, ih hnew.2]
    rfl

/-- The keys of a map of pairs are those of the pairs, in the order in which they
first came. -/
theorem keys_ofList (pairs : List (α × β)) :
    (ofList pairs).map Prod.fst = (pairs.map Prod.fst).eraseDups := by
  induction pairs using List.reverseRecOn with
  | nil => rfl
  | append_singleton pairs p ih =>
    rw [ofList, List.foldl_append]
    change (put p.1 p.2 (ofList pairs)).map Prod.fst = _
    rw [keys_put, ih, List.map_append, List.eraseDups_append]
    by_cases hmem : p.1 ∈ pairs.map Prod.fst
    · rw [if_pos (List.mem_eraseDups.2 hmem)]
      simp [List.removeAll, hmem]
    · rw [if_neg (fun h => hmem (List.mem_eraseDups.1 h))]
      simp [List.removeAll, hmem, List.eraseDups_cons]

theorem nodup_keys_put {key : α} {value : β} {entries : List (α × β)}
    (hnodup : (entries.map Prod.fst).Nodup) :
    ((put key value entries).map Prod.fst).Nodup := by
  rw [keys_put]
  by_cases hmem : key ∈ entries.map Prod.fst
  · rw [if_pos hmem]
    exact hnodup
  · rw [if_neg hmem]
    exact List.nodup_append_comm.1 (List.nodup_cons.2 ⟨hmem, hnodup⟩)

theorem nodup_keys_ofList (pairs : List (α × β)) : ((ofList pairs).map Prod.fst).Nodup := by
  induction pairs using List.reverseRecOn with
  | nil => exact List.nodup_nil
  | append_singleton pairs p ih =>
    rw [ofList, List.foldl_append]
    exact nodup_keys_put ih

/-- A map of pairs without double keys is made of its pairs as they are. -/
theorem ofList_of_nodup {pairs : List (α × β)} (hnodup : (pairs.map Prod.fst).Nodup) :
    ofList pairs = pairs := by
  induction pairs using List.reverseRecOn with
  | nil => rfl
  | append_singleton before p ih =>
    rw [List.map_append] at hnodup
    obtain ⟨hbefore, _, hapart⟩ := List.nodup_append.1 hnodup
    rw [ofList, List.foldl_append]
    change put p.1 p.2 (ofList before) = _
    rw [ih hbefore, put_of_not_mem]
    intro hmem
    exact hapart _ hmem _ (List.mem_singleton.2 rfl) rfl

theorem lookup_ofList (pairs : List (α × β)) (key : α) :
    (ofList pairs).lookup key = ((pairs.filter (·.1 == key)).getLast?).map Prod.snd := by
  induction pairs using List.reverseRecOn with
  | nil => rfl
  | append_singleton pairs p ih =>
    rw [ofList, List.foldl_append]
    change (put p.1 p.2 (ofList pairs)).lookup key = _
    by_cases hkey : p.1 = key
    · subst hkey
      simp [lookup_put_self]
    · rw [lookup_put_of_ne (fun h => hkey h.symm), ih]
      simp [hkey]

/-- A key has a value exactly when it is there. -/
theorem isSome_lookup_iff {entries : List (α × β)} {key : α} :
    (entries.lookup key).isSome = true ↔ key ∈ entries.map Prod.fst := by
  rw [← not_iff_not, Option.not_isSome_iff_eq_none, List.lookup_eq_none_iff]
  constructor
  · intro hnone hmem
    obtain ⟨entry, hentry, rfl⟩ := List.mem_map.1 hmem
    exact bne_iff_ne.1 (hnone entry hentry) rfl
  · intro hnot entry hentry
    rw [bne_iff_ne]
    rintro rfl
    exact hnot (List.mem_map_of_mem hentry)

/-- What was dropped is not found. -/
theorem lookup_erase_self (key : α) (entries : List (α × β)) :
    (erase key entries).lookup key = none := by
  rw [List.lookup_eq_none_iff]
  intro entry hentry
  have hkeep := (List.mem_filter.1 hentry).2
  simp only [Bool.not_eq_true', beq_eq_false_iff_ne] at hkeep
  exact bne_iff_ne.2 hkeep.symm

/-- Dropping one key leaves the others as they are. -/
theorem lookup_erase_of_ne {key other : α} (hne : other ≠ key) (entries : List (α × β)) :
    (erase key entries).lookup other = entries.lookup other := by
  induction entries with
  | nil => rfl
  | cons entry rest ih =>
    obtain ⟨k, v⟩ := entry
    by_cases hk : k = key
    · subst hk
      have hother : (other == k) = false := beq_eq_false_iff_ne.2 hne
      rw [List.lookup_cons, hother, ← ih]
      simp [erase]
    · have hkeep : erase key ((k, v) :: rest) = (k, v) :: erase key rest := by
        simp [erase, hk]
      rw [hkeep, List.lookup_cons, List.lookup_cons, ih]

/-- Where entries are dropped by their keys and the others get new keys, what keeps its key, with
no other getting it, is found as before. -/
theorem lookup_rekey_eq (keep : α → Bool) (rekey : α → α) {key : α} (hkeep : keep key = true)
    (hkey : ∀ k, keep k = true → (rekey k = key ↔ k = key)) (entries : List (α × β)) :
    ((entries.filter fun e => keep e.1).map fun e => (rekey e.1, e.2)).lookup key =
      entries.lookup key := by
  induction entries with
  | nil => rfl
  | cons entry rest ih =>
    obtain ⟨k, v⟩ := entry
    by_cases hk : keep k = true
    · simp only [List.filter_cons, hk, if_true, List.map_cons, List.lookup_cons, ih]
      by_cases heq : k = key
      · have hnew := (hkey k hk).2 heq
        rw [hnew, heq]
      · have hnew := mt (hkey k hk).1 heq
        rw [beq_eq_false_iff_ne.2 (Ne.symm heq), beq_eq_false_iff_ne.2 (Ne.symm hnew)]
    · have hne : key ≠ k := by
        rintro rfl
        exact hk hkeep
      simp only [List.filter_cons, hk, if_false, ih, List.lookup_cons,
        beq_eq_false_iff_ne.2 hne, Bool.false_eq_true]

/-- What is found under a new key was found under the key it comes from. -/
theorem exists_lookup_of_rekey (keep : α → Bool) (rekey : α → α) {key : α} {value : β}
    {entries : List (α × β)}
    (hfound : ((entries.filter fun e => keep e.1).map fun e => (rekey e.1, e.2)).lookup key =
      some value) :
    ∃ k, keep k = true ∧ rekey k = key ∧ entries.lookup k = some value := by
  induction entries with
  | nil => cases hfound
  | cons entry rest ih =>
    obtain ⟨k, v⟩ := entry
    have hlater : ∀ k', k' ≠ k → ((k, v) :: rest).lookup k' = rest.lookup k' := by
      intro k' hne
      rw [List.lookup_cons, beq_eq_false_iff_ne.2 hne]
    by_cases hk : keep k = true
    · simp only [List.filter_cons, hk, if_true, List.map_cons] at hfound
      by_cases hnew : rekey k = key
      · rw [hnew, List.lookup_cons_self] at hfound
        exact ⟨k, hk, hnew, by rw [List.lookup_cons_self, hfound]⟩
      · rw [List.lookup_cons, beq_eq_false_iff_ne.2 (Ne.symm hnew)] at hfound
        obtain ⟨k', hkeep, hkey, hvalue⟩ := ih hfound
        refine ⟨k', hkeep, hkey, ?_⟩
        -- Had the key of the first entry been found later, it would have been kept here.
        rw [hlater, hvalue]
        rintro rfl
        exact hnew hkey
    · simp only [List.filter_cons, hk, Bool.false_eq_true, if_false] at hfound
      obtain ⟨k', hkeep, hkey, hvalue⟩ := ih hfound
      refine ⟨k', hkeep, hkey, ?_⟩
      rw [hlater, hvalue]
      rintro rfl
      exact hk hkeep

/-- In a map without double keys every entry is found under its key. -/
theorem lookup_eq_some_of_mem {entries : List (α × β)} {key : α} {value : β}
    (hnodup : (entries.map Prod.fst).Nodup) (hmem : (key, value) ∈ entries) :
    entries.lookup key = some value := by
  induction entries with
  | nil => exact absurd hmem List.not_mem_nil
  | cons entry rest ih =>
    obtain ⟨k, v⟩ := entry
    simp only [List.map_cons, List.nodup_cons] at hnodup
    rcases List.mem_cons.1 hmem with heq | hrest
    · obtain ⟨rfl, rfl⟩ := Prod.mk.inj heq
      simp
    · have hne : key ≠ k := by
        rintro rfl
        exact hnodup.1 (List.mem_map_of_mem hrest)
      have hbeq : (key == k) = false := by simpa using hne
      simp only [List.lookup_cons, hbeq]
      exact ih hnodup.2 hrest

end Keyed

end FindingLedger
