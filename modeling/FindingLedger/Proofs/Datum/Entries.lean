/-
Dictionaries whose keys are texts.

A text is the same as no other scalar.  So where keys are texts, setting one of them and
laying a dictionary over another can be told by what is found under each key.
-/
import FindingLedger.Proofs.Datum.Lookup
import Mathlib.Data.List.Induction
import Mathlib.Data.List.Nodup

namespace FindingLedger

namespace Datum

/-- A dictionary whose keys are texts, each of them there once. -/
structure IsTextKeyed (entries : List (Scalar × Datum)) : Prop where
  isText : ∀ e ∈ entries, ∃ s, e.1 = .text s
  nodup : (entries.map Prod.fst).Nodup

theorem isTextKeyed_nil : IsTextKeyed [] :=
  ⟨nofun, List.nodup_nil⟩

variable {k key : String} {value : Datum} {entries lower upper : List (Scalar × Datum)}

theorem find?_cons_self : find? (.text k) ((.text k, value) :: entries) = some value := by
  rw [find?_cons, if_pos (Scalar.sameAs_text.2 rfl)]

theorem find?_cons_of_ne {key : Scalar} (hne : key ≠ .text k) :
    find? (.text k) ((key, value) :: entries) = find? (.text k) entries := by
  rw [find?_cons, if_neg fun hsame => hne (Scalar.sameAs_text.1 hsame)]

/-- What is found under a text is an entry with this key. -/
theorem mem_of_find? {v : Datum} (hfound : find? (.text k) entries = some v) :
    (.text k, v) ∈ entries := by
  obtain ⟨e, he, rfl⟩ := Option.map_eq_some_iff.1 hfound
  have hsame := List.find?_some he
  have hkey : e.1 = .text k := Scalar.sameAs_text.1 hsame
  rw [← hkey]
  exact List.mem_of_find?_eq_some he

/-- Nothing is found under a text that is no key. -/
theorem find?_eq_none : find? (.text k) entries = none ↔ .text k ∉ entries.map Prod.fst := by
  rw [find?_eq_none_iff]
  constructor
  · intro hother hmem
    exact Bool.false_ne_true ((hother _ hmem).symm.trans (Scalar.sameAs_text.2 rfl))
  · intro hnot key hkey
    exact Bool.eq_false_iff.2 fun hsame => hnot (Scalar.sameAs_text.1 hsame ▸ hkey)

/-- In a dictionary without double keys every entry is found under its key. -/
theorem find?_of_mem (hnodup : (entries.map Prod.fst).Nodup) (hmem : (.text k, value) ∈ entries) :
    find? (.text k) entries = some value := by
  induction entries with
  | nil => exact absurd hmem List.not_mem_nil
  | cons e rest ih =>
    obtain ⟨key, v⟩ := e
    rw [List.map_cons, List.nodup_cons] at hnodup
    rcases List.mem_cons.1 hmem with heq | hrest
    · cases heq
      exact find?_cons_self
    · have hne : key ≠ .text k := by
        rintro rfl
        exact hnodup.1 (List.mem_map.2 ⟨_, hrest, rfl⟩)
      rw [find?_cons_of_ne hne]
      exact ih hnodup.2 hrest

section Alter

variable (f : Datum → Datum)

theorem find?_alter_self (key : String) (value : Datum) (entries : List (Scalar × Datum)) :
    find? (.text key) (alter (.text key) value f entries) =
      some (((find? (.text key) entries).map f).getD value) :=
  find?_alter_of_sameAs f (Scalar.sameAs_text.2 rfl) value entries

/-- Changing the value of one key leaves what is found under another text. -/
theorem find?_alter_of_ne {key : Scalar} (hne : key ≠ .text k) (value : Datum)
    (entries : List (Scalar × Datum)) :
    find? (.text k) (alter key value f entries) = find? (.text k) entries := by
  apply find?_alter_of_not_sameAs
  exact Bool.eq_false_iff.2 fun hsame => hne (Scalar.sameAs_text.1 hsame)

theorem find?_alter (k key : String) (value : Datum) (entries : List (Scalar × Datum)) :
    find? (.text k) (alter (.text key) value f entries) =
      if k = key then some (((find? (.text key) entries).map f).getD value)
      else find? (.text k) entries := by
  by_cases hk : k = key
  · rw [if_pos hk, hk, find?_alter_self]
  · rw [if_neg hk, find?_alter_of_ne]
    exact fun heq => hk (Scalar.text.inj heq).symm

/-- A known key keeps its place, a new one comes last. -/
theorem keys_alter (key : String) (value : Datum) (entries : List (Scalar × Datum)) :
    (alter (.text key) value f entries).map Prod.fst =
      if .text key ∈ entries.map Prod.fst then entries.map Prod.fst
      else entries.map Prod.fst ++ [.text key] := by
  cases hfound : find? (.text key) entries with
  | none =>
    rw [alter_of_find?_eq_none f hfound, if_neg (find?_eq_none.1 hfound), List.map_append]
    rfl
  | some v =>
    rw [keys_alter_of_find? f hfound, if_pos (List.mem_map.2 ⟨_, mem_of_find? hfound, rfl⟩)]

/-- Every entry is an old one, or the one that was changed or added. -/
theorem mem_alter_of_key {key : Scalar} {e : Scalar × Datum}
    (hmem : e ∈ alter key value f entries) :
    e ∈ entries ∨ e = (key, value) ∨
      ∃ k v, k.sameAs key = true ∧ (k, v) ∈ entries ∧ e = (k, f v) := by
  induction entries with
  | nil => exact Or.inr (Or.inl (List.mem_singleton.1 hmem))
  | cons e' rest ih =>
    obtain ⟨key', v⟩ := e'
    rw [alter] at hmem
    by_cases hsame : key'.sameAs key = true
    · rw [if_pos hsame] at hmem
      rcases List.mem_cons.1 hmem with rfl | hrest
      · exact Or.inr (Or.inr ⟨key', v, hsame, List.mem_cons_self, rfl⟩)
      · exact Or.inl (List.mem_cons_of_mem _ hrest)
    · rw [if_neg hsame] at hmem
      rcases List.mem_cons.1 hmem with rfl | hrest
      · exact Or.inl List.mem_cons_self
      · rcases ih hrest with hold | hnew | ⟨k, w, hk, hw, rfl⟩
        · exact Or.inl (List.mem_cons_of_mem _ hold)
        · exact Or.inr (Or.inl hnew)
        · exact Or.inr (Or.inr ⟨k, w, hk, List.mem_cons_of_mem _ hw, rfl⟩)

/-- The key of the changed entry is the text that it was changed under. -/
theorem mem_alter {e : Scalar × Datum} (hmem : e ∈ alter (.text key) value f entries) :
    e ∈ entries ∨ e = (.text key, value) ∨
      ∃ v, (.text key, v) ∈ entries ∧ e = (.text key, f v) := by
  rcases mem_alter_of_key f hmem with hold | hnew | ⟨k, v, hk, hv, rfl⟩
  · exact Or.inl hold
  · exact Or.inr (Or.inl hnew)
  · obtain rfl := Scalar.sameAs_text.1 hk
    exact Or.inr (Or.inr ⟨v, hv, rfl⟩)

theorem isTextKeyed_alter (hentries : IsTextKeyed entries) :
    IsTextKeyed (alter (.text key) value f entries) := by
  constructor
  · intro e he
    rcases mem_alter f he with hold | rfl | ⟨v, _, rfl⟩
    · exact hentries.isText e hold
    · exact ⟨key, rfl⟩
    · exact ⟨key, rfl⟩
  · rw [keys_alter]
    by_cases hmem : Scalar.text key ∈ entries.map Prod.fst
    · rw [if_pos hmem]
      exact hentries.nodup
    · rw [if_neg hmem]
      exact List.nodup_append_comm.1 (List.nodup_cons.2 ⟨hmem, hentries.nodup⟩)

end Alter

/-- Setting a value is changing whatever is there to it. -/
theorem put_eq_alter (key : Scalar) (value : Datum) (entries : List (Scalar × Datum)) :
    put key value entries = alter key value (fun _ => value) entries := by
  induction entries with
  | nil => rfl
  | cons e rest ih =>
    obtain ⟨k, v⟩ := e
    rw [put, alter, ih]

theorem find?_put (k key : String) (value : Datum) (entries : List (Scalar × Datum)) :
    find? (.text k) (put (.text key) value entries) =
      if k = key then some value else find? (.text k) entries := by
  rw [put_eq_alter, find?_alter]
  by_cases hk : k = key
  · rw [if_pos hk, if_pos hk]
    cases find? (.text key) entries <;> rfl
  · rw [if_neg hk, if_neg hk]

theorem isTextKeyed_put (hentries : IsTextKeyed entries) :
    IsTextKeyed (put (.text key) value entries) := by
  rw [put_eq_alter]
  exact isTextKeyed_alter _ hentries

/-- A new key comes last, with its value. -/
theorem put_of_not_mem (hnew : .text key ∉ entries.map Prod.fst) :
    put (.text key) value entries = entries ++ [(.text key, value)] := by
  rw [put_eq_alter, alter_of_find?_eq_none _ (find?_eq_none.2 hnew)]

/-- A dictionary is made of its entries as they are. -/
theorem ofEntries_of_isTextKeyed (hentries : IsTextKeyed entries) :
    ofEntries entries = entries := by
  induction entries using List.reverseRecOn with
  | nil => rfl
  | append_singleton before e ih =>
    have hnodup := hentries.nodup
    rw [List.map_append] at hnodup
    obtain ⟨hbefore, _, hapart⟩ := List.nodup_append.1 hnodup
    have hkeyed : IsTextKeyed before :=
      ⟨fun e he => hentries.isText e (List.mem_append_left _ he), hbefore⟩
    obtain ⟨key, v⟩ := e
    obtain ⟨key, rfl⟩ := hentries.isText _ (List.mem_append_right _ (List.mem_singleton.2 rfl))
    rw [ofEntries, List.foldl_append]
    change put (.text key) v (ofEntries before) = _
    rw [ih hkeyed, put_of_not_mem]
    intro hmem
    exact hapart _ hmem _ (List.mem_singleton.2 rfl) rfl

theorem IsTextKeyed.isKeyed (hentries : IsTextKeyed entries) : IsKeyed entries := by
  have htext : ∀ k ∈ entries.map Prod.fst, ∃ s, k = .text s := by
    intro k hk
    obtain ⟨e, he, rfl⟩ := List.mem_map.1 hk
    exact hentries.isText e he
  constructor
  · refine hentries.nodup.imp_of_mem fun {k k'} hk _ hne => ?_
    obtain ⟨s, rfl⟩ := htext k hk
    exact Bool.eq_false_iff.2 fun hsame => hne (Scalar.text_sameAs.1 hsame).symm
  · intro k hk
    obtain ⟨s, rfl⟩ := htext k hk
    exact Scalar.sameAs_text.2 rfl

/-- Under a text, the value of the upper dictionary is laid over that of the lower one. -/
theorem find?_overlayEntries (hupper : IsTextKeyed upper) (k : String) :
    find? (.text k) (overlayEntries lower upper) =
      match find? (.text k) upper with
      | none => find? (.text k) lower
      | some v => some (((find? (.text k) lower).map fun old => overlay old v).getD v) := by
  cases hfound : find? (.text k) upper with
  | none => exact find?_overlayEntries_of_none hfound
  | some v => exact find?_overlayEntries_of_some hupper.isKeyed hfound

theorem isTextKeyed_overlayEntries (hlower : IsTextKeyed lower)
    (hupper : ∀ e ∈ upper, ∃ s, e.1 = .text s) : IsTextKeyed (overlayEntries lower upper) := by
  apply overlayEntries_induction hlower
  intro key value done hmem hdone
  obtain ⟨key, rfl⟩ := hupper _ hmem
  exact isTextKeyed_alter _ hdone

/-- What is so of the entries of two dictionaries is so of all entries when one is laid over the
other, if laying a value over another keeps it. -/
theorem forall_mem_overlayEntries {P : Scalar × Datum → Prop} (hlower : ∀ e ∈ lower, P e)
    (hupper : ∀ e ∈ upper, P e)
    (hover : ∀ k k' old value, k.sameAs k' = true → P (k, old) → P (k', value) →
      P (k, overlay old value)) :
    ∀ e ∈ overlayEntries lower upper, P e := by
  apply overlayEntries_induction (P := fun done => ∀ e ∈ done, P e) hlower
  intro key value done hmem hdone e he
  rcases mem_alter_of_key _ he with hold | rfl | ⟨k, old, hk, hold, rfl⟩
  · exact hdone e hold
  · exact hupper _ hmem
  · exact hover k key old value hk (hdone _ hold) (hupper _ hmem)

end Datum

end FindingLedger
