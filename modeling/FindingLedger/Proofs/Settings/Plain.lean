/-
Plain dictionaries of sections.

In a plain dictionary every section is one of those that settings have, and holds no mapping.
Laid over another dictionary it gives each setting its own value, if it has one, else that of
the other.
-/
import FindingLedger.Proofs.Settings.Raw
import FindingLedger.Proofs.Settings.Sections

namespace FindingLedger

namespace Settings

open Datum

def sectionNames : List String := default.sections.map Prod.fst

/-- A section whose values are no mappings. -/
structure IsPlainSection (inner : List (Scalar × Datum)) : Prop where
  keyed : IsTextKeyed inner
  isMapping : ∀ e ∈ inner, e.2.isMapping = false

/-- A dictionary of such sections. -/
structure IsPlain (entries : List (Scalar × Datum)) : Prop where
  keyed : IsTextKeyed entries
  section_ : ∀ name v, (.text name, v) ∈ entries →
    name ∈ sectionNames ∧ ∃ inner, v = .dict inner ∧ IsPlainSection inner

variable {entries lower upper inner : List (Scalar × Datum)}

theorem isPlain_nil : IsPlain [] :=
  ⟨isTextKeyed_nil, nofun⟩

/-- A plain dictionary starts with a section, and what follows is one again. -/
theorem IsPlain.of_cons {e : Scalar × Datum} (hplain : IsPlain (e :: entries)) :
    (∃ name inner, e = (.text name, .dict inner) ∧ IsPlainSection inner) ∧ IsPlain entries := by
  obtain ⟨key, v⟩ := e
  obtain ⟨name, hname⟩ := hplain.keyed.isText _ List.mem_cons_self
  obtain rfl : key = .text name := hname
  obtain ⟨_, inner, rfl, hinner⟩ := hplain.section_ name v List.mem_cons_self
  refine ⟨⟨name, inner, rfl, hinner⟩, ⟨?_, ?_⟩, ?_⟩
  · exact fun e he => hplain.keyed.isText e (List.mem_cons_of_mem _ he)
  · exact (List.nodup_cons.1 hplain.keyed.nodup).2
  · exact fun name v hmem => hplain.section_ name v (List.mem_cons_of_mem _ hmem)

theorem IsPlain.find? (hplain : IsPlain entries) {name : String} {v : Datum}
    (hfound : find? (.text name) entries = some v) :
    ∃ inner, v = .dict inner ∧ IsPlainSection inner :=
  (hplain.section_ name v (mem_of_find? hfound)).2

section Overlay

theorem isPlainSection_alter {key : String} {v : Datum} (hinner : IsPlainSection inner)
    (hv : v.isMapping = false) (f : Datum → Datum)
    (hf : ∀ w, (f w).isMapping = false) :
    IsPlainSection (alter (.text key) v f inner) := by
  refine ⟨isTextKeyed_alter f hinner.keyed, ?_⟩
  intro e he
  rcases mem_alter f he with hold | rfl | ⟨w, _, rfl⟩
  · exact hinner.isMapping e hold
  · exact hv
  · exact hf w

theorem isPlainSection_overlayEntries (hlower : IsPlainSection lower)
    (hupper : IsPlainSection upper) : IsPlainSection (overlayEntries lower upper) := by
  apply overlayEntries_induction hlower
  intro key v done hmem hdone
  obtain ⟨key, rfl⟩ := hupper.keyed.isText _ hmem
  have hv : v.isMapping = false := hupper.isMapping _ hmem
  apply isPlainSection_alter hdone hv
  intro w
  rw [overlay_of_not_isMapping hv]
  exact hv

/-- A section that is changed to another one, or added. -/
theorem isPlain_alter {name : String} (hentries : IsPlain entries) (hname : name ∈ sectionNames)
    (hinner : IsPlainSection inner) {f : Datum → Datum}
    (hf : ∀ old, IsPlainSection old → ∃ new, f (.dict old) = .dict new ∧ IsPlainSection new) :
    IsPlain (alter (.text name) (.dict inner) f entries) := by
  refine ⟨isTextKeyed_alter f hentries.keyed, ?_⟩
  intro name' v hmem
  rcases mem_alter f hmem with hold | hnew | ⟨w, hw, hchanged⟩
  · exact hentries.section_ name' v hold
  · cases hnew
    exact ⟨hname, inner, rfl, hinner⟩
  · cases hchanged
    obtain ⟨_, old, rfl, hold⟩ := hentries.section_ name w hw
    obtain ⟨new, hnew, hplain⟩ := hf old hold
    exact ⟨hname, new, hnew, hplain⟩

theorem isPlain_overlayEntries (hlower : IsPlain lower) (hupper : IsPlain upper) :
    IsPlain (overlayEntries lower upper) := by
  apply overlayEntries_induction hlower
  intro name v done hmem hdone
  obtain ⟨name, rfl⟩ := hupper.keyed.isText _ hmem
  obtain ⟨hname, inner, rfl, hinner⟩ := hupper.section_ name v hmem
  refine isPlain_alter hdone hname hinner fun old hold => ?_
  exact ⟨_, overlay_dict old inner, isPlainSection_overlayEntries hold hinner⟩

/-- In a section, what is laid over a value takes its place. -/
theorem find?_overlayEntries_of_isPlainSection (hupper : IsPlainSection upper) (key : String) :
    Datum.find? (.text key) (overlayEntries lower upper) =
      (Datum.find? (.text key) upper).or (Datum.find? (.text key) lower) := by
  rw [find?_overlayEntries hupper.keyed]
  cases hfound : Datum.find? (.text key) upper with
  | none => rfl
  | some v =>
    have hv := hupper.isMapping _ (mem_of_find? hfound)
    cases Datum.find? (.text key) lower with
    | none => rfl
    | some old =>
      dsimp only [Option.map_some, Option.getD_some, Option.some_or]
      rw [overlay_of_not_isMapping hv]

/-- Each setting has the value of the upper dictionary, or else that of the lower one. -/
theorem raw?_overlayEntries (hupper : IsPlain upper) (name key : String) :
    raw? (overlayEntries lower upper) name key =
      (raw? upper name key).or (raw? lower name key) := by
  rw [raw?, raw?, raw?, find?_overlayEntries hupper.keyed]
  cases hfound : Datum.find? (.text name) upper with
  | none => rfl
  | some v =>
    obtain ⟨inner, rfl, hinner⟩ := hupper.find? hfound
    dsimp only
    cases Datum.find? (.text name) lower with
    | none =>
      dsimp only [Option.map_none, Option.getD_none]
      rw [Option.or_none]
    | some old =>
      cases old with
      | dict below =>
        dsimp only [Option.map_some, Option.getD_some]
        rw [overlay_dict]
        exact find?_overlayEntries_of_isPlainSection hinner key
      | _ =>
        dsimp only [Option.map_some, Option.getD_some]
        simp only [overlay, Option.or_none]

theorem hasSections_overlayEntries (hlower : HasSections lower) (hupper : IsPlain upper) :
    HasSections (overlayEntries lower upper) := by
  intro e he v hfound
  rw [find?_overlayEntries hupper.keyed] at hfound
  cases habove : Datum.find? (.text e.1) upper with
  | none =>
    rw [habove] at hfound
    exact hlower e he v hfound
  | some w =>
    obtain ⟨inner, rfl, _⟩ := hupper.find? habove
    rw [habove] at hfound
    cases hbelow : Datum.find? (.text e.1) lower with
    | none =>
      rw [hbelow] at hfound
      exact ⟨inner, (Option.some.inj hfound).symm⟩
    | some old =>
      obtain ⟨below, rfl⟩ := hlower e he old hbelow
      rw [hbelow] at hfound
      refine ⟨overlayEntries below inner, ?_⟩
      rw [← overlay_dict]
      exact (Option.some.inj hfound).symm

end Overlay

section Names

theorem lower_sectionName {name : String} (hname : name ∈ sectionNames) :
    Text.lower name = name := by
  have hall : ∀ name ∈ sectionNames, Text.lower name = name := by decide
  exact hall name hname

/-- A section that is there is not named anew, and no other one has its name. -/
theorem renamedTo_of_isPlain (hplain : IsPlain entries) (name : String) :
    renamedTo name entries = entries := by
  rw [renamedTo]
  by_cases hfound : (Datum.find? (.text name) entries).isSome = true
  · exact if_pos hfound
  · rw [if_neg hfound]
    refine (List.map_congr_left fun e he => ?_).trans (List.map_id entries)
    obtain ⟨key, v⟩ := e
    obtain ⟨s, rfl⟩ := hplain.keyed.isText _ he
    have hname := (hplain.section_ s v he).1
    have hother : ¬ (Text.lower s == name) = true := by
      rw [lower_sectionName hname]
      intro heq
      apply hfound
      rw [← eq_of_beq heq, find?_of_mem hplain.keyed.nodup he]
      rfl
    exact if_neg hother

/-- The sections of a plain dictionary have their names. -/
theorem renamed_of_isPlain (hplain : IsPlain entries) : renamed entries = entries := by
  rw [renamed_eq, renamedTo_of_isPlain hplain, renamedTo_of_isPlain hplain]

theorem all_isNamed_of_isPlain (hplain : IsPlain entries) : entries.all isNamed = true := by
  rw [List.all_eq_true]
  intro e he
  obtain ⟨name, hname⟩ := hplain.keyed.isText e he
  rw [isNamed, hname]

theorem namesWritable_dict (key : Scalar) (inner rest : List (Scalar × Datum)) :
    namesWritable ((key, .dict inner) :: rest) =
      ((inner.all fun e => namesVariable key && namesVariable e.1) && namesWritable rest) := by
  simp [namesWritable, variableParts, List.all_append, Function.comp_def]

/-- The keys of a plain dictionary are texts, and so are those of its sections. -/
theorem namesWritable_of_isPlain (hplain : IsPlain entries) : namesWritable entries = true := by
  induction entries with
  | nil => rfl
  | cons e rest ih =>
    obtain ⟨⟨name, inner, rfl, hinner⟩, hrest⟩ := hplain.of_cons
    have hkeys : (inner.all fun e => namesVariable (.text name) && namesVariable e.1) = true := by
      rw [List.all_eq_true]
      intro f hf
      obtain ⟨key, hkey⟩ := hinner.keyed.isText f hf
      rw [hkey]
      rfl
    rw [namesWritable_dict, hkeys, ih hrest]
    rfl

end Names

section Dropped

def variableName (sectionName key : String) : String :=
  Text.upper (variablePrefix ++ sectionName ++ variableDelimiter ++ key)

variable (vars : List String)

theorem mem_dropKeys {front : String} {key : Scalar} {e : Scalar × Datum}
    (he : e ∈ dropKeys vars front key inner) : e ∈ inner :=
  (List.mem_filter.1 he).1

theorem isPlainSection_dropKeys (hinner : IsPlainSection inner) (front : String) (key : Scalar) :
    IsPlainSection (dropKeys vars front key inner) := by
  refine ⟨⟨?_, ?_⟩, ?_⟩
  · exact fun e he => hinner.keyed.isText e (mem_dropKeys vars he)
  · exact hinner.keyed.nodup.sublist (List.filter_sublist.map _)
  · exact fun e he => hinner.isMapping e (mem_dropKeys vars he)

theorem find?_dropKeys (name key : String) (inner : List (Scalar × Datum)) :
    Datum.find? (.text key) (dropKeys vars variablePrefix (.text name) inner) =
      if vars.contains (variableName name key) then none
      else Datum.find? (.text key) inner := by
  rw [dropKeys]
  induction inner with
  | nil => rw [List.filter_nil, find?_nil, ite_self]
  | cons e rest ih =>
    obtain ⟨k, v⟩ := e
    rw [List.filter_cons]
    by_cases hk : k = .text key
    · subst hk
      have hname : Text.upper (variablePrefix ++ (Scalar.text name).display ++ variableDelimiter ++
          (Scalar.text key).display) = variableName name key := rfl
      rw [hname]
      cases hset : vars.contains (variableName name key) with
      | true =>
        rw [hset] at ih
        exact ih
      | false => rw [Bool.not_false, if_pos rfl, if_neg Bool.false_ne_true, find?_cons_self,
          find?_cons_self]
    · rw [find?_cons_of_ne hk, ← ih]
      split
      · exact find?_cons_of_ne hk
      · rfl

theorem find?_dropOverridden (hplain : IsPlain entries) (name : String) :
    Datum.find? (.text name) (dropOverridden vars variablePrefix entries) =
      (Datum.find? (.text name) entries).map fun v => match v with
        | .dict inner => .dict (dropKeys vars variablePrefix (.text name) inner)
        | v => v := by
  induction entries with
  | nil => rfl
  | cons e rest ih =>
    obtain ⟨⟨name', inner, rfl, _⟩, hrest⟩ := hplain.of_cons
    rw [dropOverridden]
    by_cases hname : name' = name
    · subst hname
      rw [find?_cons_self, find?_cons_self]
      rfl
    · have hne : Scalar.text name' ≠ .text name := fun heq => hname (Scalar.text.inj heq)
      rw [find?_cons_of_ne hne, find?_cons_of_ne hne]
      exact ih hrest

/-- A setting whose variable is set has no value left, the others have theirs. -/
theorem raw?_dropOverridden (hplain : IsPlain entries) (name key : String) :
    raw? (dropOverridden vars variablePrefix entries) name key =
      if vars.contains (variableName name key) then none else raw? entries name key := by
  rw [raw?, raw?, find?_dropOverridden vars hplain]
  cases hfound : Datum.find? (.text name) entries with
  | none => exact (ite_self none).symm
  | some v =>
    obtain ⟨inner, rfl, _⟩ := hplain.find? hfound
    exact find?_dropKeys vars name key inner

theorem keys_dropOverridden (hplain : IsPlain entries) :
    (dropOverridden vars variablePrefix entries).map Prod.fst = entries.map Prod.fst := by
  induction entries with
  | nil => rfl
  | cons e rest ih =>
    obtain ⟨⟨name, inner, rfl, _⟩, hrest⟩ := hplain.of_cons
    rw [dropOverridden, List.map_cons, List.map_cons, ih hrest]

theorem isPlain_dropOverridden (hplain : IsPlain entries) :
    IsPlain (dropOverridden vars variablePrefix entries) := by
  have hnodup := hplain.keyed.nodup
  rw [← keys_dropOverridden vars hplain] at hnodup
  have htext : ∀ e ∈ dropOverridden vars variablePrefix entries, ∃ s, e.1 = .text s := by
    intro e he
    have hkey := List.mem_map_of_mem (f := Prod.fst) he
    rw [keys_dropOverridden vars hplain] at hkey
    obtain ⟨e', he', hsame⟩ := List.mem_map.1 hkey
    obtain ⟨s, hs⟩ := hplain.keyed.isText e' he'
    exact ⟨s, hsame.symm.trans hs⟩
  refine ⟨⟨htext, hnodup⟩, ?_⟩
  intro name v hmem
  have hfound := find?_of_mem hnodup hmem
  rw [find?_dropOverridden vars hplain, Option.map_eq_some_iff] at hfound
  obtain ⟨w, hw, hv⟩ := hfound
  obtain ⟨hname, inner, rfl, hinner⟩ := hplain.section_ name w (mem_of_find? hw)
  exact ⟨hname, _, hv.symm, isPlainSection_dropKeys vars hinner _ _⟩

end Dropped

end Settings

end FindingLedger
