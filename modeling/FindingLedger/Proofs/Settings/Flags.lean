/-
Settings that are given by flags.

Main statement: flags whose paths are paths stand for a plain dictionary of sections, which has
for each setting the value that the last of the flags for it gives.
-/
import FindingLedger.Proofs.Settings.Plain

namespace FindingLedger

namespace Settings

open Datum

/-- Whether a value can be given for a path: none, a text or a path. -/
def isPathValue : Datum → Bool
  | .scalar .null | .scalar (.text _) | .path _ => true
  | _ => false

/-- The flags that take paths. -/
def pathFlags : List String := ["log_file", "baseline"]

/-- Whether the flags that take paths are given such values. -/
def hasPaths (flags : List (String × Datum)) : Bool :=
  flags.all fun e => !pathFlags.contains e.1 || isPathValue e.2

/-- The value that a flag gives to its setting: a switch that is on gives its own. -/
def FlagKind.gives? : FlagKind → Datum → Option Datum
  | .switch value, v => if v.truthy then some value else none
  | .path, .path t => some (.path t)
  | .path, .scalar (.text s) => some (.path (Path.ofString s).text)
  | .path, _ => none

/-- The value that an entry of the flags gives to a setting. -/
def entryGives? (n : String × String) (e : String × Datum) : Option Datum :=
  match flagTarget? e.1 with
  | some (sectionName, key, kind) => if (sectionName, key) = n then kind.gives? e.2 else none
  | none => none

/-- The value that flags give to a setting: that of the last one which gives it a value. -/
def flagValue? (flags : List (String × Datum)) (sectionName key : String) : Option Datum :=
  flags.reverse.findSome? (entryGives? (sectionName, key))

section SetIn

variable {entries : List (Scalar × Datum)} {sectionName : String} {value : Datum}

theorem isPlain_setIn (hplain : IsPlain entries) (hsection : sectionName ∈ sectionNames)
    (hvalue : value.isMapping = false) (key : String) :
    IsPlain (setIn entries sectionName key value) := by
  have hsingle : IsPlainSection [(.text key, value)] := by
    refine ⟨⟨?_, List.nodup_singleton _⟩, ?_⟩
    · intro e he
      rw [List.mem_singleton.1 he]
      exact ⟨key, rfl⟩
    · intro e he
      rw [List.mem_singleton.1 he]
      exact hvalue
  refine isPlain_alter hplain hsection hsingle fun old hold => ⟨_, rfl, ?_⟩
  rw [put_eq_alter]
  exact isPlainSection_alter hold hvalue _ fun _ => hvalue

/-- Setting a setting changes no other one. -/
theorem raw?_setIn (hplain : IsPlain entries) (sectionName key name' key' : String)
    (value : Datum) :
    raw? (setIn entries sectionName key value) name' key' =
      if (sectionName, key) = (name', key') then some value else raw? entries name' key' := by
  rw [raw?, raw?, setIn, find?_alter]
  by_cases hname : name' = sectionName
  · subst hname
    rw [if_pos rfl]
    have hkeys : ((name', key) = (name', key')) ↔ key' = key := by
      rw [Prod.mk.injEq]
      exact ⟨fun h => h.2.symm, fun h => ⟨rfl, h.symm⟩⟩
    simp only [hkeys]
    cases hfound : Datum.find? (.text name') entries with
    | none =>
      dsimp only [Option.map_none, Option.getD_none]
      exact find?_put key' key value []
    | some v =>
      obtain ⟨inner, rfl, _⟩ := hplain.find? hfound
      exact find?_put key' key value inner
  · have hother : ¬ (sectionName, key) = (name', key') := fun heq =>
      hname (congrArg Prod.fst heq).symm
    rw [if_neg hname, if_neg hother]

end SetIn

section Flags

theorem flagTarget?_spec {flag sectionName key : String} {kind : FlagKind}
    (htarget : flagTarget? flag = some (sectionName, key, kind)) :
    sectionName ∈ sectionNames ∧ ∀ v w, kind.gives? v = some w → w.isMapping = false := by
  have hswitch : ∀ value v w, FlagKind.gives? (.switch value) v = some w → w = value := by
    intro value v w hgives
    rw [FlagKind.gives?] at hgives
    split at hgives
    · exact (Option.some.inj hgives).symm
    · cases hgives
  have hpath : ∀ v w, FlagKind.gives? .path v = some w → w.isMapping = false := by
    intro v w hgives
    cases v with
    | path t =>
      cases hgives
      rfl
    | scalar s =>
      cases s <;> cases hgives
      rfl
    | _ => cases hgives
  unfold flagTarget? at htarget
  split at htarget <;> cases htarget
  all_goals refine ⟨by decide, ?_⟩
  all_goals first
    | exact hpath
    | exact fun v w h => by rw [hswitch _ v w h]; rfl

/-- A value that can be given for a path is read as one. -/
theorem apply_eq_gives? {flag sectionName key : String} {kind : FlagKind} {v : Datum}
    (htarget : flagTarget? flag = some (sectionName, key, kind))
    (hpaths : hasPaths [(flag, v)] = true) (hvalue : v ≠ .scalar .null) :
    kind.apply v = .ok (kind.gives? v) := by
  cases kind with
  | switch value => rfl
  | path =>
    have hflag : pathFlags.contains flag = true := by
      unfold flagTarget? at htarget
      split at htarget <;> cases htarget <;> rfl
    have hv : isPathValue v = true := by
      rw [hasPaths, List.all_cons, hflag] at hpaths
      simpa using hpaths
    unfold isPathValue at hv
    split at hv
    · exact absurd rfl hvalue
    · rfl
    · rfl
    · cases hv

/-- What an entry of the flags does to what was set before. -/
def setBy (done : List (Scalar × Datum)) (e : String × Datum) : List (Scalar × Datum) :=
  match flagTarget? e.1 with
  | some (sectionName, key, kind) =>
    match kind.gives? e.2 with
    | some v => setIn done sectionName key v
    | none => done
  | none => done

theorem ofFlagsFrom_cons {done : List (Scalar × Datum)} {e : String × Datum}
    (hpaths : hasPaths [e] = true) (rest : List (String × Datum)) :
    ofFlagsFrom done (e :: rest) = ofFlagsFrom (setBy done e) rest := by
  obtain ⟨flag, value⟩ := e
  rw [setBy]
  by_cases hnull : value = .scalar .null
  · subst hnull
    rw [ofFlagsFrom]
    cases flagTarget? flag with
    | none => rfl
    | some target =>
      obtain ⟨sectionName, key, kind⟩ := target
      cases kind <;> rfl
  · cases htarget : flagTarget? flag with
    | none => rw [ofFlagsFrom.eq_3 _ _ _ _ hnull htarget]
    | some target =>
      obtain ⟨sectionName, key, kind⟩ := target
      rw [ofFlagsFrom.eq_4 _ _ _ _ _ _ _ hnull htarget, apply_eq_gives? htarget hpaths hnull]
      cases hgives : kind.gives? value <;> simp only [hgives] <;> rfl

theorem isPlain_setBy {done : List (Scalar × Datum)} (hplain : IsPlain done)
    (e : String × Datum) : IsPlain (setBy done e) := by
  rw [setBy]
  split
  · next sectionName key kind htarget =>
    obtain ⟨hsection, hgives⟩ := flagTarget?_spec htarget
    split
    · next v hv => exact isPlain_setIn hplain hsection (hgives _ _ hv) key
    · exact hplain
  · exact hplain

theorem raw?_setBy {done : List (Scalar × Datum)} (hplain : IsPlain done) (e : String × Datum)
    (name key : String) :
    raw? (setBy done e) name key = (entryGives? (name, key) e).or (raw? done name key) := by
  rw [setBy, entryGives?]
  split
  · next sectionName key' kind htarget =>
    cases hgives : kind.gives? e.2 with
    | none => rw [ite_self, Option.none_or]
    | some v =>
      dsimp only
      rw [raw?_setIn hplain]
      split
      · rfl
      · rfl
  · rfl

/-- By induction on the flags, from the first on: later flags take the place of earlier
ones. -/
theorem ofFlagsFrom_spec {done : List (Scalar × Datum)} (hplain : IsPlain done)
    {flags : List (String × Datum)} (hpaths : hasPaths flags = true) :
    ∃ set, ofFlagsFrom done flags = .ok set ∧ IsPlain set ∧
      ∀ name key, raw? set name key = (flagValue? flags name key).or (raw? done name key) := by
  induction flags generalizing done with
  | nil => exact ⟨done, rfl, hplain, fun _ _ => rfl⟩
  | cons e rest ih =>
    rw [hasPaths, List.all_cons, Bool.and_eq_true] at hpaths
    have hfirst : hasPaths [e] = true := by
      rw [hasPaths, List.all_cons, hpaths.1]
      rfl
    obtain ⟨set, hset, hplainSet, hraw⟩ := ih (isPlain_setBy hplain e) hpaths.2
    refine ⟨set, (ofFlagsFrom_cons hfirst rest).trans hset, hplainSet, ?_⟩
    intro name key
    rw [hraw, raw?_setBy hplain, flagValue?, flagValue?, List.reverse_cons, List.findSome?_append,
      Option.or_assoc]
    rw [List.findSome?_cons]
    cases entryGives? (name, key) e <;> rfl

theorem ofFlags_spec {flags : List (String × Datum)} (hpaths : hasPaths flags = true) :
    ∃ set, ofFlags flags = .ok set ∧ IsPlain set ∧
      ∀ name key, raw? set name key = flagValue? flags name key := by
  obtain ⟨set, hset, hplain, hraw⟩ := ofFlagsFrom_spec isPlain_nil hpaths
  refine ⟨set, hset, hplain, fun name key => (hraw name key).trans ?_⟩
  exact Option.or_none

end Flags

end Settings

end FindingLedger
