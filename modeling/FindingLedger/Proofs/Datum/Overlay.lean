/-
Laying nested dictionaries over each other.

What a tree of dictionaries says is told by its leaves and by the order of its keys.  A leaf of
the upper tree is one of the result; a leaf of the lower tree is left where the upper tree ends in
a dictionary without the next key.  Where one tree has a leaf and the other a dictionary, the
upper one wins.
-/
import FindingLedger.Proofs.Datum.Lookup

namespace FindingLedger

namespace Datum

/-- A value whose dictionaries, however deep, have keys that can be told apart. -/
inductive IsTree : Datum → Prop
  | leaf {d : Datum} (hleaf : d.isMapping = false) : IsTree d
  | dict {entries : List (Scalar × Datum)} (hkeyed : IsKeyed entries)
      (hvalues : ∀ e ∈ entries, IsTree e.2) : IsTree (.dict entries)

/-- What a path of keys leads to. -/
def at? : Datum → List Scalar → Option Datum
  | d, [] => some d
  | .dict entries, key :: keys => (find? key entries).bind fun v => v.at? keys
  | _, _ :: _ => none

/-- A path leads to a value that is no dictionary. -/
def HasLeaf (d : Datum) (keys : List Scalar) (v : Datum) : Prop :=
  d.at? keys = some v ∧ v.isMapping = false

/-- A path ends early, at a dictionary that lacks its next key. -/
def Lacks (d : Datum) (keys : List Scalar) : Prop :=
  ∃ front key rest entries, keys = front ++ key :: rest ∧
    d.at? front = some (.dict entries) ∧ find? key entries = none

variable {d old v w : Datum} {key : Scalar} {keys : List Scalar}
variable {entries lower upper : List (Scalar × Datum)}

theorem at?_nil (d : Datum) : d.at? [] = some d := by
  rw [at?]

theorem at?_dict_cons (entries : List (Scalar × Datum)) (key : Scalar) (keys : List Scalar) :
    (dict entries).at? (key :: keys) = (find? key entries).bind fun v => v.at? keys := by
  rw [at?]

/-- A path goes on in dictionaries only. -/
theorem at?_cons_eq_some :
    d.at? (key :: keys) = some w ↔
      ∃ entries v, d = .dict entries ∧ find? key entries = some v ∧ v.at? keys = some w := by
  cases d with
  | dict entries => simp [at?_dict_cons, Option.bind_eq_some_iff]
  | _ => simp [at?]

theorem hasLeaf_dict_cons :
    (dict entries).HasLeaf (key :: keys) w ↔
      ∃ v, find? key entries = some v ∧ v.HasLeaf keys w := by
  rw [HasLeaf, at?_dict_cons, Option.bind_eq_some_iff]
  simp only [HasLeaf, and_assoc, ← exists_and_right]

theorem not_lacks_nil : ¬ d.Lacks [] := by
  rintro ⟨front, key, rest, entries, hkeys, _, _⟩
  simp at hkeys

/-- A path ends early at its first key, or after it. -/
theorem lacks_dict_cons :
    (dict entries).Lacks (key :: keys) ↔
      find? key entries = none ∨ ∃ v, find? key entries = some v ∧ v.Lacks keys := by
  constructor
  · rintro ⟨front, next, rest, inner, hkeys, hfront, hnone⟩
    cases front with
    | nil =>
      cases hkeys
      cases hfront
      exact Or.inl hnone
    | cons first front =>
      rw [List.cons_append, List.cons.injEq] at hkeys
      obtain ⟨rfl, rfl⟩ := hkeys
      obtain ⟨_, v, hdict, hfound, hv⟩ := at?_cons_eq_some.1 hfront
      cases hdict
      exact Or.inr ⟨v, hfound, front, next, rest, inner, rfl, hv, hnone⟩
  · rintro (hnone | ⟨v, hfound, front, next, rest, inner, rfl, hv, hnone⟩)
    · exact ⟨[], key, keys, entries, rfl, at?_nil _, hnone⟩
    · refine ⟨key :: front, next, rest, inner, rfl, ?_, hnone⟩
      rw [at?_dict_cons, hfound]
      exact hv

/-- Only in a dictionary a path ends early. -/
theorem Lacks.eq_dict (hlacks : d.Lacks (key :: keys)) : ∃ entries, d = .dict entries := by
  obtain ⟨front, next, rest, inner, hkeys, hfront, hnone⟩ := hlacks
  cases front with
  | nil => exact ⟨inner, Option.some.inj hfront⟩
  | cons first front =>
    obtain ⟨entries, v, hd, _⟩ := at?_cons_eq_some.1 hfront
    exact ⟨entries, hd⟩

theorem HasLeaf.eq_dict (hleaf : d.HasLeaf (key :: keys) w) : ∃ entries, d = .dict entries := by
  obtain ⟨entries, v, hd, _⟩ := at?_cons_eq_some.1 hleaf.1
  exact ⟨entries, hd⟩

theorem not_hasLeaf_dict_nil : ¬ (dict entries).HasLeaf [] w := by
  rintro ⟨hat, hleaf⟩
  cases hat
  cases hleaf

theorem IsTree.isKeyed (htree : IsTree (.dict entries)) : IsKeyed entries := by
  cases htree with
  | leaf hleaf => cases hleaf
  | dict hkeyed _ => exact hkeyed

theorem IsTree.of_mem (htree : IsTree (.dict entries)) {e : Scalar × Datum}
    (hmem : e ∈ entries) : IsTree e.2 := by
  cases htree with
  | leaf hleaf => cases hleaf
  | dict _ hvalues => exact hvalues e hmem

theorem IsTree.of_find? (htree : IsTree (.dict entries)) (hfound : find? key entries = some v) :
    IsTree v := by
  obtain ⟨e, he, rfl⟩ := Option.map_eq_some_iff.1 hfound
  exact htree.of_mem (List.mem_of_find?_eq_some he)

/-- Unless both are dictionaries, the upper value replaces the lower one. -/
theorem dicts_or_overlay_eq (old v : Datum) :
    (∃ lower upper, old = .dict lower ∧ v = .dict upper) ∨
      overlay old v = v ∧ ∀ lower upper, old = .dict lower → v ≠ .dict upper := by
  cases v with
  | dict upper =>
    cases old with
    | dict lower => exact Or.inl ⟨lower, upper, rfl, rfl⟩
    | _ => exact Or.inr ⟨by simp only [overlay], by simp⟩
  | _ => exact Or.inr ⟨by simp only [overlay], by simp⟩

/-- A leaf of the upper tree is one of the result, and so is a leaf of the lower tree where the
upper one ends early. -/
theorem hasLeaf_overlay (hv : IsTree v) (old : Datum) (keys : List Scalar) (w : Datum) :
    (overlay old v).HasLeaf keys w ↔
      v.HasLeaf keys w ∨ old.HasLeaf keys w ∧ v.Lacks keys := by
  -- By induction on the path, one level of both values at a time.
  induction keys generalizing old v with
  | nil =>
    rw [or_iff_left fun hboth => not_lacks_nil hboth.2]
    rcases dicts_or_overlay_eq old v with ⟨lower, upper, rfl, rfl⟩ | ⟨hover, _⟩
    · rw [overlay_dict]
      exact iff_of_false not_hasLeaf_dict_nil not_hasLeaf_dict_nil
    · rw [hover]
  | cons key keys ih =>
    rcases dicts_or_overlay_eq old v with ⟨lower, upper, rfl, rfl⟩ | ⟨hover, hclash⟩
    · rw [overlay_dict, hasLeaf_dict_cons, hasLeaf_dict_cons, hasLeaf_dict_cons, lacks_dict_cons]
      cases hupper : find? key upper with
      | none =>
        rw [find?_overlayEntries_of_none hupper]
        simp
      | some v =>
        rw [find?_overlayEntries_of_some hv.isKeyed hupper]
        cases hlower : find? key lower with
        | none => simp
        | some old => simpa using ih (hv.of_find? hupper) old
    · rw [hover, or_iff_left]
      -- A leaf below and a gap above ask for two dictionaries, which would be laid over.
      rintro ⟨hold, hlacks⟩
      obtain ⟨lower, hlower⟩ := hold.eq_dict
      obtain ⟨upper, hupper⟩ := hlacks.eq_dict
      exact hclash lower upper hlower hupper

/-- Where a path leads to something in both trees, the one is laid over the other there. -/
theorem at?_overlay (hv : IsTree v) {below above : Datum} (hbelow : old.at? keys = some below)
    (habove : v.at? keys = some above) : (overlay old v).at? keys = some (overlay below above) := by
  induction keys generalizing old v with
  | nil =>
    cases hbelow
    cases habove
    rw [at?_nil]
  | cons key keys ih =>
    obtain ⟨lower, w, rfl, hlower, hw⟩ := at?_cons_eq_some.1 hbelow
    obtain ⟨upper, w', rfl, hupper, hw'⟩ := at?_cons_eq_some.1 habove
    rw [overlay_dict, at?_dict_cons, find?_overlayEntries_of_some hv.isKeyed hupper, hlower]
    exact ih (hv.of_find? hupper) hw hw'

theorem IsTree.at? (hd : IsTree d) (hat : d.at? keys = some w) : IsTree w := by
  induction keys generalizing d with
  | nil =>
    cases hat
    exact hd
  | cons key keys ih =>
    obtain ⟨entries, v, rfl, hfound, hv⟩ := at?_cons_eq_some.1 hat
    exact ih (hd.of_find? hfound) hv

/-- Over what is no dictionary, anything is laid as it is. -/
theorem null_overlay (v : Datum) : overlay .null v = v := by
  rcases dicts_or_overlay_eq .null v with ⟨lower, _, hnull, _⟩ | ⟨hover, _⟩
  · cases hnull
  · exact hover

/-- A tree that is laid over a value a second time changes nothing. -/
theorem overlay_overlay (hv : IsTree v) (old : Datum) :
    overlay (overlay old v) v = overlay old v := by
  induction hv generalizing old with
  | leaf hleaf => rw [overlay_of_not_isMapping hleaf, overlay_of_not_isMapping hleaf]
  | @dict upper hkeyed hvalues ih =>
    -- whatever is below, the result has every value of the tree, laid over something
    have hkept : ∀ lower,
        overlayEntries (overlayEntries lower upper) upper = overlayEntries lower upper := by
      intro lower
      apply overlayEntries_of_kept
      intro e he
      refine ⟨_, find?_overlayEntries_of_some hkeyed (hkeyed.find?_of_mem he), ?_⟩
      cases find? e.1 lower with
      | none =>
        have hself := ih e he .null
        rwa [null_overlay] at hself
      | some old => exact ih e he old
    rcases dicts_or_overlay_eq old (.dict upper) with ⟨lower, _, rfl, _⟩ | ⟨hover, _⟩
    · rw [overlay_dict, overlay_dict, hkept]
    · have hself := hkept []
      rw [nil_overlayEntries hkeyed] at hself
      rw [hover, overlay_dict, hself]

/-- What laying one nested dictionary over another gives: its leaves, path by path, the order of
the keys wherever both have a dictionary, and that to lay over nothing, to lay nothing over and to
lay over a second time change nothing. -/
theorem overlayEntries_laws (hupper : IsTree (.dict upper)) (lower : List (Scalar × Datum)) :
    (∀ keys w, (dict (overlayEntries lower upper)).HasLeaf keys w ↔
      (dict upper).HasLeaf keys w ∨
        (dict lower).HasLeaf keys w ∧ (dict upper).Lacks keys) ∧
    (∀ keys below above, (dict lower).at? keys = some (.dict below) →
      (dict upper).at? keys = some (.dict above) →
      ∃ entries, (dict (overlayEntries lower upper)).at? keys = some (.dict entries) ∧
        entries.map Prod.fst = below.map Prod.fst ++
          (above.map Prod.fst).filter fun k => (find? k below).isNone) ∧
    overlayEntries [] upper = upper ∧ overlayEntries lower [] = lower ∧
    overlayEntries (overlayEntries lower upper) upper = overlayEntries lower upper := by
  refine ⟨?leaves, ?keys, nil_overlayEntries hupper.isKeyed, overlayEntries_nil lower, ?again⟩
  case leaves =>
    intro keys w
    rw [← overlay_dict]
    exact hasLeaf_overlay hupper _ keys w
  case keys =>
    intro keys below above hbelow habove
    refine ⟨overlayEntries below above, ?_, keys_overlayEntries (hupper.at? habove).isKeyed⟩
    rw [← overlay_dict, ← overlay_dict]
    exact at?_overlay hupper hbelow habove
  case again =>
    have hagain := overlay_overlay hupper (.dict lower)
    rwa [overlay_dict, overlay_dict, Datum.dict.injEq] at hagain

/-- A text over a dictionary, a dictionary over a text, and a key that is left as it is. -/
theorem overlayEntries_laws_clash :
    let lower := [(.text "baseline", text "old.xml"),
      (.text "logging", dict [(.text "level", text "INFO"), (.text "file", dict [])])]
    let upper := [(.text "logging", dict [(.text "file", text "run.log")]),
      (.text "baseline", dict [(.text "path", text "new.xml")])]
    IsTree (.dict upper) ∧
      (dict (overlayEntries lower upper)).HasLeaf [.text "logging", .text "level"] (text "INFO") ∧
      (dict (overlayEntries lower upper)).HasLeaf [.text "logging", .text "file"] (text "run.log") ∧
      (overlayEntries lower upper).map Prod.fst = [.text "baseline", .text "logging"] ∧
      overlayEntries (overlayEntries lower upper) upper = overlayEntries lower upper := by
  intro lower upper
  have hsection : ∀ key s, IsTree (dict [(.text key, text s)]) := fun key s =>
    .dict (isKeyed_cons.2 ⟨Scalar.sameAs_text.2 rfl, rfl, isKeyed_nil⟩)
      (List.forall_mem_singleton.2 (.leaf rfl))
  have hupper : IsTree (.dict upper) :=
    .dict (by decide +kernel) (List.forall_mem_cons.2
      ⟨hsection _ _, List.forall_mem_singleton.2 (hsection _ _)⟩)
  obtain ⟨hleaves, hkeys, _, _, hagain⟩ := overlayEntries_laws hupper lower
  obtain ⟨entries, hat, hentries⟩ := hkeys [] lower upper rfl rfl
  cases hat
  refine ⟨hupper, (hleaves _ _).2 (Or.inr ⟨⟨?_, rfl⟩, ?_⟩), (hleaves _ _).2 (Or.inl ⟨?_, rfl⟩),
    hentries.trans ?_, hagain⟩
  · simp [lower, at?, find?_cons]
  · refine lacks_dict_cons.2 (Or.inr ⟨_, rfl, lacks_dict_cons.2 (Or.inl ?_)⟩)
    simp [find?_cons, find?_nil]
  · simp [upper, at?, find?_cons]
  · decide +kernel

end Datum

end FindingLedger
