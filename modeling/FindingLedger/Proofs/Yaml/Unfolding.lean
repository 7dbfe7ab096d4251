/-
Which parts of a document unfold to dictionaries.

Main statements: down to the settings, dictionaries of a value come from dictionaries of its
document and the other way round; and dictionaries of sections whose settings are no
dictionaries can always be laid over each other.  What carries both is that the values which
unfolding remembers are dictionaries exactly where the document has them.
-/
import FindingLedger.Yaml.Endless
import FindingLedger.Yaml.Value
import Mathlib.Data.List.Forall2

namespace FindingLedger

def Datum.isDict : Datum → Bool
  | .dict _ => true
  | _ => false

namespace Yaml

def Holding.isDict : Holding → Bool
  | .dict _ => true
  | _ => false

def Assembly.isDict (a : Assembly) (p : Part) : Bool :=
  (a.entries? p).isSome

namespace Unfolding

variable {α β : Type} {a : Assembly}

/-- What is remembered are dictionaries exactly where the document has them. -/
structure Faithful (a : Assembly) (u : Unfolder) : Prop where
  source : u.source = a
  known : ∀ i v, u.known.getD i none = some v → v.isDict = a.isDict (.collection i)

/-- A step that keeps what is remembered faithful, and what holds of its result. -/
def Keeps (a : Assembly) (x : Unfolding α) (P : α → Prop) : Prop :=
  ∀ u, Faithful a u → Faithful a (x u).2 ∧ P (x u).1

theorem keeps_pure {P : α → Prop} {v : α} (hv : P v) : Keeps a (pure v) P :=
  fun _ hu => ⟨hu, hv⟩

theorem keeps_bind {P : α → Prop} {Q : β → Prop} {x : Unfolding α} {f : α → Unfolding β}
    (hx : Keeps a x P) (hf : ∀ v, P v → Keeps a (f v) Q) : Keeps a (x >>= f) Q := by
  intro u hu
  obtain ⟨hmid, hv⟩ := hx u hu
  exact hf _ hv _ hmid

theorem keeps_get : Keeps a get (Faithful a) :=
  fun _ hu => ⟨hu, hu⟩

theorem Keeps.weaken {P Q : α → Prop} {x : Unfolding α} (hx : Keeps a x P)
    (hPQ : ∀ v, P v → Q v) : Keeps a x Q :=
  fun u hu => ⟨(hx u hu).1, hPQ _ (hx u hu).2⟩

/-- In a loop, every result is that of its round. -/
theorem keeps_mapM {Q : α → β → Prop} {f : α → Unfolding β} {items : List α}
    (hf : ∀ v, Keeps a (f v) (Q v)) : Keeps a (items.mapM f) (List.Forall₂ Q items) := by
  induction items with
  | nil =>
    rw [List.mapM_nil]
    exact keeps_pure List.Forall₂.nil
  | cons item rest ih =>
    rw [List.mapM_cons]
    refine keeps_bind (hf item) fun _ hv => keeps_bind ih fun _ hvs => ?_
    exact keeps_pure (List.Forall₂.cons hv hvs)

/-- Remembering a value is fine where it is a dictionary as the document says. -/
theorem keeps_remember {i : NodeId} {v : Datum} (hv : v.isDict = a.isDict (.collection i)) :
    Keeps a (modify fun u => { u with known := u.known.setIfInBounds i (some v) })
      fun _ => True := by
  intro u hu
  refine ⟨⟨hu.source, ?_⟩, trivial⟩
  intro j w hw
  change (u.known.setIfInBounds i (some v)).getD j none = some w at hw
  rw [Array.getD_eq_getD_getElem?, Array.getElem?_setIfInBounds] at hw
  split at hw
  · next hij =>
    split at hw
    · cases hw
      rw [← hij]
      exact hv
    · cases hw
  · rw [← Array.getD_eq_getD_getElem?] at hw
    exact hu.known j w hw

theorem isDict_collection (a : Assembly) (i : NodeId) :
    a.isDict (.collection i) = (a.holding i).isDict := by
  rw [Assembly.isDict, Assembly.entries?]
  cases a.holding i <;> rfl

/-- What a holding unfolds to is a dictionary if the holding is one; the other way round this
is so while there is fuel. -/
structure FitsHolding (fuel : Nat) (h : Holding) (r : Datum × Bool) : Prop where
  sound : r.1.isDict = true → h.isDict = true
  complete : h.isDict = true → r.2 = false ∨ 0 < fuel → r.1.isDict = true

/-- What a part unfolds to is a dictionary if the part is one; the other way round this is so
outside of all collections, and where nothing was cut off. -/
structure FitsPart (a : Assembly) (fuel : Nat) (outer : List NodeId) (p : Part)
    (r : Datum × Bool) : Prop where
  sound : r.1.isDict = true → a.isDict p = true
  complete : a.isDict p = true → r.2 = false ∨ outer = [] ∧ 2 ≤ fuel → r.1.isDict = true

theorem fitsPart_scalar (fuel : Nat) (outer : List NodeId) (key : Key) :
    FitsPart a fuel outer (.scalar key) (.scalar key.scalar, false) :=
  ⟨nofun, nofun⟩

theorem FitsHolding.fitsPart {fuel : Nat} {outer : List NodeId} {i : NodeId} {r : Datum × Bool}
    (hfits : FitsHolding fuel (a.holding i) r) : FitsPart a (fuel + 1) outer (.collection i) r := by
  constructor
  · rw [isDict_collection]
    exact hfits.sound
  · rw [isDict_collection]
    rintro hdict (hcut | ⟨_, hfuel⟩)
    · exact hfits.complete hdict (Or.inl hcut)
    · exact hfits.complete hdict (Or.inr (by omega))

theorem keeps_part_zero (outer : List NodeId) (p : Part) :
    Keeps a (part 0 outer p) (FitsPart a 0 outer p) := by
  cases p with
  | scalar key =>
    rw [part]
    exact keeps_pure (fitsPart_scalar 0 outer key)
  | collection i =>
    rw [part]
    refine keeps_pure ⟨nofun, ?_⟩
    rintro _ (hcut | ⟨_, hfuel⟩)
    · cases hcut
    · exact absurd hfuel (by omega)

theorem keeps_holding_zero (outer : List NodeId) (h : Holding) :
    Keeps a (holding 0 outer h) (FitsHolding 0 h) := by
  rw [holding]
  refine keeps_pure ⟨nofun, ?_⟩
  rintro _ (hcut | hfuel)
  · cases hcut
  · exact absurd hfuel (Nat.lt_irrefl 0)

/-- A part that is unfolded whole is a dictionary as the document says. -/
theorem FitsPart.isDict_eq {fuel : Nat} {outer : List NodeId} {p : Part} {r : Datum × Bool}
    (hfits : FitsPart a fuel outer p r) (hwhole : r.2 = false) : r.1.isDict = a.isDict p := by
  rw [Bool.eq_iff_iff]
  exact ⟨hfits.sound, fun hpart => hfits.complete hpart (Or.inl hwhole)⟩

/-- A part unfolds as what it holds does with less fuel. -/
theorem keeps_part_succ {fuel : Nat}
    (hholding : ∀ outer h, Keeps a (holding fuel outer h) (FitsHolding fuel h))
    (outer : List NodeId) (p : Part) :
    Keeps a (part (fuel + 1) outer p) (FitsPart a (fuel + 1) outer p) := by
  cases p with
  | scalar key =>
    rw [part]
    exact keeps_pure (fitsPart_scalar _ outer key)
  | collection i =>
    rw [part]
    refine keeps_bind keeps_get fun u hu => ?_
    split
    · next v hknown =>
      -- A value that is remembered was put together in full before.
      have hv := hu.known i v hknown
      exact keeps_pure ⟨fun hdict => hv ▸ hdict, fun hpart _ => hv.trans hpart⟩
    · dsimp only
      rw [hu.source]
      split
      -- A collection inside of itself is cut off.
      · next houter =>
        refine keeps_pure ⟨?_, ?_⟩
        · intro hdict
          cases hheld : a.holding i <;> rw [hheld] at hdict <;> cases hdict
        · rintro _ (hcut | ⟨rfl, _⟩)
          · cases hcut
          · simp at houter
      · refine keeps_bind (hholding (i :: outer) (a.holding i)) fun r hr => ?_
        have hfits : FitsPart a (fuel + 1) outer (.collection i) r := hr.fitsPart
        split
        · next hcut =>
          have hwhole : r.2 = false := by simpa using hcut
          refine keeps_bind (keeps_remember (hfits.isDict_eq hwhole)) fun _ _ => ?_
          exact keeps_pure hfits
        · exact keeps_pure hfits

/-- What is held unfolds as its parts do with less fuel. -/
theorem keeps_holding_succ {fuel : Nat}
    (hpart : ∀ outer p, Keeps a (part fuel outer p) (FitsPart a fuel outer p))
    (outer : List NodeId) (h : Holding) :
    Keeps a (holding (fuel + 1) outer h) (FitsHolding (fuel + 1) h) := by
  cases h with
  | set items =>
    rw [holding]
    exact keeps_pure ⟨nofun, nofun⟩
  | list items =>
    rw [holding]
    refine keeps_bind (keeps_mapM (hpart outer)) fun _ _ => ?_
    exact keeps_pure ⟨nofun, nofun⟩
  | pairs items =>
    have hround : ∀ e : Part × Part,
        Keeps a (do return (← part fuel outer e.1, ← part fuel outer e.2)) fun _ => True := by
      intro e
      refine keeps_bind (hpart outer e.1) fun _ _ => ?_
      exact keeps_bind (hpart outer e.2) fun _ _ => keeps_pure trivial
    rw [holding]
    refine keeps_bind (keeps_mapM hround) fun _ _ => ?_
    exact keeps_pure ⟨nofun, nofun⟩
  | dict entries =>
    have hround : ∀ e : Key × Part,
        Keeps a (do return (e.1.scalar, ← part fuel outer e.2)) fun _ => True := by
      intro e
      exact keeps_bind (hpart outer e.2) fun _ _ => keeps_pure trivial
    rw [holding]
    refine keeps_bind (keeps_mapM hround) fun _ _ => ?_
    exact keeps_pure ⟨fun _ => rfl, fun _ _ => rfl⟩

/-- By induction on the fuel, which parts and holdings share. -/
theorem keeps_unfolding (a : Assembly) (fuel : Nat) :
    (∀ outer p, Keeps a (part fuel outer p) (FitsPart a fuel outer p)) ∧
      ∀ outer h, Keeps a (holding fuel outer h) (FitsHolding fuel h) := by
  induction fuel with
  | zero => exact ⟨keeps_part_zero, keeps_holding_zero⟩
  | succ fuel ih => exact ⟨keeps_part_succ ih.2, keeps_holding_succ ih.1⟩

/-- A value is a dictionary as its part is, and so are the values in it, some levels down.  The
keys are those of the document. -/
def Mirrors (a : Assembly) : Nat → Part → Datum → Prop
  | 0, p, v => v.isDict = a.isDict p
  | levels + 1, p, v =>
    v.isDict = a.isDict p ∧
      ∀ i entries inner, a.entries? p = some (i, entries) → v = .dict inner →
        List.Forall₂ (fun e f => e.1.scalar = f.1 ∧ Mirrors a levels e.2 f.2) entries inner

theorem Mirrors.isDict_eq {levels : Nat} {p : Part} {v : Datum} (hv : Mirrors a levels p v) :
    v.isDict = a.isDict p := by
  cases levels with
  | zero => exact hv
  | succ levels => exact hv.1

theorem keeps_part_top {fuel : Nat} (hfuel : 2 ≤ fuel) (p : Part) :
    Keeps a (do return (← part fuel [] p).1) fun v => v.isDict = a.isDict p := by
  refine keeps_bind ((keeps_unfolding a fuel).1 [] p) fun r hr => keeps_pure ?_
  rw [Bool.eq_iff_iff]
  exact ⟨hr.sound, fun hpart => hr.complete hpart (Or.inr ⟨rfl, hfuel⟩)⟩

/-- A part that is no dictionary has no entries, so its value mirrors it at any level. -/
theorem mirrors_of_not_isDict {levels : Nat} {p : Part} {v : Datum} (hp : a.isDict p = false)
    (hv : v.isDict = a.isDict p) : Mirrors a levels p v := by
  cases levels with
  | zero => exact hv
  | succ levels =>
    refine ⟨hv, ?_⟩
    intro i entries inner hentries
    rw [Assembly.isDict, hentries] at hp
    cases hp

theorem keeps_layered {fuel : Nat} (hfuel : 2 ≤ fuel) (levels : Nat) (p : Part) :
    Keeps a (layered fuel levels p) (Mirrors a levels p) := by
  -- By induction on the levels; below the last one nothing is said of the values.
  induction levels generalizing p with
  | zero =>
    rw [layered]
    · exact keeps_part_top hfuel p
    · nofun
  | succ levels ih =>
    cases p with
    | scalar key =>
      rw [layered]
      · exact (keeps_part_top hfuel _).weaken fun v hv => mirrors_of_not_isDict rfl hv
      · nofun
    | collection i =>
      rw [layered]
      refine keeps_bind keeps_get fun u hu => ?_
      rw [hu.source]
      split
      · next entries hholding =>
        have hround : ∀ e : Key × Part,
            Keeps a (do return (e.1.scalar, ← layered fuel levels e.2)) fun f =>
              e.1.scalar = f.1 ∧ Mirrors a levels e.2 f.2 := by
          intro e
          exact keeps_bind (ih e.2) fun v hv => keeps_pure ⟨rfl, hv⟩
        refine keeps_bind (keeps_mapM hround) fun inner hinner => keeps_pure ⟨?_, ?_⟩
        · rw [isDict_collection, hholding]
          rfl
        · intro j entries' inner' hentries hv
          rw [Assembly.entries?, hholding] at hentries
          cases hentries
          cases hv
          exact hinner
      · next hholding =>
        refine (keeps_part_top hfuel _).weaken fun v hv => mirrors_of_not_isDict ?_ hv
        rw [isDict_collection]
        cases hcase : a.holding i with
        | dict entries => exact absurd hcase (hholding entries)
        | _ => rfl

end Unfolding

open Unfolding

theorem Assembly.mirrors_value (a : Assembly) : Mirrors a settingLevels a.root a.value := by
  have hstart : Faithful a ⟨a, Array.replicate a.holdings.size none⟩ := by
    refine ⟨rfl, fun i v hv => ?_⟩
    change (Array.replicate a.holdings.size none).getD i none = some v at hv
    rw [Array.getD_eq_getD_getElem?, Array.getElem?_replicate] at hv
    split at hv <;> cases hv
  have hfuel : 2 ≤ 2 * a.holdings.size + 2 := Nat.le_add_left 2 _
  exact (keeps_layered hfuel settingLevels a.root _ hstart).2

/-- A value that is a dictionary comes from one of its document. -/
theorem Assembly.entries_of_value {a : Assembly} {entries : List (Scalar × Datum)}
    (hvalue : a.value = .dict entries) :
    ∃ i es, a.entries? a.root = some (i, es) ∧
      List.Forall₂ (fun e f => e.1.scalar = f.1 ∧ Mirrors a 1 e.2 f.2) es entries := by
  have hmirrors := a.mirrors_value
  have hroot : a.isDict a.root = true := by
    rw [← hmirrors.isDict_eq, hvalue]
    rfl
  obtain ⟨⟨i, es⟩, hes⟩ := Option.isSome_iff_exists.1 hroot
  exact ⟨i, es, hes, hmirrors.2 i es entries hes hvalue⟩

/-- A section that is a dictionary comes from one of its document. -/
theorem entries_of_mirrors {a : Assembly} {p : Part} {inner : List (Scalar × Datum)}
    (hmirrors : Mirrors a 1 p (.dict inner)) :
    ∃ i es, a.entries? p = some (i, es) ∧
      List.Forall₂ (fun e f => e.1.scalar = f.1 ∧ f.2.isDict = a.isDict e.2) es inner := by
  have hp : a.isDict p = true := hmirrors.isDict_eq.symm
  obtain ⟨⟨i, es⟩, hes⟩ := Option.isSome_iff_exists.1 hp
  exact ⟨i, es, hes, hmirrors.2 i es inner hes rfl⟩

/-- Of two lists that go together, each item of the first has its own in the second. -/
theorem exists_of_forall₂ {α β : Type} {R : α → β → Prop} {xs : List α} {ys : List β}
    (hall : List.Forall₂ R xs ys) {x : α} (hx : x ∈ xs) : ∃ y ∈ ys, R x y := by
  induction hall with
  | nil => exact absurd hx List.not_mem_nil
  | cons hhead _ ih =>
    rcases List.mem_cons.1 hx with rfl | hrest
    · exact ⟨_, List.mem_cons_self, hhead⟩
    · obtain ⟨y, hy, hxy⟩ := ih hrest
      exact ⟨y, List.mem_cons_of_mem _ hy, hxy⟩

section Endless

/-- The sections of a value hold no dictionaries. -/
def IsFlat (v : Datum) : Prop :=
  ∀ entries, v = .dict entries → ∀ e ∈ entries, ∀ inner, e.2 = .dict inner →
    ∀ f ∈ inner, f.2.isDict = false

theorem isDict_of_isFlat {a : Assembly} (hflat : IsFlat a.value) {i j : NodeId}
    {sections settings : List (Key × Part)} {e f : Key × Part}
    (hroot : a.entries? a.root = some (i, sections)) (he : e ∈ sections)
    (hsection : a.entries? e.2 = some (j, settings)) (hf : f ∈ settings) :
    a.isDict f.2 = false := by
  have hmirrors := a.mirrors_value
  have hvalue : a.value.isDict = true := by
    rw [hmirrors.isDict_eq, Assembly.isDict, hroot]
    rfl
  cases hdict : a.value with
  | dict entries =>
    have hall := hmirrors.2 i sections entries hroot hdict
    obtain ⟨g, hg, _, hmirror⟩ := exists_of_forall₂ hall he
    have hgdict : g.2.isDict = true := by
      rw [hmirror.isDict_eq, Assembly.isDict, hsection]
      rfl
    cases hinner : g.2 with
    | dict inner =>
      have hsettings := hmirror.2 j settings inner hsection hinner
      obtain ⟨v, hv, _, hleaf⟩ := exists_of_forall₂ hsettings hf
      rw [← hleaf]
      exact hflat entries hdict g hg inner hinner v hv
    | _ =>
      rw [hinner] at hgdict
      cases hgdict
  | _ =>
    rw [hdict] at hvalue
    cases hvalue

theorem holding_of_entries? {a : Assembly} {p : Part} {i : NodeId} {entries : List (Key × Part)}
    (hentries : a.entries? p = some (i, entries)) :
    p = .collection i ∧ a.holding i = .dict entries := by
  cases p with
  | scalar key => cases hentries
  | collection j =>
    rw [Assembly.entries?] at hentries
    split at hentries
    · next entries' hholding =>
      cases hentries
      exact ⟨rfl, hholding⟩
    · cases hentries

/-- Only the collections of a document are dictionaries. -/
theorem size_pos_of_entries? {a : Assembly} {p : Part} {i : NodeId}
    {entries : List (Key × Part)} (hentries : a.entries? p = some (i, entries)) :
    0 < a.holdings.size := by
  obtain ⟨_, hholding⟩ := holding_of_entries? hentries
  by_contra hempty
  rw [Assembly.holding, Array.getD_eq_getD_getElem?, Array.getElem?_eq_none (by omega)] at hholding
  cases hholding

/-- A search through a list finds nothing where it finds nothing anywhere. -/
theorem anyM_eq_false {α : Type} {f : α → Search Bool} {items : List α}
    (hf : ∀ x ∈ items, ∀ s, ((f x).run s).1 = false) (s : List (NodeId × NodeId)) :
    ((items.anyM f).run s).1 = false := by
  induction items generalizing s with
  | nil => rfl
  | cons x rest ih =>
    have hrest := ih (fun y hy => hf y (List.mem_cons_of_mem _ hy)) ((f x).run s).2
    have hx := hf x List.mem_cons_self s
    rw [List.anyM_cons]
    change (((if ((f x).run s).1 then pure true else rest.anyM f : Search Bool)).run
      ((f x).run s).2).1 = false
    rw [hx]
    exact hrest

variable {lower upper : Assembly}

theorem mem_of_partsInBoth {below above : List (Key × Part)} {p q : Part}
    (hmem : (p, q) ∈ partsInBoth below above) :
    (∃ e ∈ below, e.2 = p) ∧ ∃ e ∈ above, e.2 = q := by
  obtain ⟨g, hg, hfound⟩ := List.mem_filterMap.1 hmem
  obtain ⟨e, he, hpair⟩ := Option.map_eq_some_iff.1 hfound
  obtain ⟨hp, hq⟩ := Prod.mk.inj hpair
  exact ⟨⟨e, List.mem_of_find?_eq_some he, hp⟩, g, hg, hq⟩

theorem entries?_of_not_isDict {a : Assembly} {p : Part} (hp : a.isDict p = false) :
    a.entries? p = none := by
  rw [← Option.not_isSome_iff_eq_none]
  exact Bool.not_eq_true _ ▸ hp

/-- Something that is no dictionary is simply replaced, and so is anything by it. -/
theorem comesBack_of_not_isDict {p q : Part} (hpq : lower.isDict p = false ∨ upper.isDict q = false)
    (fuel : Nat) (outer : List (NodeId × NodeId)) (s : List (NodeId × NodeId)) :
    ((lower.comesBack upper (fuel + 1) outer (p, q)).run s).1 = false := by
  rw [Assembly.comesBack]
  rcases hpq with hp | hq
  · rw [entries?_of_not_isDict hp]
    rfl
  · rw [entries?_of_not_isDict hq]
    cases lower.entries? p <;> rfl

/-- The dictionary around a section is none of its settings, which are no dictionaries. -/
theorem ne_of_isFlat {a : Assembly} (hflat : IsFlat a.value) {i j : NodeId}
    {sections settings : List (Key × Part)} {e : Key × Part}
    (hroot : a.entries? a.root = some (i, sections)) (he : e ∈ sections)
    (hsection : a.entries? e.2 = some (j, settings)) : j ≠ i := by
  rintro rfl
  obtain ⟨_, hholding⟩ := holding_of_entries? hsection
  obtain ⟨_, hholding'⟩ := holding_of_entries? hroot
  obtain rfl : settings = sections := Holding.dict.inj (hholding.symm.trans hholding')
  have hnone := isDict_of_isFlat hflat hroot he hsection he
  rw [Assembly.isDict, hsection] at hnone
  cases hnone

/-- Dictionaries that were not met before can be laid over each other when their parts can. -/
theorem comesBack_of_parts {p q : Part} {fuel : Nat} {outer : List (NodeId × NodeId)}
    (hnew : ∀ i j below above, lower.entries? p = some (i, below) →
      upper.entries? q = some (j, above) → (i, j) ∉ outer)
    (hparts : ∀ i j below above, lower.entries? p = some (i, below) →
      upper.entries? q = some (j, above) → ∀ pair ∈ partsInBoth below above,
      ∀ s, ((lower.comesBack upper fuel ((i, j) :: outer) pair).run s).1 = false)
    (s : List (NodeId × NodeId)) :
    ((lower.comesBack upper (fuel + 1) outer (p, q)).run s).1 = false := by
  rw [Assembly.comesBack]
  cases hlower : lower.entries? p with
  | none => rfl
  | some below =>
    cases hupper : upper.entries? q with
    | none => rfl
    | some above =>
      obtain ⟨i, below⟩ := below
      obtain ⟨j, above⟩ := above
      have hnot : outer.contains (i, j) = false := by
        rw [← Bool.not_eq_true, List.contains_iff_mem]
        exact hnew i j below above hlower hupper
      have hany := anyM_eq_false (hparts i j below above hlower hupper) s
      dsimp only
      rw [hnot, if_neg Bool.false_ne_true, StateT.run_bind, StateT.run_get, pure_bind]
      by_cases hseen : s.contains (i, j) = true
      · rw [if_pos hseen]
        rfl
      · rw [if_neg hseen, StateT.run_bind]
        rcases hrun : StateT.run ((partsInBoth below above).anyM _) s with ⟨found, s'⟩
        rw [hrun] at hany
        obtain rfl : found = false := hany
        rfl

/-- Where the sections of one of two files hold no dictionaries, it can be laid over the other, and
the other over it. -/
theorem isEndlessUnder_eq_false (hflat : IsFlat lower.value ∨ IsFlat upper.value) :
    lower.isEndlessUnder upper = false := by
  rw [Assembly.isEndlessUnder]
  refine comesBack_of_parts (fun _ _ _ _ _ _ => List.not_mem_nil) ?_ []
  rintro i j sections above hroot hupper ⟨p, q⟩ hsections s
  obtain ⟨⟨e, he, rfl⟩, f, hf, rfl⟩ := mem_of_partsInBoth hsections
  have hfuel : 1 ≤ lower.holdings.size * upper.holdings.size :=
    Nat.mul_pos (size_pos_of_entries? hroot) (size_pos_of_entries? hupper)
  refine comesBack_of_parts ?_ ?_ s
  · intro i' j' _ _ hbelow habove hmem
    obtain ⟨hi, hj⟩ := Prod.mk.inj (List.mem_singleton.1 hmem)
    rcases hflat with hlower | hhigher
    · exact ne_of_isFlat hlower hroot he hbelow hi
    · exact ne_of_isFlat hhigher hupper hf habove hj
  · rintro i' j' settings above' hbelow habove ⟨p, q⟩ hsettings s
    obtain ⟨⟨g, hg, rfl⟩, h, hh, rfl⟩ := mem_of_partsInBoth hsettings
    obtain ⟨fuel, hsucc⟩ := Nat.exists_eq_succ_of_ne_zero (Nat.one_le_iff_ne_zero.1 hfuel)
    rw [hsucc]
    refine comesBack_of_not_isDict ?_ _ _ _
    rcases hflat with hlower | hhigher
    · exact Or.inl (isDict_of_isFlat hlower hroot he hbelow hg)
    · exact Or.inr (isDict_of_isFlat hhigher hupper hf habove hh)

end Endless

end Yaml

end FindingLedger
