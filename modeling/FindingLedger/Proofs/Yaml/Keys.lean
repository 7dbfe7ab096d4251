/-
The keys of the dictionaries of a document.

Main statement: in a document that is put together, no two keys of a dictionary are the same.
Collections are filled one by one; everything that is done on the way to fill one leaves the
others as they are.
-/
import FindingLedger.Proofs.Outcome
import FindingLedger.Yaml.Value

namespace FindingLedger

namespace Yaml

/-- A dictionary no two keys of which are the same. -/
def AreApart (entries : List (Key × Part)) : Prop :=
  entries.Pairwise fun e f => e.1.sameAs f.1 = false

theorem mem_put {key : Key} {value : Part} {entries : List (Key × Part)} {e : Key × Part}
    (he : e ∈ Building.put key value entries) :
    (∃ f ∈ entries, e.1 = f.1) ∨ e.1 = key := by
  induction entries with
  | nil => exact Or.inr (congrArg Prod.fst (List.mem_singleton.1 he))
  | cons f rest ih =>
    obtain ⟨k, v⟩ := f
    rw [Building.put] at he
    split at he
    · rcases List.mem_cons.1 he with rfl | hrest
      · exact Or.inl ⟨_, List.mem_cons_self, rfl⟩
      · exact Or.inl ⟨e, List.mem_cons_of_mem _ hrest, rfl⟩
    · rcases List.mem_cons.1 he with rfl | hrest
      · exact Or.inl ⟨_, List.mem_cons_self, rfl⟩
      · rcases ih hrest with ⟨f, hf, hkey⟩ | hkey
        · exact Or.inl ⟨f, List.mem_cons_of_mem _ hf, hkey⟩
        · exact Or.inr hkey

theorem areApart_put {entries : List (Key × Part)} (hapart : AreApart entries) (key : Key)
    (value : Part) : AreApart (Building.put key value entries) := by
  induction entries with
  | nil => exact List.pairwise_singleton _ _
  | cons e rest ih =>
    obtain ⟨k, v⟩ := e
    rw [AreApart, List.pairwise_cons] at hapart
    rw [Building.put]
    by_cases hsame : k.sameAs key = true
    · rw [if_pos hsame]
      exact List.pairwise_cons.2 hapart
    · rw [if_neg hsame]
      refine List.pairwise_cons.2 ⟨?_, ih hapart.2⟩
      intro e he
      rcases mem_put he with ⟨f, hf, hkey⟩ | hkey
      · rw [hkey]
        exact hapart.1 f hf
      · rw [hkey]
        exact Bool.not_eq_true _ ▸ hsame

namespace Building

variable {α β : Type}

/-- A chain of steps goes through when its first step does and the rest does from there. -/
theorem run_bind_eq_ok {x : Building α} {f : α → Building β} {b : Builder} {r : β × Builder} :
    (x >>= f) b = .ok r ↔ ∃ a mid, x b = .ok (a, mid) ∧ f a mid = .ok r := by
  refine Iff.trans (b := ∃ p, x b = .ok p ∧ f p.1 p.2 = .ok r) bind_eq_ok ?_
  rw [Prod.exists]

/-- A step that leaves what collections hold as it is, and what holds of its result. -/
def Leaves (x : Building α) (P : α → Prop) : Prop :=
  ∀ b a b', x b = .ok (a, b') → b'.holdings = b.holdings ∧ P a

theorem leaves_pure {P : α → Prop} {a : α} (ha : P a) : Leaves (pure a) P := by
  rintro b a' b' ⟨⟩
  exact ⟨rfl, ha⟩

theorem leaves_throw {P : α → Prop} (e : Error) : Leaves (throw e) P :=
  nofun

theorem leaves_get : Leaves get fun _ => True := by
  rintro b a b' ⟨⟩
  exact ⟨rfl, trivial⟩

theorem leaves_modify {f : Builder → Builder} (hf : ∀ b, (f b).holdings = b.holdings) :
    Leaves (modify f) fun _ => True := by
  rintro b a b' ⟨⟩
  exact ⟨hf b, trivial⟩

theorem leaves_lift {x : Except Error α} : Leaves (liftM x) fun _ => True := by
  intro b a b' hx
  cases x with
  | error e => cases hx
  | ok v =>
    cases hx
    exact ⟨rfl, trivial⟩

theorem leaves_bind {P : α → Prop} {Q : β → Prop} {x : Building α} {f : α → Building β}
    (hx : Leaves x P) (hf : ∀ a, P a → Leaves (f a) Q) : Leaves (x >>= f) Q := by
  intro b c b' hrun
  obtain ⟨a, mid, hfirst, hrest⟩ := run_bind_eq_ok.1 hrun
  obtain ⟨hmid, ha⟩ := hx b a mid hfirst
  obtain ⟨hend, hc⟩ := hf a ha mid c b' hrest
  exact ⟨hend.trans hmid, hc⟩

theorem Leaves.weaken {P Q : α → Prop} {x : Building α} (hx : Leaves x P)
    (hPQ : ∀ a, P a → Q a) : Leaves x Q :=
  fun b a b' hrun => ⟨(hx b a b' hrun).1, hPQ a (hx b a b' hrun).2⟩

theorem leaves_mapM {x : α → Building β} {items : List α}
    (hx : ∀ a, Leaves (x a) fun _ => True) : Leaves (items.mapM x) fun _ => True := by
  induction items with
  | nil =>
    rw [List.mapM_nil]
    exact leaves_pure trivial
  | cons item rest ih =>
    rw [List.mapM_cons]
    refine leaves_bind (hx item) fun _ _ => leaves_bind ih fun _ _ => ?_
    exact leaves_pure trivial

theorem leaves_foldlM {P : β → Prop} {x : β → α → Building β} {items : List α} {start : β}
    (hstart : P start) (hx : ∀ done a, P done → Leaves (x done a) P) :
    Leaves (items.foldlM x start) P := by
  induction items generalizing start with
  | nil =>
    rw [List.foldlM_nil]
    exact leaves_pure hstart
  | cons item rest ih =>
    rw [List.foldlM_cons]
    exact leaves_bind (hx start item hstart) fun done hdone => ih hdone

theorem leaves_problem (context : Option (Activity × Option Mark)) (what : Problem) (i : NodeId)
    (P : α → Prop) : Leaves (problem context what i) P :=
  leaves_bind leaves_get fun _ _ => leaves_throw _

theorem leaves_textOf (fuel : Nat) (i : NodeId) : Leaves (textOf fuel i) fun _ => True := by
  induction fuel generalizing i with
  | zero => exact leaves_throw _
  | succ fuel ih =>
    rw [textOf]
    refine leaves_bind leaves_get fun b _ => ?_
    dsimp only
    split
    · exact leaves_pure trivial
    · split
      · exact ih _
      · exact leaves_problem _ _ _ _

theorem leaves_scalarOf (i : NodeId) : Leaves (scalarOf i) fun _ => True := by
  rw [scalarOf]
  refine leaves_bind leaves_get fun b _ => leaves_bind (leaves_textOf _ _) fun text _ => ?_
  dsimp only
  split
  · exact leaves_pure trivial
  · split
    · exact leaves_pure trivial
    · exact leaves_throw _
  · split
    · exact leaves_pure trivial
    · exact leaves_throw _
  · split
    · exact leaves_pure trivial
    · exact leaves_throw _
  · split
    · split
      · exact leaves_pure trivial
      · exact leaves_throw _
    · exact leaves_throw _
  · split
    · exact leaves_pure trivial
    · exact leaves_problem _ _ _ _
  · exact leaves_pure trivial

theorem leaves_settle (i : NodeId) (p : Part) : Leaves (settle i p) fun _ => True := by
  rintro b a b' ⟨⟩
  exact ⟨rfl, trivial⟩

theorem leaves_partOf (i : NodeId) : Leaves (partOf i) fun _ => True := by
  rw [partOf]
  refine leaves_bind leaves_get fun b _ => ?_
  split
  · exact leaves_pure trivial
  · split
    all_goals first
      | exact leaves_bind (leaves_modify fun _ => rfl) fun _ _ => leaves_settle _ _
      | exact leaves_problem _ _ _ _
      | exact leaves_bind (leaves_scalarOf _) fun _ _ => leaves_settle _ _

/-- The entries of a mapping are set one after the other. -/
theorem leaves_entriesOf (i : NodeId) : Leaves (entriesOf i) AreApart := by
  rw [entriesOf]
  refine leaves_bind leaves_get fun b _ => ?_
  split
  · refine leaves_bind leaves_get fun b _ => leaves_bind leaves_lift fun graph _ => ?_
    refine leaves_bind (leaves_modify fun _ => rfl) fun _ _ => ?_
    apply leaves_foldlM List.Pairwise.nil
    rintro done ⟨k, v⟩ hdone
    refine leaves_bind (leaves_partOf k) fun p _ => ?_
    split
    · exact leaves_problem _ _ _ _
    · refine leaves_bind (leaves_partOf v) fun q _ => ?_
      exact leaves_pure (areApart_put hdone _ _)
  · exact leaves_problem _ _ _ _

theorem leaves_pairsOf (activity : Activity) (i : NodeId) :
    Leaves (pairsOf activity i) fun _ => True := by
  rw [pairsOf]
  refine leaves_bind leaves_get fun b _ => leaves_bind leaves_get fun b' _ => ?_
  split
  · apply leaves_mapM
    intro item
    refine leaves_bind leaves_get fun b _ => ?_
    split
    · refine leaves_bind (leaves_partOf _) fun _ _ => leaves_bind (leaves_partOf _) fun _ _ => ?_
      exact leaves_pure trivial
    · exact leaves_problem _ _ _ _
    · exact leaves_problem _ _ _ _
  · exact leaves_problem _ _ _ _

/-- A holding that is no dictionary, or one no two keys of which are the same. -/
def IsKeyed : Holding → Prop
  | .dict entries => AreApart entries
  | _ => True

theorem leaves_holdingOf (i : NodeId) : Leaves (holdingOf i) IsKeyed := by
  rw [holdingOf]
  refine leaves_bind leaves_get fun b _ => ?_
  dsimp only
  split
  · exact leaves_bind (leaves_entriesOf i) fun _ _ => leaves_pure trivial
  · exact leaves_bind (leaves_entriesOf i) fun _ hapart => leaves_pure hapart
  · exact leaves_bind (leaves_pairsOf _ i) fun _ _ => leaves_pure trivial
  · exact leaves_bind (leaves_pairsOf _ i) fun _ _ => leaves_pure trivial
  · split
    · exact leaves_bind (leaves_mapM leaves_partOf) fun _ _ => leaves_pure trivial
    · exact leaves_problem _ _ _ _

/-- A builder all whose dictionaries have keys that are apart. -/
def AreKeyed (b : Builder) : Prop :=
  ∀ i, IsKeyed (b.holdings.getD i (.list []))

theorem areKeyed_fill {i : NodeId} {b b' : Builder} (hb : AreKeyed b)
    (hfill : fill i b = .ok ((), b')) : AreKeyed b' := by
  obtain ⟨h, mid, hholding, hset⟩ := run_bind_eq_ok.1 hfill
  obtain ⟨hsame, hkeyed⟩ := leaves_holdingOf i b h mid hholding
  cases hset
  intro j
  change IsKeyed ((mid.holdings.setIfInBounds i h).getD j (.list []))
  rw [Array.getD_eq_getD_getElem?, Array.getElem?_setIfInBounds]
  split
  · split
    · exact hkeyed
    · exact trivial
  · rw [← Array.getD_eq_getD_getElem?, hsame]
    exact hb j

/-- Collections that are filled in turn. -/
theorem areKeyed_forM_fill {waiting : List NodeId} {b b' : Builder} (hb : AreKeyed b)
    (hfill : waiting.forM fill b = .ok ((), b')) : AreKeyed b' := by
  induction waiting generalizing b with
  | nil =>
    cases hfill
    exact hb
  | cons i rest ih =>
    obtain ⟨⟨⟩, mid, hfirst, hrest⟩ := run_bind_eq_ok.1 hfill
    exact ih (areKeyed_fill hb hfirst) hrest

theorem areKeyed_fillAll {fuel : Nat} {b b' : Builder} (hb : AreKeyed b)
    (hfill : fillAll fuel b = .ok ((), b')) : AreKeyed b' := by
  induction fuel generalizing b with
  | zero =>
    cases hfill
    exact hb
  | succ fuel ih =>
    rw [fillAll] at hfill
    obtain ⟨_, _, hget, hfill⟩ := run_bind_eq_ok.1 hfill
    cases hget
    split at hfill
    · cases hfill
      exact hb
    · obtain ⟨⟨⟩, mid, hempty, hfill⟩ := run_bind_eq_ok.1 hfill
      cases hempty
      obtain ⟨⟨⟩, filled, hforM, hrest⟩ := run_bind_eq_ok.1 hfill
      refine ih (areKeyed_forM_fill ?_ hforM) hrest
      exact hb

end Building

/-- A value in whose dictionaries no two keys are the same. -/
def Assembly.IsKeyed (a : Assembly) : Prop :=
  ∀ i, Building.IsKeyed (a.holding i)

theorem isKeyed_build {d : Document} {a : Assembly} (hbuild : d.build = .ok a) : a.IsKeyed := by
  obtain ⟨⟨root, b⟩, hroot, hbuild⟩ := bind_eq_ok.1 hbuild
  obtain ⟨⟨⟨⟩, b'⟩, hfill, hdone⟩ := bind_eq_ok.1 hbuild
  cases hdone
  have hsame := (Building.leaves_partOf _ _ _ _ hroot).1
  intro i
  refine Building.areKeyed_fillAll ?_ hfill i
  intro j
  -- Before anything is filled, every collection is an empty list.
  rw [hsame, Array.getD_eq_getD_getElem?, Array.getElem?_replicate]
  split <;> exact trivial

/-- No two keys of a dictionary in a text are the same. -/
theorem isKeyed_read? {s : Source} {a : Assembly} (hread : read? s = .ok (some a)) :
    a.IsKeyed := by
  obtain ⟨d?, _, hread⟩ := bind_eq_ok.1 hread
  cases d? with
  | none => cases hread
  | some d =>
    dsimp only at hread
    cases hbuild : d.build with
    | error e =>
      rw [hbuild] at hread
      cases hread
    | ok a' =>
      rw [hbuild] at hread
      cases hread
      exact isKeyed_build hbuild

end Yaml

end FindingLedger
