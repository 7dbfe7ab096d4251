/-
Where the elements of a tree stand.

The address of an element says which child to take, again and again, on the way down from the
root.  No two elements have one address, and the address of an element that stands inside of
another begins with the address of that one.
-/
import FindingLedger.Proofs.Xml.Subtree
import Mathlib.Data.List.Nodup

namespace FindingLedger

namespace Element

/-- The numbers of the children on the way down to an element. -/
abbrev Address := List Nat

def at? (e : Element) : Address → Option Element
  | [] => some e
  | i :: rest => e.children[i]?.bind fun child => child.at? rest

mutual

/-- An element and all elements inside of it with their addresses, each before what is inside of
it. -/
def addressed : Element → List (Address × Element)
  | node tag attributes text children =>
    ([], node tag attributes text children) :: addressedFrom 0 children

/-- The same for elements that stand in a row, the first of which has a number. -/
def addressedFrom (i : Nat) : List Element → List (Address × Element)
  | [] => []
  | e :: rest => (e.addressed.map fun p => (i :: p.1, p.2)) ++ addressedFrom (i + 1) rest

end

theorem addressed_eq (e : Element) : e.addressed = ([], e) :: addressedFrom 0 e.children := by
  cases e with
  | node tag attributes text children => rw [addressed]; rfl

theorem map_snd_addressedFrom {es : List Element}
    (hall : ∀ e ∈ es, e.addressed.map Prod.snd = e.subtree) (i : Nat) :
    (addressedFrom i es).map Prod.snd = es.flatMap subtree := by
  induction es generalizing i with
  | nil => rw [addressedFrom]; rfl
  | cons e rest ih =>
    obtain ⟨hfirst, hrest⟩ := List.forall_mem_cons.1 hall
    rw [addressedFrom, List.map_append, List.map_map, ih hrest, List.flatMap_cons, ← hfirst]
    rfl

/-- Without their addresses, the elements are listed in the order of the document. -/
theorem map_snd_addressed (e : Element) : e.addressed.map Prod.snd = e.subtree := by
  induction e using children_induction with
  | hstep e ih => rw [addressed_eq, List.map_cons, map_snd_addressedFrom ih, subtree_eq]

theorem mem_addressedFrom {es : List Element} {i : Nat} {p : Address × Element} :
    p ∈ addressedFrom i es ↔
      ∃ k child b, es[k]? = some child ∧ p.1 = (i + k) :: b ∧ (b, p.2) ∈ child.addressed := by
  induction es generalizing i with
  | nil =>
    rw [addressedFrom]
    constructor
    · exact fun hmem => absurd hmem List.not_mem_nil
    · rintro ⟨k, child, b, hchild, _⟩
      cases hchild
  | cons e rest ih =>
    rw [addressedFrom, List.mem_append, List.mem_map, ih]
    constructor
    · rintro (⟨q, hq, rfl⟩ | ⟨k, child, b, hchild, haddress, hmem⟩)
      · exact ⟨0, e, q.1, rfl, rfl, hq⟩
      · exact ⟨k + 1, child, b, hchild, by rw [haddress]; congr 1; omega, hmem⟩
    · rintro ⟨k, child, b, hchild, haddress, hmem⟩
      cases k with
      | zero =>
        cases hchild
        exact Or.inl ⟨(b, p.2), hmem, Prod.ext haddress.symm rfl⟩
      | succ k => exact Or.inr ⟨k, child, b, hchild, by rw [haddress]; congr 1; omega, hmem⟩

/-- An element is listed with the address at which it stands. -/
theorem mem_addressed {e d : Element} {a : Address} : (a, d) ∈ e.addressed ↔ e.at? a = some d := by
  induction e using children_induction generalizing a with
  | hstep e ih =>
    rw [addressed_eq, List.mem_cons, mem_addressedFrom]
    cases a with
    | nil =>
      rw [at?, Option.some.injEq]
      constructor
      · rintro (heq | ⟨_, _, _, _, haddress, _⟩)
        · exact (Prod.mk.inj heq).2.symm
        · cases haddress
      · rintro rfl
        exact Or.inl rfl
    | cons i rest =>
      rw [at?, Option.bind_eq_some_iff]
      constructor
      · rintro (heq | ⟨k, child, b, hchild, haddress, hmem⟩)
        · cases heq
        · obtain ⟨rfl, rfl⟩ := List.cons.inj haddress
          rw [Nat.zero_add]
          exact ⟨child, hchild, (ih child (List.mem_of_getElem? hchild)).1 hmem⟩
      · rintro ⟨child, hchild, hat⟩
        refine Or.inr ⟨i, child, rest, hchild, by rw [Nat.zero_add], ?_⟩
        exact (ih child (List.mem_of_getElem? hchild)).2 hat

theorem nodup_addressedFrom {es : List Element}
    (hall : ∀ e ∈ es, (e.addressed.map Prod.fst).Nodup) (i : Nat) :
    ((addressedFrom i es).map Prod.fst).Nodup := by
  induction es generalizing i with
  | nil => rw [addressedFrom]; exact List.nodup_nil
  | cons e rest ih =>
    obtain ⟨hfirst, hrest⟩ := List.forall_mem_cons.1 hall
    have hkeys : (e.addressed.map fun p => (i :: p.1, p.2)).map Prod.fst =
        (e.addressed.map Prod.fst).map (i :: ·) := by
      rw [List.map_map, List.map_map]
      rfl
    rw [addressedFrom, List.map_append, hkeys]
    refine List.Nodup.append (hfirst.map (List.cons_injective)) (ih hrest (i + 1)) ?_
    -- All addresses of the first element begin with its number, the others with later ones.
    intro a hleft hright
    obtain ⟨_, _, rfl⟩ := List.mem_map.1 hleft
    obtain ⟨p, hp, hstart⟩ := List.mem_map.1 hright
    obtain ⟨k, _, _, _, haddress, _⟩ := mem_addressedFrom.1 hp
    rw [hstart] at haddress
    have hnumber := (List.cons.inj haddress).1
    omega

theorem nodup_addressed (e : Element) : (e.addressed.map Prod.fst).Nodup := by
  induction e using children_induction with
  | hstep e ih =>
    rw [addressed_eq, List.map_cons, List.nodup_cons]
    refine ⟨fun hmem => ?_, nodup_addressedFrom ih 0⟩
    obtain ⟨p, hp, hroot⟩ := List.mem_map.1 hmem
    obtain ⟨_, _, _, _, haddress, _⟩ := mem_addressedFrom.1 hp
    cases hroot.symm.trans haddress

/-- Going down a way is going down its parts one after the other. -/
theorem at?_append (e : Element) (a b : Address) : e.at? (a ++ b) = (e.at? a).bind (·.at? b) := by
  induction a generalizing e with
  | nil => rfl
  | cons i rest ih =>
    rw [List.cons_append, at?, at?, Option.bind_assoc]
    congr 1
    exact funext ih

end Element

end FindingLedger
