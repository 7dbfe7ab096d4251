/-
What stands inside of an element, in the order of the document.

The elements of a tree are listed by their start tags, so an element comes before all
that is inside of it.  An element is listed exactly when a chain of children leads to it.
-/
import FindingLedger.Xml.Element
import Mathlib.Logic.Relation

namespace FindingLedger

namespace Element

/-- One element stands directly inside of another. -/
def IsChild (parent child : Element) : Prop := child ∈ parent.children

/-- One element is another or stands inside of it, at any depth. -/
def Holds (outer inner : Element) : Prop := Relation.ReflTransGen IsChild outer inner

theorem subtreeAnd_eq (e : Element) (more : List Element) :
    e.subtreeAnd more = e.subtree ++ more := by
  have happ := subtreeAnd_append e [] more
  rwa [List.nil_append] at happ

theorem subtreesAnd_eq (es : List Element) (more : List Element) :
    subtreesAnd es more = es.flatMap subtree ++ more := by
  induction es with
  | nil => rw [subtreesAnd]; rfl
  | cons e rest ih =>
    rw [subtreesAnd, subtreeAnd_eq, ih, List.flatMap_cons, List.append_assoc]

/-- An element comes first, and then what its children hold, child by child. -/
theorem subtree_node (tag : String) (attributes : List (String × String)) (text : String)
    (children : List Element) :
    (node tag attributes text children).subtree =
      node tag attributes text children :: children.flatMap subtree := by
  rw [subtree, subtreeAnd, subtreesAnd_eq, List.append_nil]

theorem subtree_eq (e : Element) : e.subtree = e :: e.children.flatMap subtree := by
  cases e with
  | node tag attributes text children => exact subtree_node tag attributes text children

/-- Of the elements with a local name, an element that has it comes first, and then come those
below each child. -/
theorem named_eq (name : String) (e : Element) :
    e.named name =
      (if e.localName == name then [e] else []) ++ e.children.flatMap (named name) := by
  rw [named, subtree_eq, List.filter_cons, List.filter_flatMap]
  split <;> rfl

theorem self_mem_subtree (e : Element) : e ∈ e.subtree := by
  rw [subtree_eq]
  exact List.mem_cons_self

theorem mem_subtree_of_child {e child d : Element} (hchild : e.IsChild child)
    (hmem : d ∈ child.subtree) : d ∈ e.subtree := by
  rw [subtree_eq]
  exact List.mem_cons_of_mem e (List.mem_flatMap.2 ⟨child, hchild, hmem⟩)

/-- What is true of an element whenever it is true of its children is true of all
elements. -/
theorem children_induction {P : Element → Prop}
    (hstep : ∀ e : Element, (∀ child ∈ e.children, P child) → P e) (e : Element) : P e :=
  @Element.rec P (fun es => ∀ e ∈ es, P e)
    (fun tag attributes text children ih => hstep (node tag attributes text children) ih)
    (fun _ hnil => absurd hnil List.not_mem_nil)
    (fun _ _ hfirst hrest => List.forall_mem_cons.2 ⟨hfirst, hrest⟩) e

theorem mem_subtree_iff {e d : Element} : d ∈ e.subtree ↔ e.Holds d := by
  constructor
  · induction e using children_induction with
    | hstep e ih =>
      intro hmem
      rw [subtree_eq] at hmem
      rcases List.mem_cons.1 hmem with rfl | hmem
      · exact Relation.ReflTransGen.refl
      · obtain ⟨child, hchild, hd⟩ := List.mem_flatMap.1 hmem
        exact Relation.ReflTransGen.head hchild (ih child hchild hd)
  · intro hholds
    induction hholds using Relation.ReflTransGen.head_induction_on with
    | refl => exact self_mem_subtree d
    | head hchild _ ih => exact mem_subtree_of_child hchild ih

end Element

end FindingLedger
