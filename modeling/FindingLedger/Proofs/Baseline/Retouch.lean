/-
What plays no role in a baseline document.

A tree is retouched when an element gets another namespace, other attributes than those that are
read, or another text, or when an element that is neither a file element nor an error element is
put around siblings, put in as a leaf, or taken away from around its children.  Main statement:
however often a tree is retouched, its document stays the same, and so does the reason for which
it is refused.
-/
import FindingLedger.Proofs.Baseline.Likeness

namespace FindingLedger

/-- Where the same is made of two lists, it is made of their items one by one. -/
theorem forall₂_of_map_eq {α β γ : Type} {f : α → γ} {g : β → γ} {xs : List α} {ys : List β}
    (hsame : xs.map f = ys.map g) : List.Forall₂ (fun x y => f x = g y) xs ys := by
  rwa [← List.forall₂_eq_eq_eq, List.forall₂_map_left_iff, List.forall₂_map_right_iff] at hsame

namespace Element

/-- The attributes that are read of an element with a local name. -/
def readAttributes (name : String) : List String :=
  if name = "file" then ["name"]
  else if name = "error" then ["line", "column", "source"]
  else []

/-- An element that is neither a file element nor an error element. -/
def IsWrapper (e : Element) : Prop := e.localName ≠ "file" ∧ e.localName ≠ "error"

instance (e : Element) : Decidable e.IsWrapper := inferInstanceAs (Decidable (_ ∧ _))

/-- One change of a tree in something that plays no role. -/
inductive Retouches : Element → Element → Prop
  /-- The namespace changes, comes or goes. -/
  | namespace_ {tag tag' text : String} {attributes : List (String × String)}
      {children : List Element} (isSameName : localPart tag'.toList = localPart tag.toList) :
      Retouches (node tag attributes text children) (node tag' attributes text children)
  /-- Attributes that are not read change, come or go. -/
  | attributes {tag text : String} {attributes attributes' : List (String × String)}
      {children : List Element}
      (isSameRead : ∀ name ∈ readAttributes (String.ofList (localPart tag.toList)),
        attributes'.lookup name = attributes.lookup name) :
      Retouches (node tag attributes text children) (node tag attributes' text children)
  /-- The text changes. -/
  | text {tag text text' : String} {attributes : List (String × String)}
      {children : List Element} :
      Retouches (node tag attributes text children) (node tag attributes text' children)
  /-- A wrapper comes around a run of siblings; around none it is a new leaf. -/
  | wraps {tag text : String} {attributes : List (String × String)}
      {before after : List Element} {wrapper : Element} (isWrapper : wrapper.IsWrapper) :
      Retouches (node tag attributes text (before ++ wrapper.children ++ after))
        (node tag attributes text (before ++ wrapper :: after))
  /-- A wrapper goes, and what was inside of it stays. -/
  | unwraps {tag text : String} {attributes : List (String × String)}
      {before after : List Element} {wrapper : Element} (isWrapper : wrapper.IsWrapper) :
      Retouches (node tag attributes text (before ++ wrapper :: after))
        (node tag attributes text (before ++ wrapper.children ++ after))
  /-- A wrapper comes around the root. -/
  | wrapsRoot {root wrapper : Element} (isWrapper : wrapper.IsWrapper)
      (isAround : wrapper.children = [root]) : Retouches root wrapper
  /-- A child changes. -/
  | inside {tag text : String} {attributes : List (String × String)}
      {before after : List Element} {child child' : Element} (isInside : Retouches child child') :
      Retouches (node tag attributes text (before ++ child :: after))
        (node tag attributes text (before ++ child' :: after))

/-- What is read of an error element, as it is written. -/
structure Mark where
  line : Option String
  column : Option String
  rule : String
deriving DecidableEq, Repr

/-- What is read of an error element. -/
def mark (e : Element) : Mark := ⟨e.attribute? "line", e.attribute? "column", e.ruleId⟩

/-- Whether the rule id of an error element names no rule set. -/
def Mark.isBare (m : Mark) : Bool := ':' ∉ m.rule.toList

/-- What is read of the error elements of a tree. -/
def marks (e : Element) : List Mark := (e.named "error").map mark

/-- What is read of the file elements of a tree: their names, and what is read of the error
elements below each. -/
def outline (e : Element) : List (String × List Mark) :=
  (e.named "file").map fun f => (f.fileName, f.marks)

theorem marks_eq (e : Element) :
    e.marks = (if e.localName == "error" then [e.mark] else []) ++ e.children.flatMap marks := by
  rw [marks, named_eq, List.map_append, List.map_flatMap]
  split <;> rfl

theorem outline_eq (e : Element) :
    e.outline =
      (if e.localName == "file" then [(e.fileName, e.marks)] else []) ++
        e.children.flatMap outline := by
  rw [outline, named_eq, List.map_append, List.map_flatMap]
  split <;> rfl

/-- The same is read of two trees. -/
structure ReadsLike (e e' : Element) : Prop where
  marks : e'.marks = e.marks
  outline : e'.outline = e.outline

variable {e e' root root' : Element}

/-- The same is read of two trees when it is read of their roots and below these. -/
theorem readsLike_of_parts (hname : e'.localName = e.localName)
    (hmark : e.localName = "error" → e'.mark = e.mark)
    (hfile : e.localName = "file" → e'.fileName = e.fileName)
    (hmarks : e'.children.flatMap marks = e.children.flatMap marks)
    (houtline : e'.children.flatMap outline = e.children.flatMap outline) : e.ReadsLike e' := by
  have hall : e'.marks = e.marks := by
    rw [marks_eq, marks_eq, hname, hmarks]
    by_cases herror : e.localName = "error"
    · rw [hmark herror]
    · rw [if_neg (by simpa using herror), if_neg (by simpa using herror)]
  constructor
  · exact hall
  · rw [outline_eq, outline_eq, hname, houtline, hall]
    by_cases hisFile : e.localName = "file"
    · rw [hfile hisFile]
    · rw [if_neg (by simpa using hisFile), if_neg (by simpa using hisFile)]

/-- Of a wrapper, what is read is what is read of its children. -/
theorem IsWrapper.marks_eq (hwrapper : e.IsWrapper) : e.marks = e.children.flatMap marks := by
  rw [Element.marks_eq, if_neg (by simpa using hwrapper.2), List.nil_append]

theorem IsWrapper.outline_eq (hwrapper : e.IsWrapper) :
    e.outline = e.children.flatMap outline := by
  rw [Element.outline_eq, if_neg (by simpa using hwrapper.1), List.nil_append]

/-- Attributes that are read alike give one mark to an error element, and one name to a file
element. -/
theorem mark_of_readAttributes {tag text : String} {attributes attributes' : List (String × String)}
    {children : List Element}
    (hread : ∀ name ∈ readAttributes "error", attributes'.lookup name = attributes.lookup name) :
    (node tag attributes' text children).mark = (node tag attributes text children).mark := by
  have hline := hread "line" (by decide)
  have hcolumn := hread "column" (by decide)
  have hsource := hread "source" (by decide)
  simp only [mark, ruleId, attribute?, Element.attributes, hline, hcolumn, hsource]

theorem fileName_of_readAttributes {tag text : String}
    {attributes attributes' : List (String × String)} {children : List Element}
    (hread : ∀ name ∈ readAttributes "file", attributes'.lookup name = attributes.lookup name) :
    (node tag attributes' text children).fileName =
      (node tag attributes text children).fileName := by
  have hname := hread "name" (by decide)
  simp only [fileName, attribute?, Element.attributes, hname]

/-- The same is read of a tree and of one that it is retouched to. -/
theorem Retouches.readsLike (hstep : Retouches e e') : e.ReadsLike e' := by
  induction hstep with
  | namespace_ isSameName =>
    refine readsLike_of_parts ?_ (fun _ => rfl) (fun _ => rfl) rfl rfl
    exact congrArg String.ofList isSameName
  | @attributes tag text attributes attributes' children isSameRead =>
    refine readsLike_of_parts rfl ?_ ?_ rfl rfl
    · intro herror
      rw [show String.ofList (localPart tag.toList) = "error" from herror] at isSameRead
      exact mark_of_readAttributes isSameRead
    · intro hfile
      rw [show String.ofList (localPart tag.toList) = "file" from hfile] at isSameRead
      exact fileName_of_readAttributes isSameRead
  | text => exact readsLike_of_parts rfl (fun _ => rfl) (fun _ => rfl) rfl rfl
  -- A wrapper has no part of its own in what is read below it.
  | wraps isWrapper =>
    refine readsLike_of_parts rfl (fun _ => rfl) (fun _ => rfl) ?_ ?_
    · simp [children, isWrapper.marks_eq]
    · simp [children, isWrapper.outline_eq]
  | unwraps isWrapper =>
    refine readsLike_of_parts rfl (fun _ => rfl) (fun _ => rfl) ?_ ?_
    · simp [children, isWrapper.marks_eq]
    · simp [children, isWrapper.outline_eq]
  | wrapsRoot isWrapper isAround =>
    constructor
    · rw [isWrapper.marks_eq, isAround, List.flatMap_singleton]
    · rw [isWrapper.outline_eq, isAround, List.flatMap_singleton]
  | inside _ ih =>
    refine readsLike_of_parts rfl (fun _ => rfl) (fun _ => rfl) ?_ ?_
    · simp [children, ih.marks]
    · simp [children, ih.outline]

/-- So it is after any number of changes. -/
theorem outline_of_retouches (hsteps : Relation.ReflTransGen Retouches root root') :
    root'.outline = root.outline := by
  induction hsteps with
  | refl => rfl
  | tail _ hstep ih => exact hstep.readsLike.outline.trans ih

end Element

namespace Baseline

namespace Document

variable {root root' : Element}

theorem bareCount_eq (e : Element) : e.bareCount = e.marks.countP Element.Mark.isBare := by
  rw [Element.marks, List.countP_map]
  rfl

/-- Error elements of which the same is read record alike. -/
theorem recordsLike_of_marks {es es' : List Element}
    (hmarks : es'.map Element.mark = es.map Element.mark) :
    List.Forall₂ Element.RecordsLike es es' := by
  refine (forall₂_of_map_eq hmarks.symm).imp fun e e' hsame => ?_
  constructor
  · exact (congrArg Element.Mark.line hsame).symm
  · exact (congrArg Element.Mark.column hsame).symm
  · exact congrArg RuleId.normalize (congrArg Element.Mark.rule hsame).symm

theorem filesLike_of_outline (houtline : root'.outline = root.outline) :
    List.Forall₂ Element.FilesLike (root.named "file") (root'.named "file") := by
  refine (forall₂_of_map_eq houtline.symm).imp fun f f' hsame => ?_
  obtain ⟨hname, hmarks⟩ := Prod.mk.inj hsame
  exact ⟨hname.symm, recordsLike_of_marks hmarks.symm⟩

/-- The number of ids without a rule set can be counted in the outline. -/
theorem legacy_of_ofElement {d : Document} (hread : ofElement root = .ok d) :
    d.legacy = (root.outline.map fun p => p.2.countP Element.Mark.isBare).sum := by
  obtain ⟨_, _, _, hlegacy⟩ := ofElement_eq_ok hread
  rw [hlegacy, Element.outline, List.map_map]
  congr 1
  exact List.map_congr_left fun f _ => bareCount_eq f

/-- Of trees that have one outline, the document is the same. -/
theorem ofElement_eq_of_outline (houtline : root'.outline = root.outline) :
    ofElement root' = ofElement root := by
  rcases map_eq_map_iff.1 (ofElement_like (filesLike_of_outline houtline)) with
    ⟨f, hf', hf⟩ | ⟨d', d, hd', hd, hfiles⟩
  · rw [hf, hf']
  · have hlegacy : d'.legacy = d.legacy := by
      rw [legacy_of_ofElement hd', legacy_of_ofElement hd, houtline]
    obtain ⟨files, legacy⟩ := d
    obtain ⟨files', legacy'⟩ := d'
    obtain rfl : files' = files := hfiles
    obtain rfl : legacy' = legacy := hlegacy
    rw [hd, hd']

/-- However a tree is retouched, it holds the same document, or is refused for the same
reason. -/
theorem ofElement_of_retouches (hsteps : Relation.ReflTransGen Element.Retouches root root') :
    ofElement root' = ofElement root :=
  ofElement_eq_of_outline (Element.outline_of_retouches hsteps)

def groupedError : Element :=
  .node "group" [] ""
    [.node "error" [("line", "1"), ("column", "2"), ("source", "rule-a")] "" []]

/-- A file element as the root, with a group inside of it. -/
def groupedRoot : Element := .node "file" [("name", "a.kt")] "" [groupedError]

/-- The same without the group, in a namespace, with one more attribute and a note as a leaf. -/
def regroupedRoot : Element :=
  .node "\x7burn:x\x7dfile" [("id", "7"), ("name", "a.kt")] ""
    [.node "error" [("line", "1"), ("column", "2"), ("source", "rule-a")] "" [],
     .node "note" [("name", "b.kt")] "Accepted." []]

theorem regroupedRoot_document :
    Relation.ReflTransGen Element.Retouches groupedRoot regroupedRoot ∧
      ofElement regroupedRoot =
        .ok ⟨[("a.kt", [⟨1, 2, .text "standard:rule-a", .text "", .inBaseline⟩])], 1⟩ := by
  have hgroup : Element.Retouches groupedRoot
      (.node "file" [("name", "a.kt")] "" groupedError.children) :=
    @Element.Retouches.unwraps "file" "" [("name", "a.kt")] [] [] groupedError (by decide)
  have hnote : Element.Retouches (.node "file" [("name", "a.kt")] "" groupedError.children)
      (.node "file" [("name", "a.kt")] "" regroupedRoot.children) :=
    @Element.Retouches.wraps "file" "" [("name", "a.kt")] groupedError.children []
      (.node "note" [("name", "b.kt")] "Accepted." []) (by decide)
  have hattribute : Element.Retouches (.node "file" [("name", "a.kt")] "" regroupedRoot.children)
      (.node "file" [("id", "7"), ("name", "a.kt")] "" regroupedRoot.children) :=
    .attributes (by decide)
  have hnamespace : Element.Retouches
      (.node "file" [("id", "7"), ("name", "a.kt")] "" regroupedRoot.children) regroupedRoot :=
    .namespace_ (by decide)
  have hsteps :=
    (((Relation.ReflTransGen.single hgroup).tail hnote).tail hattribute).tail hnamespace
  refine ⟨hsteps, ?_⟩
  rw [ofElement_of_retouches hsteps]
  rfl

end Document

end Baseline

end FindingLedger
