/-
Written elements, read back.

An element without content is written as one tag, any other one between two.  The machine
that reads content takes one step for each tag, whatever follows, and adds the element
to the one that is open around it.
-/
import FindingLedger.Proofs.Xml.Tag
import FindingLedger.Xml.Content

namespace FindingLedger

namespace Xml

/-- Elements in writing, one behind the other. -/
inductive Written
  /-- Nothing. -/
  | none
  /-- An element without content, as one tag. -/
  | empty (tag : SpelledTag) (rest : Written)
  /-- An element with its content between two tags. -/
  | node (tag : SpelledTag) (inner rest : Written)

def SpelledTag.element (t : SpelledTag) (children : List Element) : Element :=
  .node (String.ofList t.name) (t.values.map fun a => (String.ofList a.1, String.ofList a.2)) ""
    children

/-- A start tag, perhaps an end tag too. -/
def SpelledTag.startTag (t : SpelledTag) (isEmpty : Bool) : List Char :=
  '<' :: (t.written ++ SpelledTag.closing isEmpty)

def SpelledTag.endTag (t : SpelledTag) : List Char := '<' :: '/' :: (t.name ++ ['>'])

namespace SpelledTag

variable (t : SpelledTag)

theorem length_startTag (isEmpty : Bool) :
    (t.startTag isEmpty).length = 1 + (t.written.length + (closing isEmpty).length) := by
  rw [startTag, List.length_cons, List.length_append, Nat.add_comm]

theorem spellingSize_le_written : spellingSize t.attributes ≤ t.written.length := by
  rw [written, List.length_append]
  exact Nat.le_trans (spellingSize_le _) (Nat.le_add_left _ _)

theorem length_attributes_le_written : t.attributes.length ≤ t.written.length := by
  rw [written, List.length_append]
  exact Nat.le_trans (length_le_length_writtenAttributes _) (Nat.le_add_left _ _)

theorem exists_startTag (isEmpty : Bool) (after : List Char) :
    ∃ first rest, isNameStart first = true ∧
      t.startTag isEmpty ++ after = '<' :: first :: rest ∧
      t.written ++ (closing isEmpty ++ after) = first :: rest := by
  obtain ⟨first, name, hname, hstart, _⟩ := exists_cons_of_isName t.isName_name
  refine ⟨first, name ++ (writtenAttributes t.attributes ++ (closing isEmpty ++ after)), hstart,
    ?_, ?_⟩
  · simp only [startTag, written, hname, List.cons_append, List.append_assoc]
  · simp only [written, hname, List.cons_append, List.append_assoc]

theorem length_endTag : t.endTag.length = 1 + (t.name.length + 2) := by
  simp only [endTag, List.length_cons, List.length_append, List.length_nil]
  omega

end SpelledTag

theorem Form.size_lt_steps (f : Form) : f.size < f.steps := by
  rw [steps, freeExpansion, expansionFactor]
  omega

namespace Written

def text : Written → List Char
  | none => []
  | empty tag rest => tag.startTag true ++ rest.text
  | node tag inner rest => tag.startTag false ++ (inner.text ++ (tag.endTag ++ rest.text))

def elements : Written → List Element
  | none => []
  | empty tag rest => tag.element [] :: rest.elements
  | node tag inner rest => tag.element inner.elements :: rest.elements

end Written

/-- A document in UTF-8 that declares no attributes. -/
structure Setting.IsPlain (s : Setting) : Prop where
  attributes_eq : s.declarations.attributes = []
  encoding_eq : s.form.encoding = .utf8

/-- The content between tags outside of entities, where no prefix is bound. -/
def Content.between (pos : Nat) (rest : List Char) (elements : List OpenElement)
    (tally : Tally) : Content :=
  ⟨pos, rest, 0, [], elements, elements.length, .initial, tally⟩

/-- An open element of a tag with the children that are closed, last first. -/
def SpelledTag.opened (t : SpelledTag) (children : List Element) : OpenElement :=
  ⟨t.name, t.name, t.values, [], children, .initial⟩

def OpenElement.withChildren (e : OpenElement) (children : List Element) : OpenElement :=
  { e with children := children.reverse ++ e.children }

theorem SpelledTag.withChildren_opened (t : SpelledTag) (children : List Element) :
    (t.opened []).withChildren children = t.opened children.reverse := by
  rw [OpenElement.withChildren, opened, List.append_nil]
  rfl

/-- Reading goes on from one content to another in some steps. -/
def Content.Reaches (s : Setting) (k : Nat) (c c' : Content) : Prop :=
  ∀ fuel, Content.run s (k + fuel) c = Content.run s fuel c'

namespace Content

variable {s : Setting}

theorem Reaches.trans {k k' : Nat} {c c' c'' : Content} (h : Reaches s k c c')
    (h' : Reaches s k' c' c'') : Reaches s (k + k') c c'' := fun fuel => by
  rw [Nat.add_assoc, h, h']

theorem Reaches.of_step {c c' : Content} (hstep : c.step s = .more c') : Reaches s 1 c c' :=
  fun fuel => by rw [Nat.add_comm, run, hstep]

/-- What stands between tags outside of entities is counted and skipped. -/
theorem moveTo_between (hs : s.IsPlain) (pos : Nat) (piece after : List Char)
    (elements : List OpenElement) {tally : Tally} {n : Nat} (hroom : tally.HasRoom n) :
    ∃ tally', tally'.HasRoom (piece.length + n) ∧ ∀ go,
      moveTo s (between pos (piece ++ after) elements tally) (pos + piece.length)
        (piece ++ after) go = go (between (pos + piece.length) after elements tally') := by
  refine ⟨_, hroom.add_append piece after, fun go => ?_⟩
  have horigin : origin s (between pos (piece ++ after) elements tally) = .document .utf8 := by
    rw [origin, if_pos (by rfl), hs.encoding_eq]
  have hcount : pos + piece.length - (between pos (piece ++ after) elements tally).pos =
      piece.length := Nat.add_sub_cancel_left _ _
  have htally : (between pos (piece ++ after) elements tally).tally = tally := rfl
  rw [moveTo, hcount, horigin, htally, (hroom.add_append piece after).exceeds_eq,
    if_neg Bool.false_ne_true, List.drop_append_of_le_length (Nat.le_refl _), List.drop_length,
    List.nil_append]
  rfl

theorem isShortCdataOpen_of_ne {c : Char} (hc : c ≠ '!') (rest : List Char) :
    isShortCdataOpen .utf8 (c :: rest) = false := by
  unfold isShortCdataOpen
  split
  · next heq => exact absurd (List.cons.inj heq).1 hc
  · rfl

/-- What a tag between tags does once it is scanned. -/
def enact (s : Setting) (c next : Content) : RawTag ⊕ List Char → Outcome
  | .inl tag => c.openTag s next tag
  | .inr name => c.closeTag next name

def markupOf : RawTag ⊕ List Char → Markup
  | .inl tag => .startTag tag
  | .inr name => .endTag name

theorem step_between (hs : s.IsPlain) {pos pos' : Nat} {first : Char} {rest rest' : List Char}
    (elements : List OpenElement) (tally : Tally) (tag : RawTag ⊕ List Char)
    (hfirst : first ≠ '!')
    (hscan : scanMarkup .utf8 (s.form.size + 1) (pos + 1) (first :: rest) =
      .found (markupOf tag) pos' rest') :
    step s (between pos ('<' :: first :: rest) elements tally) =
      moveTo s (between pos ('<' :: first :: rest) elements tally) pos' ('<' :: first :: rest)
        fun next => enact s (between pos ('<' :: first :: rest) elements tally) next tag := by
  have horigin : (origin s (between pos ('<' :: first :: rest) elements tally)).encoding =
      .utf8 := by
    rw [origin, if_pos (by rfl), hs.encoding_eq]
    rfl
  have hshort : ¬ isShortCdataOpen .utf8 ('<' :: first :: rest).tail = true := by
    rw [List.tail_cons, isShortCdataOpen_of_ne hfirst]
    exact Bool.false_ne_true
  have hscan' : scanMarkup .utf8 (s.form.size + 1)
      ((between pos ('<' :: first :: rest) elements tally).pos + 1) ('<' :: first :: rest).tail =
        .found (markupOf tag) pos' rest' := hscan
  change takeMarkup s (between pos ('<' :: first :: rest) elements tally) _ = _
  rw [takeMarkup, horigin, if_neg hshort, hscan']
  cases tag <;> rfl

/-- What reading the values of a start tag counts as. -/
def tagOrigin (isEmpty : Bool) : Origin :=
  if isEmpty then .counted (Origin.document .utf8).encoding else .document .utf8

theorem isDirect_tagOrigin (isEmpty : Bool) : (tagOrigin isEmpty).IsDirect := by
  cases isEmpty with
  | false => exact Or.inl rfl
  | true => exact Or.inr rfl

/-- Once it is scanned, a start tag opens its element or adds it. -/
theorem openTag_of_reads (hs : s.IsPlain) (t : SpelledTag) {raws : List RawAttribute}
    (hraws : List.Forall₂ RawAttribute.Reads raws t.attributes)
    (hsize : spellingSize t.attributes ≤ s.form.size) (isEmpty : Bool) (pos pos' : Nat)
    (rest after : List Char) (elements : List OpenElement) (tally : Tally) {moved : Tally}
    (hmoved : moved.HasRoom (spellingSize t.attributes)) :
    ∃ tally', tally'.HasRoom 0 ∧
      openTag s (between pos rest elements tally) (between pos' after elements moved)
          ⟨t.name, raws, isEmpty⟩ =
        if isEmpty then (between pos' after elements tally').add (t.element [])
        else .more (between pos' after (t.opened [] :: elements) tally') := by
  have horigin : origin s (between pos rest elements tally) = .document .utf8 := by
    rw [origin, if_pos (by rfl), hs.encoding_eq]
  obtain ⟨tally', hresolve, hleft⟩ := resolve_of_reads
    (v := ⟨s.declarations, tagOrigin isEmpty, [], s.form.steps⟩) (isDirect_tagOrigin isEmpty)
    hs.attributes_eq t hraws (Nat.lt_of_le_of_lt hsize s.form.size_lt_steps) (n := 0) hmoved isEmpty
  have hresolve' : RawTag.resolve ⟨s.declarations, tagOrigin isEmpty,
      (between pos rest elements tally).entities.map OpenEntity.name, s.form.steps⟩
      (between pos' after elements moved).tally (between pos rest elements tally).bindings
      ⟨t.name, raws, isEmpty⟩ = .ok ⟨t.name, t.values, .initial, tally'⟩ := hresolve
  refine ⟨tally', hleft, ?_⟩
  rw [openTag, horigin]
  dsimp only
  split
  · next fault hfault => cases hresolve'.symm.trans hfault
  · next found hfound =>
    cases hresolve'.symm.trans hfound
    cases isEmpty <;> rfl

/-- A start tag between tags is taken with the values that its attributes spell. -/
theorem step_startTag (hs : s.IsPlain) (t : SpelledTag) (isEmpty : Bool)
    (hsize : (t.startTag isEmpty).length ≤ s.form.size) (pos : Nat) (after : List Char)
    (elements : List OpenElement) {tally : Tally} (hroom : tally.HasRoom 0) :
    ∃ tally', tally'.HasRoom 0 ∧
      step s (between pos (t.startTag isEmpty ++ after) elements tally) =
        if isEmpty then
          (between (pos + (t.startTag isEmpty).length) after elements tally').add (t.element [])
        else .more (between (pos + (t.startTag isEmpty).length) after (t.opened [] :: elements)
          tally') := by
  obtain ⟨first, rest, hstart, htext, hbehind⟩ := t.exists_startTag isEmpty after
  have hlength := t.length_startTag isEmpty
  have hspelling := t.spellingSize_le_written
  have hcount := t.length_attributes_le_written
  obtain ⟨raws, hraws, hscan⟩ := scanMarkup_startTag t
    (show t.attributes.length < s.form.size + 1 by omega) (pos + 1) isEmpty after
  rw [hbehind, Nat.add_assoc, ← hlength] at hscan
  obtain ⟨moved, hmoved, hmove⟩ := moveTo_between hs pos (t.startTag isEmpty) after
    elements hroom
  have hstep := step_between hs elements tally (.inl ⟨t.name, raws, isEmpty⟩)
    (ne_of_isNameStart hstart (by decide)) hscan
  rw [← htext, hmove] at hstep
  obtain ⟨tally', hleft, hopen⟩ := openTag_of_reads hs t hraws (by omega) isEmpty pos
    (pos + (t.startTag isEmpty).length) (t.startTag isEmpty ++ after) after elements tally
    (hmoved.mono (by omega))
  exact ⟨tally', hleft, by rw [hstep, enact, hopen]⟩

theorem step_endTag (hs : s.IsPlain) (t : SpelledTag) (children : List Element) (pos : Nat)
    (after : List Char) (elements : List OpenElement) {tally : Tally} (hroom : tally.HasRoom 0) :
    ∃ tally', tally'.HasRoom 0 ∧
      step s (between pos (t.endTag ++ after) (t.opened children :: elements) tally) =
        (between (pos + t.endTag.length) after elements tally').add
          (t.element children.reverse) := by
  have htext : t.endTag ++ after = '<' :: '/' :: (t.name ++ '>' :: after) := by
    simp [SpelledTag.endTag]
  have hscan := scanMarkup_endTag t.isName_name (s.form.size + 1) (pos + 1) after
  rw [Nat.add_assoc, ← t.length_endTag] at hscan
  obtain ⟨moved, hmoved, hmove⟩ := moveTo_between hs pos t.endTag after
    (t.opened children :: elements) hroom
  have hstep := step_between hs (t.opened children :: elements) tally (.inr t.name)
    (by decide) hscan
  rw [← htext, hmove] at hstep
  refine ⟨moved, hmoved.mono (Nat.zero_le _), ?_⟩
  have hdepth : ((between pos (t.endTag ++ after) (t.opened children :: elements) tally).depth ==
      (between pos (t.endTag ++ after) (t.opened children :: elements) tally).level) = false :=
    rfl
  have hraw : ((t.opened children).rawName != t.name) = false := bne_self_eq_false t.name
  rw [hstep, enact, closeTag]
  change (if _ then _ else if ((t.opened children).rawName != t.name) = true then _ else _) = _
  rw [hdepth, hraw]
  rfl

theorem reaches_text (hs : s.IsPlain) (w : Written) (hsize : w.text.length ≤ s.form.size)
    (pos : Nat) (after : List Char) (e : OpenElement) (outer : List OpenElement) {tally : Tally}
    (hroom : tally.HasRoom 0) :
    ∃ k tally', k ≤ w.text.length ∧ tally'.HasRoom 0 ∧
      Reaches s k (between pos (w.text ++ after) (e :: outer) tally)
        (between (pos + w.text.length) after (e.withChildren w.elements :: outer) tally') := by
  induction w generalizing pos after e outer tally with
  | none => exact ⟨0, tally, Nat.le_refl 0, hroom, fun fuel => by rw [Nat.zero_add]; rfl⟩
  | empty tag rest ih =>
    rw [Written.text, List.length_append] at hsize
    obtain ⟨tally', hleft, hstep⟩ := step_startTag hs tag true (by omega) pos (rest.text ++ after)
      (e :: outer) hroom
    obtain ⟨k, tally'', hk, hleft', hrest⟩ := ih (by omega) (pos + (tag.startTag true).length) after
      (e.withChildren [tag.element []]) outer hleft
    refine ⟨1 + k, tally'', ?_, hleft', ?_⟩
    · rw [Written.text, List.length_append, tag.length_startTag]
      omega
    · have hpos : pos + (Written.empty tag rest).text.length =
          pos + (tag.startTag true).length + rest.text.length := by
        rw [Written.text, List.length_append, Nat.add_assoc]
      have hchildren : e.withChildren (Written.empty tag rest).elements =
          (e.withChildren [tag.element []]).withChildren rest.elements := by
        simp [OpenElement.withChildren, Written.elements]
      rw [hpos, hchildren, Written.text, List.append_assoc]
      exact (Reaches.of_step hstep).trans hrest
  | node tag inner rest ihinner ihrest =>
    rw [Written.text, List.length_append, List.length_append, List.length_append] at hsize
    -- The start tag, what is inside, the end tag and what follows are four runs in a row.
    obtain ⟨tally₁, hroom₁, hopen⟩ := step_startTag hs tag false (by omega) pos
      (inner.text ++ (tag.endTag ++ (rest.text ++ after))) (e :: outer) hroom
    obtain ⟨k, tally₂, hk, hroom₂, hinner⟩ := ihinner (by omega)
      (pos + (tag.startTag false).length) (tag.endTag ++ (rest.text ++ after)) (tag.opened [])
      (e :: outer) hroom₁
    obtain ⟨tally₃, hroom₃, hclose⟩ := step_endTag hs tag inner.elements.reverse
      (pos + (tag.startTag false).length + inner.text.length) (rest.text ++ after) (e :: outer)
      hroom₂
    rw [tag.withChildren_opened] at hinner
    rw [List.reverse_reverse] at hclose
    obtain ⟨k', tally₄, hk', hroom₄, hrest⟩ := ihrest (by omega)
      (pos + (tag.startTag false).length + inner.text.length + tag.endTag.length) after
      (e.withChildren [tag.element inner.elements]) outer hroom₃
    refine ⟨1 + k + 1 + k', tally₄, ?_, hroom₄, ?_⟩
    · rw [Written.text, List.length_append, List.length_append, List.length_append,
        tag.length_startTag, tag.length_endTag]
      omega
    · have hpos : pos + (Written.node tag inner rest).text.length =
          pos + (tag.startTag false).length + inner.text.length + tag.endTag.length +
            rest.text.length := by
        simp only [Written.text, List.length_append, Nat.add_assoc]
      have hchildren : e.withChildren (Written.node tag inner rest).elements =
          (e.withChildren [tag.element inner.elements]).withChildren rest.elements := by
        simp [OpenElement.withChildren, Written.elements]
      have htext : (Written.node tag inner rest).text ++ after =
          tag.startTag false ++ (inner.text ++ (tag.endTag ++ (rest.text ++ after))) := by
        simp only [Written.text, List.append_assoc]
      rw [hpos, hchildren, htext]
      exact (((Reaches.of_step hopen).trans hinner).trans (Reaches.of_step hclose)).trans hrest

end Content

theorem readRoot_node {s : Setting} (hs : s.IsPlain) (tag : SpelledTag) (inner : Written)
    (hsize : (Written.node tag inner .none).text.length ≤ s.form.size) (pos : Nat)
    {tally : Tally} (hroom : tally.HasRoom 0) :
    ∃ c : Content, c.rest = [] ∧
      readRoot s tally pos (Written.node tag inner .none).text =
        .ok (tag.element inner.elements, c) := by
  have htext : (Written.node tag inner .none).text =
      tag.startTag false ++ (inner.text ++ (tag.endTag ++ [])) := by
    simp only [Written.text]
  rw [htext, List.length_append, List.length_append, tag.length_startTag] at hsize
  obtain ⟨tally₁, hroom₁, hopen⟩ := Content.step_startTag hs tag false
    (by rw [tag.length_startTag]; omega) pos (inner.text ++ (tag.endTag ++ [])) [] hroom
  obtain ⟨k, tally₂, hk, hroom₂, hinner⟩ := Content.reaches_text hs inner (by omega)
    (pos + (tag.startTag false).length) (tag.endTag ++ []) (tag.opened []) [] hroom₁
  obtain ⟨tally₃, _, hclose⟩ := Content.step_endTag hs tag inner.elements.reverse
    (pos + (tag.startTag false).length + inner.text.length) [] [] hroom₂
  rw [tag.withChildren_opened] at hinner
  rw [List.reverse_reverse] at hclose
  have hsteps : s.form.steps = 1 + k + (s.form.steps - (1 + k) - 1 + 1) := by
    have := s.form.size_lt_steps
    omega
  have hreaches := ((Content.Reaches.of_step hopen).trans hinner)
    (s.form.steps - (1 + k) - 1 + 1)
  rw [← hsteps] at hreaches
  refine ⟨.between (pos + (tag.startTag false).length + inner.text.length + tag.endTag.length) []
    [] tally₃, rfl, ?_⟩
  rw [htext]
  change Content.run s s.form.steps (Content.between pos _ [] tally) = _
  rw [hreaches, Content.run, hclose]
  rfl

end Xml

end FindingLedger
