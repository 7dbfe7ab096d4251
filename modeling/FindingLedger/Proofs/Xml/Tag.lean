/-
Written tags, scanned and resolved.

A tag is written as its name and its attributes, each behind one blank.  Scanning gives
the names and the spellings back, resolving gives the values.
-/
import FindingLedger.Proofs.Xml.Value
import Mathlib.Algebra.GroupWithZero.Nat
import Mathlib.Data.List.Nodup

namespace FindingLedger

namespace Xml

/-- An attribute with a spelling of its value. -/
structure SpelledAttribute where
  name : List Char
  value : List Char
  spelling : List Char
  isName_name : isName name = true
  name_ne : name ≠ "xmlns".toList
  spells : Spells value spelling

/-- An attribute as it is written behind a blank. -/
def SpelledAttribute.written (a : SpelledAttribute) : List Char :=
  a.name ++ '=' :: '"' :: (a.spelling ++ ['"'])

/-- A tag with spelled attributes of different names. -/
structure SpelledTag where
  name : List Char
  attributes : List SpelledAttribute
  isName_name : isName name = true
  nodup : (attributes.map SpelledAttribute.name).Nodup

namespace SpelledTag

/-- Attributes as they are written behind the name of a tag. -/
def writtenAttributes : List SpelledAttribute → List Char
  | [] => []
  | a :: rest => ' ' :: (a.written ++ writtenAttributes rest)

/-- A tag as it is written between its bracket and its end. -/
def written (t : SpelledTag) : List Char := t.name ++ writtenAttributes t.attributes

/-- The names and values of the attributes. -/
def values (t : SpelledTag) : List (List Char × List Char) :=
  t.attributes.map fun a => (a.name, a.value)

/-- The end of a start tag, which may be an end tag too. -/
def closing : Bool → List Char
  | true => ['/', '>']
  | false => ['>']

end SpelledTag

/-- A scanned attribute has the name and the spelling of a written one. -/
def RawAttribute.Reads (r : RawAttribute) (a : SpelledAttribute) : Prop :=
  r.name = a.name ∧ r.value = a.spelling

theorem scanSpace_cons {c : Char} (hc : isSpace c = false) (pos : Nat) (rest : List Char) :
    scanSpace pos (c :: rest) = .found () pos (c :: rest) := by
  have hneg : ¬ isSpace c = true := by rw [hc]; exact Bool.false_ne_true
  rw [scanSpace, List.dropWhile_cons_of_neg hneg, List.takeWhile_cons_of_neg hneg]
  rfl

theorem isSpace_of_isNameStart {c : Char} (hc : isNameStart c = true) : isSpace c = false := by
  simp [isSpace, ne_of_isNameStart hc (d := ' ') (by decide),
    ne_of_isNameStart hc (d := '\t') (by decide), ne_of_isNameStart hc (d := '\n') (by decide),
    ne_of_isNameStart hc (d := '\r') (by decide)]

theorem scanAttribute_append (a : SpelledAttribute) (pos : Nat) (rest : List Char) :
    ∃ r : RawAttribute, r.Reads a ∧
      scanAttribute .utf8 pos (a.written ++ rest) =
        .found r (pos + a.written.length) rest := by
  have hname := scanQualified_append a.isName_name (show endsName '=' = true by decide) pos
    ('"' :: (a.spelling ++ '"' :: rest))
  have hvalue := scanValue_of_spells a.spells (pos + a.name.length + 1 + 1) [] rest
  refine ⟨⟨pos, a.name, pos + a.name.length + 1 + 1, a.spelling⟩, ⟨rfl, rfl⟩, ?_⟩
  have hwritten : a.written ++ rest = a.name ++ '=' :: '"' :: (a.spelling ++ '"' :: rest) := by
    simp [SpelledAttribute.written]
  have hlength : a.written.length = a.name.length + a.spelling.length + 3 := by
    simp only [SpelledAttribute.written, List.length_append, List.length_cons, List.length_nil]
    omega
  rw [hwritten, scanAttribute, hname, andThen_found, scanSpace_cons (by decide), andThen_found]
  change (scanSpace (pos + a.name.length + 1) ('"' :: (a.spelling ++ '"' :: rest))).andThen _ = _
  rw [scanSpace_cons (by decide), andThen_found]
  dsimp only
  rw [if_pos (by decide), hvalue, Scan.map, andThen_found, hlength]
  congr 1
  omega

theorem scanAttributes_closing (name : List Char) (fuel pos : Nat) (done : List RawAttribute)
    (isEmpty : Bool) (rest : List Char) :
    scanAttributes .utf8 name (fuel + 1) pos done (SpelledTag.closing isEmpty ++ rest) =
      .found ⟨name, done.reverse, isEmpty⟩ (pos + (SpelledTag.closing isEmpty).length) rest := by
  cases isEmpty <;> rfl

theorem scanAttributes_append (name : List Char) {attributes : List SpelledAttribute}
    {fuel : Nat} (hfuel : attributes.length < fuel) (pos : Nat) (done : List RawAttribute)
    (isEmpty : Bool) (rest : List Char) :
    ∃ raws : List RawAttribute, List.Forall₂ RawAttribute.Reads raws attributes ∧
      scanAttributes .utf8 name fuel pos done
          (SpelledTag.writtenAttributes attributes ++ (SpelledTag.closing isEmpty ++ rest)) =
        .found ⟨name, done.reverse ++ raws, isEmpty⟩
          (pos + ((SpelledTag.writtenAttributes attributes).length +
            (SpelledTag.closing isEmpty).length)) rest := by
  induction attributes generalizing fuel pos done with
  | nil =>
    cases fuel with
    | zero => exact absurd hfuel (Nat.not_lt_zero _)
    | succ fuel =>
      refine ⟨[], .nil, ?_⟩
      rw [SpelledTag.writtenAttributes, List.nil_append, scanAttributes_closing, List.append_nil,
        List.length_nil, Nat.zero_add]
  | cons a more ih =>
    rw [List.length_cons] at hfuel
    cases fuel with
    | zero => exact absurd hfuel (Nat.not_lt_zero _)
    | succ fuel =>
      obtain ⟨r, hreads, hscan⟩ := scanAttribute_append a (pos + 1)
        (SpelledTag.writtenAttributes more ++ (SpelledTag.closing isEmpty ++ rest))
      obtain ⟨raws, hraws, hmore⟩ := ih (show more.length < fuel by omega)
        (pos + 1 + a.written.length) (r :: done)
      refine ⟨r :: raws, .cons hreads hraws, ?_⟩
      obtain ⟨c, after, hname, hstart, _⟩ := exists_cons_of_isName a.isName_name
      have hspace := isSpace_of_isNameStart hstart
      have hclose : (c == '>') = false :=
        beq_eq_false_iff_ne.2 (ne_of_isNameStart hstart (by decide))
      have hslash : (c == '/') = false :=
        beq_eq_false_iff_ne.2 (ne_of_isNameStart hstart (by decide))
      -- An attribute starts with its name, so the tag is not closed here.
      have hhead : ∃ tail, a.written ++ (SpelledTag.writtenAttributes more ++
          (SpelledTag.closing isEmpty ++ rest)) = c :: tail := by
        rw [SpelledAttribute.written, hname]
        exact ⟨_, rfl⟩
      obtain ⟨tail, htail⟩ := hhead
      rw [SpelledTag.writtenAttributes, List.cons_append, List.append_assoc]
      change (if isSpace ' ' = true then _ else _) = _
      rw [if_pos (by decide)]
      rw [htail, scanSpace_cons hspace, andThen_found,
        if_neg (by simp [hclose, hslash]), ← htail, hscan, andThen_found, hmore,
        List.reverse_cons, List.append_assoc, List.length_cons, List.length_append]
      congr 1
      omega

/-- The number of characters of the spellings of attributes. -/
def spellingSize (attributes : List SpelledAttribute) : Nat :=
  (attributes.map fun a => a.spelling.length).sum

theorem spellingSize_le (attributes : List SpelledAttribute) :
    spellingSize attributes ≤ (SpelledTag.writtenAttributes attributes).length := by
  induction attributes with
  | nil => exact Nat.le_refl 0
  | cons a rest ih =>
    have ha : a.spelling.length ≤ a.written.length := by
      simp only [SpelledAttribute.written, List.length_append, List.length_cons]
      omega
    rw [SpelledTag.writtenAttributes, List.length_cons, List.length_append, spellingSize,
      List.map_cons, List.sum_cons]
    exact Nat.le_succ_of_le (Nat.add_le_add ha ih)

theorem length_le_length_writtenAttributes (attributes : List SpelledAttribute) :
    attributes.length ≤ (SpelledTag.writtenAttributes attributes).length := by
  induction attributes with
  | nil => exact Nat.le_refl 0
  | cons a rest ih =>
    rw [SpelledTag.writtenAttributes, List.length_cons, List.length_cons, List.length_append]
    omega

theorem exists_endsName (attributes : List SpelledAttribute) (isEmpty : Bool)
    (rest : List Char) :
    ∃ c more, SpelledTag.writtenAttributes attributes ++ (SpelledTag.closing isEmpty ++ rest) =
      c :: more ∧ endsName c = true := by
  cases attributes with
  | nil =>
    cases isEmpty with
    | false => exact ⟨'>', _, rfl, by decide⟩
    | true => exact ⟨'/', _, rfl, by decide⟩
  | cons a more => exact ⟨' ', _, rfl, by decide⟩

theorem scanTag_append (t : SpelledTag) {fuel : Nat} (hfuel : t.attributes.length < fuel)
    (pos : Nat) (isEmpty : Bool) (rest : List Char) :
    ∃ raws : List RawAttribute, List.Forall₂ RawAttribute.Reads raws t.attributes ∧
      scanTag .utf8 fuel pos (t.written ++ (SpelledTag.closing isEmpty ++ rest)) =
        .found ⟨t.name, raws, isEmpty⟩
          (pos + (t.written.length + (SpelledTag.closing isEmpty).length)) rest := by
  obtain ⟨raws, hraws, hscan⟩ := scanAttributes_append t.name hfuel (pos + t.name.length) []
    isEmpty rest
  obtain ⟨c, more, hmore, hend⟩ := exists_endsName t.attributes isEmpty rest
  refine ⟨raws, hraws, ?_⟩
  rw [SpelledTag.written, List.append_assoc, scanTag, hmore,
    scanQualified_append t.isName_name hend, andThen_found, ← hmore, hscan, List.length_append]
  congr 1
  omega

theorem scanMarkup_startTag (t : SpelledTag) {fuel : Nat} (hfuel : t.attributes.length < fuel)
    (pos : Nat) (isEmpty : Bool) (rest : List Char) :
    ∃ raws : List RawAttribute, List.Forall₂ RawAttribute.Reads raws t.attributes ∧
      scanMarkup .utf8 fuel pos (t.written ++ (SpelledTag.closing isEmpty ++ rest)) =
        .found (.startTag ⟨t.name, raws, isEmpty⟩)
          (pos + (t.written.length + (SpelledTag.closing isEmpty).length)) rest := by
  obtain ⟨raws, hraws, hscan⟩ := scanTag_append t hfuel pos isEmpty rest
  obtain ⟨c, after, hname, hstart, _⟩ := exists_cons_of_isName t.isName_name
  have hne : ∀ {d more}, isNameStart d = false →
      t.written ++ (SpelledTag.closing isEmpty ++ rest) ≠ d :: more := by
    intro d more hd heq
    rw [SpelledTag.written, hname] at heq
    exact ne_of_isNameStart hstart hd (List.cons.inj heq).1
  refine ⟨raws, hraws, ?_⟩
  unfold scanMarkup
  split
  · next heq =>
    rw [SpelledTag.written, hname] at heq
    cases heq
  · next heq => exact absurd heq (hne (by decide))
  · next heq => exact absurd heq (hne (by decide))
  · next heq => exact absurd heq (hne (by decide))
  · rw [hscan]
    rfl

theorem scanMarkup_endTag {name : List Char} (hname : isName name = true) (fuel pos : Nat)
    (rest : List Char) :
    scanMarkup .utf8 fuel pos ('/' :: (name ++ '>' :: rest)) =
      .found (.endTag name) (pos + (name.length + 2)) rest := by
  have hscan := scanName_append hname (show endsName '>' = true by decide) (pos + 1) rest
  have hpart : (Encoding.utf8.isNameChar '>' || '>' == ':') = false := by decide
  rw [scanMarkup, scanEndTag, hscan, andThen_found]
  dsimp only
  rw [List.takeWhile_cons_of_neg (by rw [hpart]; exact Bool.false_ne_true),
    List.dropWhile_cons_of_neg (by rw [hpart]; exact Bool.false_ne_true),
    unlessCut_cons (by decide), scanSpace_cons (by decide), andThen_found]
  change Scan.found (Markup.endTag (name ++ [])) (pos + 1 + name.length + 0 + 1) rest = _
  rw [List.append_nil]
  congr 1
  omega

theorem takeNamed_of_reads {v : ValueSetting} (hv : v.origin.IsDirect) {n : Nat}
    {raws : List RawAttribute} {attributes : List SpelledAttribute}
    (hreads : List.Forall₂ RawAttribute.Reads raws attributes)
    (hsteps : spellingSize attributes < v.steps)
    (hnodup : (attributes.map SpelledAttribute.name).Nodup) (t : TagReader)
    (hseen : ∀ a ∈ attributes, a.name ∉ t.seen)
    (hroom : t.tally.HasRoom (spellingSize attributes + n)) :
    ∃ t', TagReader.takeNamed v [] t raws = .ok t' ∧
      t'.attributes = (attributes.map fun a => (a.name, a.value)).reverse ++ t.attributes ∧
      t'.bindings = t.bindings ∧ t'.tally.HasRoom n := by
  induction hreads generalizing t with
  | nil => exact ⟨t, rfl, rfl, rfl, hroom.mono (Nat.le_add_left _ _)⟩
  | @cons r a raws attributes hread _ ih =>
    obtain ⟨rawPos, rawName, valuePos, rawValue⟩ := r
    obtain ⟨rfl, rfl⟩ := hread
    rw [List.map_cons, List.nodup_cons] at hnodup
    rw [spellingSize, List.map_cons, List.sum_cons] at hsteps hroom
    obtain ⟨tally', hvalue, htally⟩ := tagValue_of_spells hv a.spells
      (Nat.lt_of_le_of_lt (Nat.le_add_right _ _) hsteps)
      (n := spellingSize attributes + n) (hroom.mono (Nat.le_of_eq (Nat.add_assoc _ _ _).symm))
      rawPos valuePos a.name
    -- The names differ, so none has been taken before.
    have hfresh : t.seen.contains a.name = false := by
      simpa using hseen a List.mem_cons_self
    obtain ⟨t', htake, hattributes, hbindings, hleft⟩ := ih
      (Nat.lt_of_le_of_lt (Nat.le_add_left _ _) hsteps) hnodup.2
      ⟨a.name :: t.seen, (a.name, a.value) :: t.attributes, t.bindings, tally'⟩
      (fun b hb hmem => by
        rcases List.mem_cons.1 hmem with heq | hmem
        · exact hnodup.1 (heq ▸ List.mem_map_of_mem hb)
        · exact hseen b (List.mem_cons_of_mem a hb) hmem)
      htally
    refine ⟨t', ?_, ?_, hbindings, hleft⟩
    · rw [TagReader.takeNamed]
      dsimp only [List.find?_nil]
      rw [hfresh, if_neg Bool.false_ne_true, hvalue]
      dsimp only
      rw [TagReader.take, boundPrefix?_of_isName a.isName_name a.name_ne]
      exact htake
    · rw [hattributes, List.map_cons, List.reverse_cons, List.append_assoc]
      rfl

theorem resolve_of_reads {v : ValueSetting} (hv : v.origin.IsDirect)
    (hdeclared : v.declarations.attributes = []) (t : SpelledTag) {raws : List RawAttribute}
    (hreads : List.Forall₂ RawAttribute.Reads raws t.attributes)
    (hsteps : spellingSize t.attributes < v.steps) {tally : Tally} {n : Nat}
    (hroom : tally.HasRoom (spellingSize t.attributes + n)) (isEmpty : Bool) :
    ∃ tally', RawTag.resolve v tally .initial ⟨t.name, raws, isEmpty⟩ =
      .ok ⟨t.name, t.values, .initial, tally'⟩ ∧ tally'.HasRoom n := by
  obtain ⟨reader, htake, hattributes, hbindings, hleft⟩ := takeNamed_of_reads hv hreads hsteps
    t.nodup ⟨[], [], .initial, tally⟩ (fun _ _ => List.not_mem_nil) hroom
  have hknown : v.declarations.attributesOf t.name = [] := by
    rw [Declarations.attributesOf, hdeclared]
    rfl
  have hvalues : reader.attributes.reverse = t.values := by
    rw [hattributes, List.append_nil, List.reverse_reverse]
    rfl
  have hnames : ∀ a ∈ t.values, isName a.1 = true := by
    intro a ha
    obtain ⟨b, _, rfl⟩ := List.mem_map.1 ha
    exact b.isName_name
  refine ⟨reader.tally, ?_, hleft⟩
  rw [RawTag.resolve]
  dsimp only
  rw [hknown, htake]
  dsimp only [TagReader.takeDefaults]
  rw [hvalues, resolveAttributes_of_isName hnames, hbindings, resolveTag_of_isName t.isName_name]

end Xml

end FindingLedger
