/-
Written documents, read back.

Main statement: the bytes of a written root element are read as this element.  They are
taken for UTF-8 without a declaration, the prolog is empty, and nothing follows the root.
-/
import FindingLedger.Proofs.Outcome
import FindingLedger.Proofs.Xml.Written
import FindingLedger.Xml.Document

namespace FindingLedger

namespace Xml

theorem ne_cutChar_of_isLegal {c : Char} (hc : isLegal c = true) : c ≠ cutChar := by
  rintro rfl
  cases hc

theorem cutChar_not_mem_name {name : List Char} (hname : isName name = true) :
    cutChar ∉ name :=
  not_mem_name hname (by decide)

theorem cutChar_not_mem_spelling {value spelling : List Char} (hspells : Spells value spelling) :
    cutChar ∉ spelling := by
  induction hspells with
  | nil => exact List.not_mem_nil
  | plain hlegal _ _ ih =>
    exact List.not_mem_cons_of_ne_of_not_mem (ne_cutChar_of_isLegal hlegal).symm ih
  | @reference _ _ body _ _ hbody _ ih =>
    have hquiet : cutChar ∉ body := fun hmem =>
      ne_cutChar_of_isLegal (isQuiet_iff.1 (isQuiet_of_refersTo hbody _ hmem)).1 rfl
    simp only [List.mem_cons, List.mem_append, not_or]
    exact ⟨by decide, hquiet, by decide, ih⟩

theorem cutChar_not_mem_writtenAttributes (attributes : List SpelledAttribute) :
    cutChar ∉ SpelledTag.writtenAttributes attributes := by
  induction attributes with
  | nil => exact List.not_mem_nil
  | cons a rest ih =>
    simp only [SpelledTag.writtenAttributes, SpelledAttribute.written, List.mem_cons,
      List.mem_append, List.not_mem_nil, or_false, not_or]
    exact ⟨by decide, ⟨cutChar_not_mem_name a.isName_name, by decide, by decide,
      cutChar_not_mem_spelling a.spells, by decide⟩, ih⟩

theorem cutChar_not_mem_startTag (t : SpelledTag) (isEmpty : Bool) :
    cutChar ∉ t.startTag isEmpty := by
  have hclosing : cutChar ∉ SpelledTag.closing isEmpty := by
    cases isEmpty <;> decide
  simp only [SpelledTag.startTag, SpelledTag.written, List.mem_cons, List.mem_append, not_or]
  exact ⟨by decide, ⟨cutChar_not_mem_name t.isName_name,
    cutChar_not_mem_writtenAttributes t.attributes⟩, hclosing⟩

theorem cutChar_not_mem_endTag (t : SpelledTag) : cutChar ∉ t.endTag := by
  simp only [SpelledTag.endTag, List.mem_cons, List.mem_append, List.not_mem_nil, or_false,
    not_or]
  exact ⟨by decide, by decide, cutChar_not_mem_name t.isName_name, by decide⟩

/-- Nothing that is written holds the mark for a cut character. -/
theorem cutChar_not_mem_text (w : Written) : cutChar ∉ w.text := by
  induction w with
  | none => exact List.not_mem_nil
  | empty tag rest ih =>
    simp only [Written.text, List.mem_append, not_or]
    exact ⟨cutChar_not_mem_startTag tag true, ih⟩
  | node tag inner rest ihinner ihrest =>
    simp only [Written.text, List.mem_append, not_or]
    exact ⟨cutChar_not_mem_startTag tag false, ihinner, cutChar_not_mem_endTag tag, ihrest⟩

/-- An opening bracket and a letter show that a document is in UTF-8. -/
theorem detect?_encode {first : Char} (hfirst : isNameStart first = true) (rest : List Char) :
    detect? (('<' :: first :: rest).flatMap String.utf8EncodeChar) = some (.utf8, false) := by
  have hzero : first.toNat ≠ 0 := by
    intro hzero
    have hchar : first = Char.ofNat 0 := by rw [← hzero, Char.ofNat_toNat]
    rw [hchar] at hfirst
    cases hfirst
  obtain ⟨lead, more, _, _, hencode, _, _, hpos⟩ := Utf8.sequence first
  have hlead : (lead == 0) = false := beq_eq_false_iff_ne.2 (hpos hzero)
  have hbytes : ('<' :: first :: rest).flatMap String.utf8EncodeChar =
      0x3c :: lead :: (more ++ rest.flatMap String.utf8EncodeChar) := by
    rw [List.flatMap_cons, List.flatMap_cons, hencode]
    rfl
  rw [hbytes]
  unfold detect?
  split
  · next heq => cases heq
  · next heq => cases heq
  · next heq => cases heq
  · next heq => cases heq; exact absurd rfl (hpos hzero)
  · next heq => cases heq
  · next heq => cases heq
  · next heq =>
    cases heq
    rw [hlead]
    rfl
  · next heq => cases heq

theorem declaration?_of_isNameStart {first : Char} (hfirst : isNameStart first = true)
    (pos : Nat) (rest : List Char) : declaration? .utf8 pos ('<' :: first :: rest) = none := by
  have hmark : first ≠ '?' := ne_of_isNameStart hfirst (by decide)
  unfold declaration?
  split
  · next heq => exact absurd (List.cons.inj (List.cons.inj heq).2).1 hmark
  · rfl

theorem scanProlog_of_isNameStart {first : Char} (hfirst : isNameStart first = true)
    (pos : Nat) (rest : List Char) :
    scanProlog .utf8 pos ('<' :: first :: rest) =
      .found (.root, false) pos ('<' :: first :: rest) := by
  have hmay : Encoding.utf8.mayStartName first = true := by
    rw [Encoding.mayStartName, isNameStart_utf8, hfirst, Bool.or_true]
  have hbang : first ≠ '!' := ne_of_isNameStart hfirst (by decide)
  have hmark : first ≠ '?' := ne_of_isNameStart hfirst (by decide)
  rw [scanProlog, if_pos hmay]
  · exact if_neg (by decide)
  · exact hbang
  · exact hmark

/-- A document that starts with its root element has an empty prolog. -/
theorem readProlog_of_isNameStart {first : Char} (hfirst : isNameStart first = true) (f : Form)
    (hform : f.encoding = .utf8) (fuel size : Nat) (rest : List Char) :
    readProlog f (fuel + 1) (.initial false size) 0 ('<' :: first :: rest) =
      .ok ⟨.none, ⟨size, 0⟩, 0, '<' :: first :: rest⟩ := by
  rw [readProlog, hform, scanProlog_of_isNameStart hfirst]
  · rfl
  · exact List.cons_ne_nil _ _

/-- A written root element is a document of its own. -/
theorem readBody_node (tag : SpelledTag) (inner : Written) {size : Nat}
    (hsize : (Written.node tag inner .none).text.length ≤ size) :
    readBody ⟨.utf8, false, size⟩ (.initial false 0) 0 (Written.node tag inner .none).text =
      .ok (tag.element inner.elements) := by
  obtain ⟨first, rest, hfirst, htext, _⟩ := tag.exists_startTag false
    (inner.text ++ (tag.endTag ++ []))
  obtain ⟨c, hrest, hroot⟩ := readRoot_node
    (s := ⟨.none, ⟨.utf8, false, size⟩⟩) ⟨rfl, rfl⟩ tag inner hsize 0
    (show Tally.HasRoom ⟨0, 0⟩ 0 from Nat.le_refl 0)
  have htext' : (Written.node tag inner .none).text = '<' :: first :: rest := htext
  have hprolog := readProlog_of_isNameStart hfirst ⟨.utf8, false, size⟩ rfl
    ('<' :: first :: rest).length 0 rest
  rw [htext'] at hroot ⊢
  refine bind_eq_ok.2 ⟨_, hprolog, bind_eq_ok.2 ⟨_, hroot, ?_⟩⟩
  change (checkEpilog _ (c.rest.length + 1) _ _ c.rest >>= fun _ => _) = _
  rw [hrest]
  rfl

/-- Without a declaration, a document that is decoded as a whole is read as it is. -/
theorem readEncoded_of_decode {bs : List UInt8} {cs : List Char} {e : Element}
    (hdecode : Encoding.utf8.decode bs = ⟨cs, false⟩)
    (hdeclaration : declaration? .utf8 0 cs = none)
    (hbody : readBody ⟨.utf8, false, bs.length⟩ (.initial false 0) 0 cs = .ok e) :
    readEncoded .utf8 false bs = .ok e := by
  have hsize : Encoding.utf8.sizeOf 0 0 cs = 0 := by
    cases cs <;> rfl
  unfold readEncoded
  rw [hdecode]
  dsimp only
  split
  · exact mapError_eq_ok.2 (by rw [← hbody, ← hsize]; rfl)
  · next stop pos rest hfound => cases hdeclaration.symm.trans hfound
  · next d pos rest hfound => cases hdeclaration.symm.trans hfound

theorem read_encode_node (tag : SpelledTag) (inner : Written) :
    read (Utf8.encode (String.ofList (Written.node tag inner .none).text)) =
      .ok (tag.element inner.elements) := by
  obtain ⟨first, rest, hfirst, htext, _⟩ := tag.exists_startTag false
    (inner.text ++ (tag.endTag ++ []))
  have htext' : (Written.node tag inner .none).text = '<' :: first :: rest := htext
  have hdetect := detect?_encode hfirst rest
  have hdeclaration := declaration?_of_isNameStart hfirst 0 rest
  rw [← htext'] at hdetect hdeclaration
  rw [Utf8.encode_ofList, read, hdetect]
  exact readEncoded_of_decode
    (decodeUtf8_encode [] (cutChar_not_mem_text (Written.node tag inner .none))) hdeclaration
    (readBody_node tag inner (length_le_length_encode _))

end Xml

end FindingLedger
