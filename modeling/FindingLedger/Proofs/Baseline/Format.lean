/-
The format of baseline documents: what is written is read.

Accepted findings of files with different names, written as file elements with error
elements inside of them, are read back in their order, with the rule ids in normal form.
A valid baseline of this content suppresses all findings that restate accepted ones.
-/
import FindingLedger.Proofs.Baseline.Content
import FindingLedger.Proofs.Baseline.Partition
import FindingLedger.Proofs.Text.Numeral
import FindingLedger.Proofs.Xml.Reading

namespace FindingLedger

namespace Baseline

/-- An accepted finding as it is written: a position and a rule id of any spelling. -/
structure Entry where
  line : Int
  column : Int
  source : String
deriving DecidableEq, Repr

/-- Accepted findings by file. -/
abbrev Ledger := List (String × List Entry)

def Entry.finding (e : Entry) : Finding :=
  ⟨e.line, e.column, .text (RuleId.normalize e.source), .text "", .inBaseline⟩

/-- Whether the rule id of an entry names no rule set. -/
def Entry.isBare (e : Entry) : Bool := ':' ∉ e.source.toList

/-- A text of characters that may occur in a document. -/
def IsLegalText (s : String) : Prop := ∀ c ∈ s.toList, Xml.isLegal c = true

/-- An entry can be written and read: its id is legal and its numbers are not too long. -/
structure Entry.IsWritable (e : Entry) : Prop where
  line : Numeral.Fits e.line
  column : Numeral.Fits e.column
  source : IsLegalText e.source

/-- Files of different names with entries that can be written. -/
structure Ledger.IsWritable (files : Ledger) : Prop where
  nodup : (files.map Prod.fst).Nodup
  names : ∀ file ∈ files, IsLegalText file.1
  entries : ∀ file ∈ files, ∀ e ∈ file.2, e.IsWritable

def Ledger.document (files : Ledger) : Document :=
  ⟨files.map fun file => (file.1, file.2.map Entry.finding),
    (files.map fun file => file.2.countP Entry.isBare).sum⟩

/-- A text spells another one between quotation marks. -/
def SpellsText (value spelling : String) : Prop := Xml.Spells value.toList spelling.toList

/-- The error elements of entries. -/
inductive WritesEntries : List Entry → String → Prop
  | nil : WritesEntries [] ""
  | cons {e : Entry} {rest : List Entry} {source text : String}
      (hsource : SpellsText e.source source) (hrest : WritesEntries rest text) :
      WritesEntries (e :: rest)
        (s!"<error line=\"{e.line}\" column=\"{e.column}\" source=\"{source}\"/>" ++ text)

/-- The file elements of files. -/
inductive WritesFiles : Ledger → String → Prop
  | nil : WritesFiles [] ""
  | cons {file : String} {entries : List Entry} {rest : Ledger} {name inner text : String}
      (hname : SpellsText file name) (hinner : WritesEntries entries inner)
      (hrest : WritesFiles rest text) :
      WritesFiles ((file, entries) :: rest)
        (s!"<file name=\"{name}\">{inner}</file>" ++ text)

/-- A text is a baseline document of the files. -/
def Writes (files : Ledger) (text : String) : Prop :=
  ∃ inner, WritesFiles files inner ∧ text = s!"<baseline>{inner}</baseline>"

/-- Live findings restate accepted ones: each has the position and the rule of an entry of
its file, whatever its text and its status. -/
def Ledger.Restates (files : Ledger) (live : Findings) : Prop :=
  ∀ entry ∈ live, ∀ f ∈ entry.2, ∃ file ∈ files, file.1 = entry.1 ∧ ∃ e ∈ file.2,
    f.line = e.line ∧ f.column = e.column ∧
      ∃ id, f.rule = .text id ∧ RuleId.normalize id = RuleId.normalize e.source

theorem spellsText_toString (n : Int) : SpellsText (toString n) (toString n) := by
  have hchars : ∀ c ∈ (toString n).toList, c = '-' ∨ c.isDigit = true := by
    intro c hc
    rw [Int.toString_eq_repr, Int.repr_eq_if] at hc
    by_cases hsign : 0 ≤ n
    · rw [if_pos hsign, Nat.toList_repr] at hc
      exact Or.inr (Nat.isDigit_of_mem_toDigits (by omega) (by omega) hc)
    · rw [if_neg hsign, String.toList_append, Nat.toList_repr] at hc
      rcases List.mem_append.1 hc with hc | hc
      · exact Or.inl (List.mem_singleton.1 hc)
      · exact Or.inr (Nat.isDigit_of_mem_toDigits (by omega) (by omega) hc)
  refine Xml.spells_self (fun c hc => ?_) fun c hc => ?_
  · rcases hchars c hc with rfl | hdigit
    · rfl
    · have hrange := Numeral.toNat_of_isDigit hdigit
      exact Xml.isLegal_of_printable (by omega) (by omega)
  · rcases hchars c hc with rfl | hdigit
    · decide
    · intro hmem
      simp only [Xml.marked, List.mem_cons, List.not_mem_nil, or_false] at hmem
      rcases hmem with rfl | rfl | rfl | rfl | rfl | rfl | rfl <;> cases hdigit

def Entry.element (e : Entry) : Element :=
  .node "error" [("line", toString e.line), ("column", toString e.column), ("source", e.source)]
    "" []

def fileElement (file : String × List Entry) : Element :=
  .node "file" [("name", file.1)] "" (file.2.map Entry.element)

def Ledger.element (files : Ledger) : Element :=
  .node "baseline" [] "" (files.map fileElement)

/-- The tag of an error element. -/
def Entry.tag (e : Entry) {source : String} (hsource : SpellsText e.source source) :
    Xml.SpelledTag where
  name := "error".toList
  attributes :=
    [⟨"line".toList, (toString e.line).toList, (toString e.line).toList, rfl, by decide,
        spellsText_toString e.line⟩,
      ⟨"column".toList, (toString e.column).toList, (toString e.column).toList, rfl, by decide,
        spellsText_toString e.column⟩,
      ⟨"source".toList, e.source.toList, source.toList, rfl, by decide, hsource⟩]
  isName_name := rfl
  nodup := show ["line".toList, "column".toList, "source".toList].Nodup by decide

def fileTag {file name : String} (hname : SpellsText file name) : Xml.SpelledTag where
  name := "file".toList
  attributes := [⟨"name".toList, file.toList, name.toList, rfl, by decide, hname⟩]
  isName_name := rfl
  nodup := List.nodup_singleton _

def rootTag : Xml.SpelledTag where
  name := "baseline".toList
  attributes := []
  isName_name := rfl
  nodup := by decide

theorem Entry.element_tag (e : Entry) {source : String} (hsource : SpellsText e.source source) :
    (e.tag hsource).element [] = e.element := by
  simp [Entry.tag, Entry.element, Xml.SpelledTag.element, Xml.SpelledTag.values]

theorem Entry.startTag_tag (e : Entry) {source : String} (hsource : SpellsText e.source source) :
    (s!"<error line=\"{e.line}\" column=\"{e.column}\" source=\"{source}\"/>").toList =
      (e.tag hsource).startTag true := by
  change ("<error line=\"" ++ toString e.line ++ "\" column=\"" ++ toString e.column ++
    "\" source=\"" ++ source ++ "\"/>").toList = _
  simp only [String.toList_append, Entry.tag, Xml.SpelledTag.startTag, Xml.SpelledTag.written,
    Xml.SpelledTag.writtenAttributes, Xml.SpelledAttribute.written, List.append_assoc,
    List.cons_append]
  rfl

theorem tags_fileTag {file name : String} (hname : SpellsText file name) (inner : String) :
    (s!"<file name=\"{name}\">{inner}</file>").toList =
      (fileTag hname).startTag false ++ (inner.toList ++ (fileTag hname).endTag) := by
  change ("<file name=\"" ++ name ++ "\">" ++ inner ++ "</file>").toList = _
  simp only [String.toList_append, fileTag, Xml.SpelledTag.startTag, Xml.SpelledTag.written,
    Xml.SpelledTag.writtenAttributes, Xml.SpelledAttribute.written, List.append_assoc,
    List.cons_append]
  rfl

theorem element_fileTag {file name : String} (hname : SpellsText file name)
    (children : List Element) :
    (fileTag hname).element children = .node "file" [("name", file)] "" children := by
  simp [fileTag, Xml.SpelledTag.element, Xml.SpelledTag.values]

theorem exists_written_entries {entries : List Entry} {text : String}
    (hwrites : WritesEntries entries text) :
    ∃ w : Xml.Written, w.text = text.toList ∧ w.elements = entries.map Entry.element := by
  induction hwrites with
  | nil => exact ⟨.none, rfl, rfl⟩
  | @cons e rest source text hsource _ ih =>
    obtain ⟨w, htext, helements⟩ := ih
    refine ⟨.empty (e.tag hsource) w, ?_, ?_⟩
    · rw [Xml.Written.text, String.toList_append, e.startTag_tag hsource, htext]
    · rw [Xml.Written.elements, e.element_tag hsource, helements, List.map_cons]

theorem exists_written_files {files : Ledger} {text : String} (hwrites : WritesFiles files text) :
    ∃ w : Xml.Written, w.text = text.toList ∧ w.elements = files.map fileElement := by
  induction hwrites with
  | nil => exact ⟨.none, rfl, rfl⟩
  | @cons file entries rest name inner text hname hinner _ ih =>
    obtain ⟨w, htext, helements⟩ := ih
    obtain ⟨winner, hinnerText, hinnerElements⟩ := exists_written_entries hinner
    refine ⟨.node (fileTag hname) winner w, ?_, ?_⟩
    · rw [Xml.Written.text, hinnerText, htext, String.toList_append, tags_fileTag hname,
        List.append_assoc, List.append_assoc]
    · rw [Xml.Written.elements, element_fileTag, helements, hinnerElements, List.map_cons]
      rfl

theorem read_of_writes {files : Ledger} {text : String} (hwrites : Writes files text) :
    Xml.read (Utf8.encode text) = .ok files.element := by
  obtain ⟨inner, hinner, rfl⟩ := hwrites
  obtain ⟨w, htext, helements⟩ := exists_written_files hinner
  have hread := Xml.read_encode_node rootTag w
  have hwritten : (Xml.Written.node rootTag w .none).text =
      (s!"<baseline>{inner}</baseline>").toList := by
    change _ = ("<baseline>" ++ inner ++ "</baseline>").toList
    rw [Xml.Written.text, htext, String.toList_append, String.toList_append, List.append_assoc]
    rfl
  rw [hwritten, String.ofList_toList, helements] at hread
  exact hread

theorem localName_element (e : Entry) : e.element.localName = "error" := by
  change String.ofList (Element.localPart "error".toList) = "error"
  decide

theorem localName_fileElement (file : String × List Entry) :
    (fileElement file).localName = "file" := by
  change String.ofList (Element.localPart "file".toList) = "file"
  decide

theorem Ledger.localName_element (files : Ledger) : files.element.localName = "baseline" := by
  change String.ofList (Element.localPart "baseline".toList) = "baseline"
  decide

theorem subtree_fileElement (file : String × List Entry) :
    (fileElement file).subtree = fileElement file :: file.2.map Entry.element := by
  rw [Element.subtree_eq]
  congr 1
  change (file.2.map Entry.element).flatMap Element.subtree = _
  induction file.2 with
  | nil => rfl
  | cons e rest ih => rw [List.map_cons, List.flatMap_cons, ih]; rfl

theorem named_error_fileElement (file : String × List Entry) :
    (fileElement file).named "error" = file.2.map Entry.element := by
  rw [Element.named, subtree_fileElement,
    List.filter_cons_of_neg (by rw [localName_fileElement]; decide), List.filter_eq_self]
  intro d hd
  obtain ⟨e, _, rfl⟩ := List.mem_map.1 hd
  rw [localName_element]
  decide

theorem named_file_fileElement (file : String × List Entry) :
    (fileElement file).named "file" = [fileElement file] := by
  rw [Element.named, subtree_fileElement,
    List.filter_cons_of_pos (by rw [localName_fileElement]; decide), List.filter_eq_nil_iff.2]
  intro d hd
  obtain ⟨e, _, rfl⟩ := List.mem_map.1 hd
  rw [localName_element]
  decide

theorem named_file_element (files : Ledger) :
    files.element.named "file" = files.map fileElement := by
  rw [Element.named, Element.subtree_eq,
    List.filter_cons_of_neg (by rw [files.localName_element]; decide)]
  change ((files.map fileElement).flatMap Element.subtree).filter _ = _
  induction files with
  | nil => rfl
  | cons file rest ih =>
    rw [List.map_cons, List.flatMap_cons, List.filter_append, ih]
    change (fileElement file).named "file" ++ _ = _
    rw [named_file_fileElement]
    rfl

theorem Entry.records (e : Entry) (hline : Numeral.Fits e.line)
    (hcolumn : Numeral.Fits e.column) : e.finding.Records e.element where
  line := ⟨toString e.line, rfl, Numeral.read_toString hline⟩
  column := ⟨toString e.column, rfl, Numeral.read_toString hcolumn⟩
  rule := rfl
  detail := rfl
  status := rfl

theorem findingsOf_elements (file : String) {entries : List Entry}
    (hentries : ∀ e ∈ entries, e.IsWritable) :
    Document.findingsOf file (entries.map Entry.element) =
      .ok (entries.map fun e => (e.finding, e.isBare)) := by
  rw [Document.findingsOf_eq_ok, List.map_map, List.map_map, List.map_map,
    List.forall₂_map_left_iff, List.forall₂_map_right_iff, List.forall₂_same]
  refine ⟨fun e he => e.records (hentries e he).line (hentries e he).column, ?_⟩
  rfl

theorem addFile_fileElement (d : Document) {file : String × List Entry}
    (hentries : ∀ e ∈ file.2, e.IsWritable) (hnew : file.1 ∉ d.files.map Prod.fst) :
    d.addFile (fileElement file) =
      .ok ⟨d.files ++ [(file.1, file.2.map Entry.finding)],
        d.legacy + file.2.countP Entry.isBare⟩ := by
  have hname : ((fileElement file).attribute? "name").getD "" = file.1 := rfl
  rw [Document.addFile, named_error_fileElement, hname]
  refine bind_eq_ok.2 ⟨_, findingsOf_elements file.1 hentries, ?_⟩
  have hfindings : (file.2.map fun e => (e.finding, e.isBare)).map Prod.fst =
      file.2.map Entry.finding := by
    rw [List.map_map]
    rfl
  have hcount : ((file.2.map fun e => (e.finding, e.isBare)).filter Prod.snd).length =
      file.2.countP Entry.isBare := by
    rw [← List.countP_eq_length_filter, List.countP_map]
    rfl
  rw [hfindings, hcount, Keyed.put_of_not_mem hnew]

/-- Files with new names are listed in their order. -/
theorem addFiles_map_fileElement (d : Document) {files : Ledger}
    (hentries : ∀ file ∈ files, ∀ e ∈ file.2, e.IsWritable)
    (hnodup : (d.files.map Prod.fst ++ files.map Prod.fst).Nodup) :
    d.addFiles (files.map fileElement) =
      .ok ⟨d.files ++ files.document.files, d.legacy + files.document.legacy⟩ := by
  induction files generalizing d with
  | nil =>
    rw [List.map_nil, Document.addFiles]
    simp [Ledger.document]
  | cons file rest ih =>
    have hnew : file.1 ∉ d.files.map Prod.fst := fun hmem =>
      (List.nodup_append.1 hnodup).2.2 file.1 hmem file.1 List.mem_cons_self rfl
    rw [List.map_cons, Document.addFiles]
    refine bind_eq_ok.2 ⟨_, addFile_fileElement d (hentries file List.mem_cons_self) hnew, ?_⟩
    rw [ih _ fun f hf => hentries f (List.mem_cons_of_mem file hf)]
    · simp [Ledger.document, Nat.add_assoc]
    · simpa using hnodup

theorem ofElement_element {files : Ledger} (hfiles : files.IsWritable) :
    Document.ofElement files.element = .ok files.document := by
  have hadd := addFiles_map_fileElement .empty hfiles.entries hfiles.nodup
  rw [Document.ofElement, named_file_element, hadd]
  simp [Document.empty]

theorem exists_spellsText {value : String} (hlegal : IsLegalText value) :
    ∃ spelling, SpellsText value spelling :=
  ⟨String.ofList (Xml.spell value.toList), by
    rw [SpellsText, String.toList_ofList]
    exact Xml.spells_spell hlegal⟩

theorem exists_writesEntries {entries : List Entry} (hentries : ∀ e ∈ entries, e.IsWritable) :
    ∃ text, WritesEntries entries text := by
  induction entries with
  | nil => exact ⟨_, .nil⟩
  | cons e rest ih =>
    obtain ⟨source, hsource⟩ := exists_spellsText (hentries e List.mem_cons_self).source
    obtain ⟨text, htext⟩ := ih fun d hd => hentries d (List.mem_cons_of_mem e hd)
    exact ⟨_, .cons hsource htext⟩

theorem exists_writesFiles {files : Ledger} (hnames : ∀ file ∈ files, IsLegalText file.1)
    (hentries : ∀ file ∈ files, ∀ e ∈ file.2, e.IsWritable) : ∃ text, WritesFiles files text := by
  induction files with
  | nil => exact ⟨_, .nil⟩
  | cons file rest ih =>
    obtain ⟨name, hname⟩ := exists_spellsText (hnames file List.mem_cons_self)
    obtain ⟨inner, hinner⟩ := exists_writesEntries (hentries file List.mem_cons_self)
    obtain ⟨text, htext⟩ := ih (fun f hf => hnames f (List.mem_cons_of_mem file hf))
      fun f hf => hentries f (List.mem_cons_of_mem file hf)
    exact ⟨_, .cons hname hinner htext⟩

theorem Ledger.haveRuleIds_document (files : Ledger) : files.document.files.HaveRuleIds := by
  intro entry hentry f hf
  obtain ⟨file, _, rfl⟩ := List.mem_map.1 hentry
  obtain ⟨e, _, rfl⟩ := List.mem_map.1 hf
  exact ⟨_, rfl⟩

theorem covers_of_restates {files : Ledger} (hnodup : (files.map Prod.fst).Nodup) {b : Baseline}
    (hstatus : b.status = .valid) (hb : b.files = files.document.files)
    {file : String × List Entry} (hfile : file ∈ files) {e : Entry} (he : e ∈ file.2)
    {f : Finding} (hline : f.line = e.line) (hcolumn : f.column = e.column) {id : String}
    (hid : f.rule = .text id) (hrule : RuleId.normalize id = RuleId.normalize e.source) :
    b.Covers file.1 f := by
  have hkeys : (files.document.files.map Prod.fst).Nodup := by
    have hmap : files.document.files.map Prod.fst = files.map Prod.fst := by
      rw [Ledger.document, List.map_map]
      rfl
    rwa [hmap]
  have hlookup := Keyed.lookup_eq_some_of_mem hkeys
    (List.mem_map_of_mem (f := fun file : String × List Entry =>
      (file.1, file.2.map Entry.finding)) hfile)
  refine ⟨hstatus, e.finding, ?_, hline.symm, hcolumn.symm, ?_⟩
  · rw [findingsOf, hb, hlookup]
    exact List.mem_map_of_mem he
  · rw [hid]
    change RuleId.normalize (RuleId.normalize e.source) = RuleId.normalize id
    rw [RuleId.normalize_normalize, hrule]

/-- Findings that restate accepted ones are compared and none of them is new. -/
theorem hasFresh_of_restates {files : Ledger} (hnodup : (files.map Prod.fst).Nodup)
    {b : Baseline} (hstatus : b.status = .valid) (hb : b.files = files.document.files)
    {live : Findings} (hlive : files.Restates live) :
    ∃ d, b.diff live = .ok d ∧ d.hasFresh = false := by
  have hknown : b.files.HaveRuleIds := by
    rw [hb]
    exact files.haveRuleIds_document
  have hids : live.HaveRuleIds := by
    intro entry hentry f hf
    obtain ⟨_, _, _, _, _, _, _, id, hid, _⟩ := hlive entry hentry f hf
    exact ⟨id, hid⟩
  refine ⟨_, diff_eq_ok hknown hids, ?_⟩
  rw [Diff.hasFresh, Diff.freshCount, decide_eq_false_iff_not, Findings.count_select_pos]
  rintro ⟨entry, hentry, f, hf, hfresh⟩
  obtain ⟨file, hfile, hname, e, he, hline, hcolumn, id, hid, hrule⟩ := hlive entry hentry f hf
  have hcovers := covers_of_restates hnodup hstatus hb hfile he hline hcolumn hid hrule
  rw [hname] at hcovers
  rw [decide_eq_true hcovers] at hfresh
  cases hfresh

/-- The format of baseline documents is read as it is written.  Files of different names
can be written, every document of them is read and holds just them, in their order, and a
valid baseline that holds them suppresses all findings that restate theirs. -/
theorem ofBytes_of_writes {files : Ledger} (hfiles : files.IsWritable) :
    (∃ text, Writes files text) ∧
    (∀ text, Writes files text → Document.ofBytes (Utf8.encode text) = .ok files.document) ∧
    ∀ b : Baseline, b.status = .valid → b.files = files.document.files →
      ∀ live, files.Restates live → ∃ d, b.diff live = .ok d ∧ d.hasFresh = false := by
  refine ⟨?_, fun text hwrites => ?_, fun b hstatus hb live hlive =>
    hasFresh_of_restates hfiles.nodup hstatus hb hlive⟩
  · obtain ⟨inner, hinner⟩ := exists_writesFiles hfiles.names hfiles.entries
    exact ⟨_, inner, hinner, rfl⟩
  · rw [Document.ofBytes, read_of_writes hwrites]
    exact ofElement_element hfiles

/-- Two files, one of an empty name, with an empty id, one of several colons and marked
characters. -/
def sampleLedger : Ledger :=
  [("", [⟨-3, 0, ""⟩]), ("a&b\t.kt", [⟨12, 4, "x:y:<z>"⟩, ⟨12, 4, "rule-a"⟩])]

def sampleText : String :=
  "<baseline><file name=\"\"><error line=\"-3\" column=\"0\" source=\"\"/></file>" ++
    "<file name=\"a&amp;b&#9;.kt\"><error line=\"12\" column=\"4\" source=\"x:y:&lt;z&gt;\"/>" ++
    "<error line=\"12\" column=\"4\" source=\"rule-a\"/></file></baseline>"

theorem spellsText_of_spell_eq {value spelling : String} (hlegal : IsLegalText value)
    (hspell : Xml.spell value.toList = spelling.toList) : SpellsText value spelling := by
  rw [SpellsText, ← hspell]
  exact Xml.spells_spell hlegal

instance (s : String) : Decidable (IsLegalText s) := List.decidableBAll _ _

theorem isWritable_sampleLedger : sampleLedger.IsWritable where
  nodup := by decide
  names := by decide
  entries := by
    have hall : ∀ file ∈ sampleLedger, ∀ e ∈ file.2,
        Numeral.Fits e.line ∧ Numeral.Fits e.column ∧ IsLegalText e.source := by
      decide
    exact fun file hfile e he => ⟨(hall file hfile e he).1, (hall file hfile e he).2.1,
      (hall file hfile e he).2.2⟩

theorem writes_sampleText : Writes sampleLedger sampleText := by
  have hname : SpellsText "a&b\t.kt" "a&amp;b&#9;.kt" :=
    spellsText_of_spell_eq (by decide) (by decide +kernel)
  have hsource : SpellsText "x:y:<z>" "x:y:&lt;z&gt;" :=
    spellsText_of_spell_eq (by decide) (by decide +kernel)
  have hrule : SpellsText "rule-a" "rule-a" :=
    spellsText_of_spell_eq (by decide) (by decide +kernel)
  have hempty : SpellsText "" "" := Xml.Spells.nil
  exact ⟨_, .cons hempty (.cons hempty .nil)
    (.cons hname (.cons hsource (.cons hrule .nil)) .nil), by decide +kernel⟩

theorem ofBytes_sampleText :
    sampleLedger.IsWritable ∧ Writes sampleLedger sampleText ∧
      Document.ofBytes (Utf8.encode sampleText) = .ok sampleLedger.document ∧
      sampleLedger.document.legacy = 2 ∧
      ∃ d, (valid "baseline.xml" sampleLedger.document.files 2 []).diff
          [("a&b\t.kt", [⟨12, 4, .text "standard:rule-a", .text "again", .correctable⟩])] = .ok d ∧
        d.hasFresh = false := by
  obtain ⟨_, hread, hsuppress⟩ := ofBytes_of_writes isWritable_sampleLedger
  refine ⟨isWritable_sampleLedger, writes_sampleText, hread _ writes_sampleText,
    by decide, hsuppress _ rfl rfl _ ?_⟩
  intro entry hentry f hf
  rw [List.mem_singleton] at hentry
  subst hentry
  rw [List.mem_singleton] at hf
  subst hf
  exact ⟨_, .tail _ (.head _), rfl, ⟨12, 4, "rule-a"⟩, .tail _ (.head _), rfl, rfl,
    "standard:rule-a", rfl, by decide⟩

end Baseline

end FindingLedger
