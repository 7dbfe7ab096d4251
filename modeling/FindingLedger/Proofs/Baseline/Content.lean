/-
What a baseline document holds, read off its element tree.

Main statement: the files of a document are the names of all file elements, in the order
in which the names first come; the findings of a file are the error elements below the
last file element of its name; and ids without a rule set are counted below every file
element, also below one whose findings another one replaces.
-/
import FindingLedger.Baseline.Document
import FindingLedger.Proofs.Keyed
import FindingLedger.Proofs.Outcome
import FindingLedger.Proofs.Xml.Subtree
import Mathlib.Algebra.GroupWithZero.Nat

namespace FindingLedger

/-- The name of the file that an element stands for; empty if it has none. -/
def Element.fileName (e : Element) : String := (e.attribute? "name").getD ""

/-- The rule id of an error element as it is written; empty if it has none. -/
def Element.ruleId (e : Element) : String := (e.attribute? "source").getD ""

/-- Whether the rule id of an error element names no rule set. -/
def Element.isBare (e : Element) : Bool := ':' ∉ e.ruleId.toList

/-- The number of error elements below an element whose rule ids name no rule set. -/
def Element.bareCount (e : Element) : Nat := (e.named "error").countP Element.isBare

/-- The whole number that an attribute of an element holds. -/
def Element.HasNumber (e : Element) (attributeName : String) (n : Int) : Prop :=
  ∃ value, e.attribute? attributeName = some value ∧ Numeral.read value = .ok n

/-- A finding is what an error element records: a position and a rule, and nothing
else. -/
structure Finding.Records (f : Finding) (e : Element) : Prop where
  line : e.HasNumber "line" f.line
  column : e.HasNumber "column" f.column
  rule : f.rule = .text (RuleId.normalize e.ruleId)
  detail : f.detail = .text ""
  status : f.status = .inBaseline

namespace Baseline

namespace Document

theorem position_eq_ok {file : String} {e : Element} {attributeName : String} {n : Int} :
    position file e attributeName = .ok n ↔ e.HasNumber attributeName n := by
  unfold position Element.HasNumber
  cases hvalue : e.attribute? attributeName with
  | none => simp
  | some value => simp [mapError_eq_ok]

theorem not_hasSet (e : Element) : (!RuleId.hasSet e.ruleId) = e.isBare := by
  rw [RuleId.hasSet, Element.isBare, List.contains_eq_mem, decide_not]
  rfl

theorem findingOf_eq_ok {file : String} {e : Element} {r : Finding × Bool} :
    findingOf file e = .ok r ↔ r.1.Records e ∧ r.2 = e.isBare := by
  rw [findingOf, bind_eq_ok]
  constructor
  · rintro ⟨line, hline, hrest⟩
    obtain ⟨column, hcolumn, heq⟩ := bind_eq_ok.1 hrest
    cases heq
    exact ⟨⟨position_eq_ok.1 hline, position_eq_ok.1 hcolumn, rfl, rfl, rfl⟩, not_hasSet e⟩
  · obtain ⟨⟨line, column, rule, detail, status⟩, bare⟩ := r
    rintro ⟨⟨hline, hcolumn, rfl, rfl, rfl⟩, rfl⟩
    refine ⟨line, position_eq_ok.2 hline, bind_eq_ok.2 ⟨column, position_eq_ok.2 hcolumn, ?_⟩⟩
    rw [← not_hasSet e]
    rfl

/-- Error elements give the findings that they record, one by one, and the flags of
those whose ids name no rule set. -/
theorem findingsOf_eq_ok {file : String} {es : List Element} {rs : List (Finding × Bool)} :
    findingsOf file es = .ok rs ↔
      List.Forall₂ Finding.Records (rs.map Prod.fst) es ∧
        rs.map Prod.snd = es.map Element.isBare := by
  induction es generalizing rs with
  | nil =>
    rw [findingsOf, List.forall₂_nil_right_iff, List.map_eq_nil_iff, Except.ok.injEq, eq_comm]
    exact ⟨fun h => ⟨h, by rw [h]; rfl⟩, fun h => h.1⟩
  | cons e rest ih =>
    rw [findingsOf, bind_eq_ok]
    constructor
    · rintro ⟨r, hr, hchain⟩
      obtain ⟨rs', hrs', heq⟩ := bind_eq_ok.1 hchain
      cases heq
      obtain ⟨hrecords, hbare⟩ := findingOf_eq_ok.1 hr
      obtain ⟨hall, hbares⟩ := ih.1 hrs'
      exact ⟨.cons hrecords hall, by simp [hbare, hbares]⟩
    · rintro ⟨hall, hbares⟩
      cases rs with
      | nil => cases hall
      | cons r rs' =>
        simp only [List.map_cons, List.forall₂_cons] at hall
        simp only [List.map_cons, List.cons.injEq] at hbares
        exact ⟨r, findingOf_eq_ok.2 ⟨hall.1, hbares.1⟩,
          bind_eq_ok.2 ⟨rs', ih.2 ⟨hall.2, hbares.2⟩, rfl⟩⟩

/-- A file element with the findings that the error elements below it record. -/
structure Block where
  element : Element
  findings : List Finding
  records : List.Forall₂ Finding.Records findings (element.named "error")

/-- The findings of a block under the name of its file. -/
def Block.entry (b : Block) : String × List Finding := (b.element.fileName, b.findings)

theorem addFile_eq_ok {d d' : Document} {e : Element} (hadd : d.addFile e = .ok d') :
    ∃ b : Block, b.element = e ∧
      d' = ⟨Keyed.put e.fileName b.findings d.files, d.legacy + e.bareCount⟩ := by
  rw [addFile, bind_eq_ok] at hadd
  obtain ⟨rs, hrs, heq⟩ := hadd
  obtain ⟨hrecords, hbare⟩ := findingsOf_eq_ok.1 hrs
  refine ⟨⟨e, rs.map Prod.fst, hrecords⟩, rfl, ?_⟩
  have hcount : (rs.filter Prod.snd).length = e.bareCount := by
    rw [Element.bareCount, ← List.countP_eq_length_filter]
    calc rs.countP Prod.snd
        = (rs.map Prod.snd).countP id := by rw [List.countP_map]; rfl
      _ = ((e.named "error").map Element.isBare).countP id := by rw [hbare]
      _ = (e.named "error").countP Element.isBare := by rw [List.countP_map]; rfl
  cases heq
  rw [← hcount]
  rfl

/-- File elements are added one by one: each has a block, the entries of the blocks are
put one after the other, and the counts add up. -/
theorem addFiles_eq_ok {d d' : Document} {es : List Element} (hadd : d.addFiles es = .ok d') :
    ∃ blocks : List Block, blocks.map Block.element = es ∧
      d'.files = (blocks.map Block.entry).foldl (fun files p => Keyed.put p.1 p.2 files) d.files ∧
      d'.legacy = d.legacy + (es.map Element.bareCount).sum := by
  induction es generalizing d with
  | nil =>
    cases hadd
    exact ⟨[], rfl, rfl, rfl⟩
  | cons e rest ih =>
    rw [addFiles, bind_eq_ok] at hadd
    obtain ⟨next, hnext, hrest⟩ := hadd
    obtain ⟨b, hb, rfl⟩ := addFile_eq_ok hnext
    obtain ⟨blocks, hblocks, hfiles, hlegacy⟩ := ih hrest
    refine ⟨b :: blocks, by rw [List.map_cons, hb, hblocks], ?_, ?_⟩
    · rw [hfiles, List.map_cons, List.foldl_cons, Block.entry, hb]
    · rw [hlegacy, List.map_cons, List.sum_cons, Nat.add_assoc]

theorem ofElement_eq_ok {root : Element} {d : Document} (hread : ofElement root = .ok d) :
    ∃ blocks : List Block, blocks.map Block.element = root.named "file" ∧
      d.files = Keyed.ofList (blocks.map Block.entry) ∧
      d.legacy = ((root.named "file").map Element.bareCount).sum := by
  obtain ⟨blocks, hblocks, hfiles, hlegacy⟩ := addFiles_eq_ok hread
  exact ⟨blocks, hblocks, hfiles, by rw [hlegacy, empty, Nat.zero_add]⟩

theorem map_fst_entries (blocks : List Block) :
    (blocks.map Block.entry).map Prod.fst = (blocks.map Block.element).map Element.fileName := by
  rw [List.map_map, List.map_map]
  rfl

theorem exists_last_of_mem {blocks : List Block} {name : String} {findings : List Finding}
    (hmem : (name, findings) ∈ Keyed.ofList (blocks.map Block.entry)) :
    ∃ last, ((blocks.map Block.element).filter (·.fileName == name)).getLast? = some last ∧
      List.Forall₂ Finding.Records findings (last.named "error") := by
  have hlookup := Keyed.lookup_eq_some_of_mem (Keyed.nodup_keys_ofList _) hmem
  rw [Keyed.lookup_ofList, List.filter_map, List.getLast?_map] at hlookup
  obtain ⟨_, hentry, rfl⟩ := Option.map_eq_some_iff.1 hlookup
  obtain ⟨b, hb, rfl⟩ := Option.map_eq_some_iff.1 hentry
  refine ⟨b.element, ?_, b.records⟩
  rw [List.filter_map, List.getLast?_map]
  exact Option.map_eq_some_iff.2 ⟨b, hb, rfl⟩

/-- What a document holds.  Its file elements are all elements of that local name in the
tree; their names, each where it first comes, are the files; the findings of a file are
those of the error elements below the last file element of its name; and every file
element adds the ids below it that name no rule set. -/
theorem ofElement_content {root : Element} {d : Document} (hread : ofElement root = .ok d) :
    (∀ e, e ∈ root.named "file" ↔ root.Holds e ∧ e.localName = "file") ∧
    d.files.map Prod.fst = ((root.named "file").map Element.fileName).eraseDups ∧
    (∀ name findings, (name, findings) ∈ d.files → ∃ last,
      ((root.named "file").filter (·.fileName == name)).getLast? = some last ∧
        List.Forall₂ Finding.Records findings (last.named "error")) ∧
    d.legacy = ((root.named "file").map Element.bareCount).sum := by
  obtain ⟨blocks, hblocks, hfiles, hlegacy⟩ := ofElement_eq_ok hread
  refine ⟨fun e => ?_, ?_, ?_, hlegacy⟩
  · rw [Element.named, List.mem_filter, Element.mem_subtree_iff, beq_iff_eq]
  · rw [hfiles, Keyed.keys_ofList, map_fst_entries, hblocks]
  · intro name findings hmem
    rw [hfiles] at hmem
    rw [← hblocks]
    exact exists_last_of_mem hmem

/-- A file element as the root, with two more inside of it, the last of which takes its
name. -/
def nestedRoot : Element :=
  let error (line column source : String) : Element :=
    .node "\x7burn:x\x7derror" [("line", line), ("column", column), ("source", source)] "" []
  .node "file" [("name", "a.kt")] ""
    [error "1" "2" "rule-a",
     .node "group" [] "" [.node "\x7burn:y\x7dfile" [("name", "b.kt")] "" [error " +3_0" "4" "x:y"]],
     .node "file" [("name", "a.kt")] "" [error "-5" "6" "", error "7" "8" ":"]]

/-- What it holds: of the first element only the place and its counts are left. -/
def nestedDocument : Document :=
  ⟨[("a.kt", [⟨-5, 6, .text "standard:", .text "", .inBaseline⟩,
      ⟨7, 8, .text ":", .text "", .inBaseline⟩]),
    ("b.kt", [⟨30, 4, .text "x:y", .text "", .inBaseline⟩])], 3⟩

theorem nestedRoot_content :
    ofElement nestedRoot = .ok nestedDocument ∧
    nestedDocument.files.map Prod.fst =
      ((nestedRoot.named "file").map Element.fileName).eraseDups ∧
    (∀ name findings, (name, findings) ∈ nestedDocument.files → ∃ last,
      ((nestedRoot.named "file").filter (·.fileName == name)).getLast? = some last ∧
        List.Forall₂ Finding.Records findings (last.named "error")) ∧
    nestedDocument.legacy = ((nestedRoot.named "file").map Element.bareCount).sum :=
  have hread : ofElement nestedRoot = .ok nestedDocument := rfl
  ⟨hread, (ofElement_content hread).2⟩

end Document

end Baseline

end FindingLedger
