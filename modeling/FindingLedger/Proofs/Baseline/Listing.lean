/-
Which findings a baseline document accepts.

A document lists a finding when the last file element of its file has an error element at
its position with its rule.  Exactly these findings have a twin among those that were read.
-/
import FindingLedger.Baseline.Load
import FindingLedger.Proofs.Baseline.Content
import FindingLedger.Proofs.Finding.Twin

namespace FindingLedger

/-- An error element stands for a finding: it has its position, and a rule id with the
same normal form. -/
def Element.StandsFor (e : Element) (f : Finding) : Prop :=
  e.HasNumber "line" f.line ∧ e.HasNumber "column" f.column ∧
    RuleId.normalize e.ruleId = RuleId.normalize f.rule.display

theorem Element.hasNumber_iff {e : Element} {attributeName : String} {n : Int} :
    e.HasNumber attributeName n ↔
      ((e.attribute? attributeName).any fun value => (Numeral.read value).toOption == some n) := by
  rw [HasNumber]
  cases e.attribute? attributeName with
  | none => simp
  | some value =>
    rw [Option.any_some]
    cases hread : Numeral.read value with
    | error e => simp [hread, Except.toOption]
    | ok m => simp [hread, Except.toOption]

instance (e : Element) (attributeName : String) (n : Int) :
    Decidable (e.HasNumber attributeName n) :=
  decidable_of_iff _ Element.hasNumber_iff.symm

instance (e : Element) (f : Finding) : Decidable (e.StandsFor f) :=
  inferInstanceAs (Decidable (_ ∧ _ ∧ _))

/-- The last file element of a name has an error element that stands for a finding. -/
def Element.Lists (root : Element) (file : String) (f : Finding) : Prop :=
  ∃ last, ((root.named "file").filter (·.fileName == file)).getLast? = some last ∧
    ∃ e ∈ last.named "error", e.StandsFor f

theorem Element.HasNumber.unique {e : Element} {attributeName : String} {m n : Int}
    (hm : e.HasNumber attributeName m) (hn : e.HasNumber attributeName n) : m = n := by
  obtain ⟨value, hvalue, hread⟩ := hm
  obtain ⟨value', hvalue', hread'⟩ := hn
  cases hvalue.symm.trans hvalue'
  exact Except.ok.inj (hread.symm.trans hread')

theorem Finding.Records.isTwin_iff {known f : Finding} {e : Element} (hrecords : known.Records e) :
    known.IsTwin f ↔ e.StandsFor f := by
  have hrule : RuleId.normalize known.rule.display = RuleId.normalize e.ruleId := by
    rw [hrecords.rule]
    exact RuleId.normalize_normalize e.ruleId
  constructor
  · rintro ⟨hline, hcolumn, hsame⟩
    refine ⟨?_, ?_, hrule.symm.trans hsame⟩
    · rw [← hline]
      exact hrecords.line
    · rw [← hcolumn]
      exact hrecords.column
  · rintro ⟨hline, hcolumn, hsame⟩
    exact ⟨hrecords.line.unique hline, hrecords.column.unique hcolumn, hrule.trans hsame⟩

theorem exists_mem_iff_of_forall₂ {α β : Type} {R : α → β → Prop} {P : α → Prop} {Q : β → Prop}
    (hiff : ∀ a b, R a b → (P a ↔ Q b)) {xs : List α} {ys : List β}
    (hall : List.Forall₂ R xs ys) : (∃ a ∈ xs, P a) ↔ ∃ b ∈ ys, Q b := by
  induction hall with
  | nil => simp
  | cons hab _ ih => simp only [List.exists_mem_cons_iff, hiff _ _ hab, ih]

namespace Baseline

namespace Document

theorem exists_twin_iff_lists {root : Element} {d : Document} (hread : ofElement root = .ok d)
    (file : String) (f : Finding) :
    (∃ known ∈ (d.files.lookup file).getD [], known.IsTwin f) ↔ root.Lists file f := by
  obtain ⟨blocks, hblocks, hfiles, _⟩ := ofElement_eq_ok hread
  rw [Element.Lists, ← hblocks, hfiles, Keyed.lookup_ofList, List.filter_map, List.filter_map,
    List.getLast?_map, List.getLast?_map]
  change (∃ known ∈ (((blocks.filter fun b => b.element.fileName == file).getLast?.map
    Block.entry).map Prod.snd).getD [], known.IsTwin f) ↔
      ∃ last, (blocks.filter fun b => b.element.fileName == file).getLast?.map Block.element =
        some last ∧ ∃ e ∈ last.named "error", e.StandsFor f
  cases (blocks.filter fun b => b.element.fileName == file).getLast? with
  | none => simp
  | some b =>
    have hsame := exists_mem_iff_of_forall₂
      (fun known e hrecords => hrecords.isTwin_iff (f := f)) b.records
    simpa [Block.entry] using hsame

theorem haveRuleIds_of_ofElement {root : Element} {d : Document}
    (hread : ofElement root = .ok d) : d.files.HaveRuleIds := by
  obtain ⟨blocks, _, hfiles, _⟩ := ofElement_eq_ok hread
  intro entry hentry f hf
  obtain ⟨name, findings⟩ := entry
  rw [hfiles] at hentry
  obtain ⟨last, _, hrecords⟩ := exists_last_of_mem hentry
  have hrules : List.Forall₂ (fun g e => g.HasRuleId ∧ Finding.Records g e) findings
      (last.named "error") :=
    hrecords.imp fun g e hrecord => ⟨⟨_, hrecord.rule⟩, hrecord⟩
  exact ((List.forall₂_and_left _ _).1 hrules).1 f hf

theorem ofFile_eq_ok {t : FileTree} {cwd : Location} {path : Path} {d : Document} :
    ofFile t cwd path = .ok d ↔
      ∃ bytes root, t.read cwd path.text = .ok bytes ∧ Xml.read bytes.toList = .ok root ∧
        ofElement root = .ok d := by
  rw [ofFile]
  cases t.read cwd path.text with
  | error fault => simp
  | ok bytes =>
    dsimp only
    rw [mapError_eq_ok, ofBytes]
    cases hxml : Xml.read bytes.toList with
    | error e => simp [hxml]
    | ok root => simp [hxml]

theorem haveRuleIds_of_ofFile {t : FileTree} {cwd : Location} {path : Path} {d : Document}
    (hfile : ofFile t cwd path = .ok d) : d.files.HaveRuleIds := by
  obtain ⟨_, _, _, _, hread⟩ := ofFile_eq_ok.1 hfile
  exact haveRuleIds_of_ofElement hread

end Document

end Baseline

end FindingLedger
