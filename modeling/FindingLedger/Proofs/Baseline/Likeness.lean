/-
Element trees that hold the same findings.

Two error elements record alike when their positions are written the same and their rule ids
have one normal form.  Where the file elements of two trees have, one by one, the same names and
error elements that record alike, the documents hold the same findings, or are refused for the
same reason.
-/
import FindingLedger.Proofs.Baseline.Content

namespace FindingLedger

namespace Element

/-- Two error elements record the same finding, if they record one. -/
structure RecordsLike (e e' : Element) : Prop where
  line : e'.attribute? "line" = e.attribute? "line"
  column : e'.attribute? "column" = e.attribute? "column"
  rule : RuleId.normalize e'.ruleId = RuleId.normalize e.ruleId

/-- Two file elements stand for one file, and their error elements record alike. -/
structure FilesLike (e e' : Element) : Prop where
  name : e'.fileName = e.fileName
  errors : List.Forall₂ RecordsLike (e.named "error") (e'.named "error")

end Element

namespace Baseline

namespace Document

variable {e e' root root' : Element} {d d' : Document}

/-- Error elements that record alike give the same finding, or fail for the same reason. -/
theorem findingOf_like (file : String) (hlike : e.RecordsLike e') :
    (findingOf file e').map Prod.fst = (findingOf file e).map Prod.fst := by
  have hline : position file e' "line" = position file e "line" := by
    rw [position, position, hlike.line]
  have hcolumn : position file e' "column" = position file e "column" := by
    rw [position, position, hlike.column]
  rw [findingOf, findingOf, hline, hcolumn]
  cases position file e "line" with
  | error f => rfl
  | ok line =>
    cases position file e "column" with
    | error f => rfl
    | ok column =>
      have hrule : RuleId.normalize ((e'.attribute? "source").getD "") =
          RuleId.normalize ((e.attribute? "source").getD "") := hlike.rule
      change Except.ok _ = Except.ok _
      dsimp only
      rw [hrule]

theorem findingsOf_like (file : String) {es es' : List Element}
    (hall : List.Forall₂ Element.RecordsLike es es') :
    (findingsOf file es').map (List.map Prod.fst) =
      (findingsOf file es).map (List.map Prod.fst) := by
  induction hall with
  | nil => rfl
  | @cons e e' es es' hhead _ ih =>
    rw [findingsOf, findingsOf]
    rcases map_eq_map_iff.1 (findingOf_like file hhead) with ⟨f, hf', hf⟩ | ⟨r', r, hr', hr, hfst⟩
    · rw [hf, hf']
      rfl
    · rw [hr, hr']
      rcases map_eq_map_iff.1 ih with ⟨f, hf', hf⟩ | ⟨rs', rs, hrs', hrs, hrest⟩
      · rw [hf, hf']
        rfl
      · rw [hrs, hrs']
        change Except.ok (r'.1 :: rs'.map Prod.fst) = Except.ok (r.1 :: rs.map Prod.fst)
        rw [hfst, hrest]

/-- File elements that are alike add the same findings. -/
theorem addFile_like (hfiles : d'.files = d.files) (hlike : e.FilesLike e') :
    (d'.addFile e').map files = (d.addFile e).map files := by
  have hname : (e'.attribute? "name").getD "" = (e.attribute? "name").getD "" := hlike.name
  rw [addFile, addFile, hname]
  rcases map_eq_map_iff.1 (findingsOf_like ((e.attribute? "name").getD "") hlike.errors) with
    ⟨f, hf', hf⟩ | ⟨rs', rs, hrs', hrs, hfst⟩
  · rw [hf, hf']
    rfl
  · rw [hrs, hrs']
    change Except.ok (Keyed.put _ (rs'.map Prod.fst) d'.files) =
      Except.ok (Keyed.put _ (rs.map Prod.fst) d.files)
    rw [hfst, hfiles]

theorem addFiles_like {es es' : List Element} (hfiles : d'.files = d.files)
    (hall : List.Forall₂ Element.FilesLike es es') :
    (d'.addFiles es').map files = (d.addFiles es).map files := by
  induction hall generalizing d d' with
  | nil => exact congrArg Except.ok hfiles
  | cons hhead _ ih =>
    rw [addFiles, addFiles]
    rcases map_eq_map_iff.1 (addFile_like hfiles hhead) with
      ⟨f, hf', hf⟩ | ⟨next', next, h', h, hnext⟩
    · rw [hf, hf']
      rfl
    · rw [h, h']
      exact ih hnext

/-- Trees whose file elements are alike hold the same findings, or are refused for the same
reason. -/
theorem ofElement_like
    (hall : List.Forall₂ Element.FilesLike (root.named "file") (root'.named "file")) :
    (ofElement root').map files = (ofElement root).map files :=
  addFiles_like rfl hall

end Document

end Baseline

end FindingLedger
