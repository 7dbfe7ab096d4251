/-
Why a baseline document is refused.

An error element has a position when its line and its column are whole numbers.  Main statement:
a document is refused exactly when an error element below a file element has none, and the first
of these in the order of the document is what it is refused for.  Error elements outside of all
file elements are never looked at.  From a file the same document is read, and it is refused for
the same reason, with its path.
-/
import FindingLedger.Baseline.Load
import FindingLedger.Proofs.Baseline.Content

namespace FindingLedger

open Baseline (DocumentFault)

namespace Element

/-- Whether an attribute of an element holds a whole number. -/
def hasNumeral (e : Element) (attributeName : String) : Bool :=
  (e.attribute? attributeName).any fun value => (Numeral.read value).toOption.isSome

def hasPosition (e : Element) : Bool := e.hasNumeral "line" && e.hasNumeral "column"

/-- What is wrong with an attribute of an error element of a file: it is missing, or it is no
numeral. -/
inductive Spoils (file : String) (e : Element) (attributeName : String) : DocumentFault → Prop
  | missing (isMissing : e.attribute? attributeName = none) :
      Spoils file e attributeName (.missing file attributeName)
  | notNumeral {value : String} {cause : NumeralError}
      (isThere : e.attribute? attributeName = some value)
      (isNoNumeral : Numeral.read value = .error cause) :
      Spoils file e attributeName (.notNumeral file cause)

/-- What is wrong with an error element of a file.  The column only matters where nothing is wrong
with the line. -/
inductive Offends (file : String) (e : Element) : DocumentFault → Prop
  | line {f : DocumentFault} (spoils : Spoils file e "line" f) : Offends file e f
  | column {f : DocumentFault} (hasLine : e.hasNumeral "line" = true)
      (spoils : Spoils file e "column" f) : Offends file e f

/-- A file element with each of the error elements below it. -/
def errorPairs (file : Element) : List (Element × Element) :=
  (file.named "error").map fun e => (file, e)

/-- The file elements of a tree, each with the error elements below it. -/
def pairs (root : Element) : List (Element × Element) := (root.named "file").flatMap errorPairs

/-- The first error element without a position, and the file element it stands below. -/
def firstOffence? (root : Element) : Option (Element × Element) :=
  root.pairs.find? fun p => !p.2.hasPosition

theorem hasNumeral_iff {e : Element} {attributeName : String} :
    e.hasNumeral attributeName = true ↔ ∃ n, e.HasNumber attributeName n := by
  rw [hasNumeral, Option.any_eq_true]
  constructor
  · rintro ⟨value, hvalue, hsome⟩
    obtain ⟨n, hn⟩ := Option.isSome_iff_exists.1 hsome
    exact ⟨n, value, hvalue, toOption_eq_some.1 hn⟩
  · rintro ⟨n, value, hvalue, hread⟩
    exact ⟨value, hvalue, by rw [hread]; rfl⟩

theorem mem_pairs {root file e : Element} :
    (file, e) ∈ root.pairs ↔ (root.Holds file ∧ file.localName = "file") ∧
      file.Holds e ∧ e.localName = "error" := by
  simp only [pairs, errorPairs, named, List.mem_flatMap, List.mem_map, List.mem_filter,
    mem_subtree_iff, beq_iff_eq, Prod.mk.injEq]
  constructor
  · rintro ⟨outer, houter, inner, hinner, rfl, rfl⟩
    exact ⟨houter, hinner⟩
  · rintro ⟨hfile, he⟩
    exact ⟨file, hfile, e, he, rfl, rfl⟩

mutual

/-- A tree whose error elements outside of all file elements have other attributes. -/
def changedOutside (change : List (String × String) → List (String × String)) : Element → Element
  | node tag attributes text children =>
    let name := String.ofList (localPart tag.toList)
    if name = "file" then node tag attributes text children
    else
      node tag (if name = "error" then change attributes else attributes) text
        (allChangedOutside change children)

/-- Trees whose error elements outside of all file elements have other attributes. -/
def allChangedOutside (change : List (String × String) → List (String × String)) :
    List Element → List Element
  | [] => []
  | e :: rest => e.changedOutside change :: allChangedOutside change rest

end

theorem allChangedOutside_eq (change : List (String × String) → List (String × String))
    (es : List Element) : allChangedOutside change es = es.map (changedOutside change) := by
  induction es with
  | nil => simp [allChangedOutside]
  | cons e rest ih => simp [allChangedOutside, ih]

theorem named_file_changedOutside (change : List (String × String) → List (String × String))
    (e : Element) : (e.changedOutside change).named "file" = e.named "file" := by
  induction e using children_induction with
  | hstep e ih =>
    obtain ⟨tag, attributes, text, children⟩ := e
    by_cases hfile : String.ofList (localPart tag.toList) = "file"
    · simp [changedOutside, hfile]
    · have hchildren : (allChangedOutside change children).flatMap (named "file") =
          children.flatMap (named "file") := by
        rw [allChangedOutside_eq, List.flatMap_map]
        exact List.flatMap_congr ih
      have hother : ∀ attributes children,
          ((node tag attributes text children).localName == "file") = false :=
        fun _ _ => beq_false_of_ne hfile
      rw [changedOutside, if_neg hfile, named_eq, named_eq, hother, hother]
      exact hchildren

end Element

namespace Baseline

namespace Document

variable {file : String} {e root : Element} {d : Document} {f : DocumentFault}

theorem position_eq_error {attributeName : String} :
    position file e attributeName = .error f ↔ e.Spoils file attributeName f := by
  unfold position
  cases hvalue : e.attribute? attributeName with
  | none =>
    constructor
    · rintro ⟨⟩
      exact .missing hvalue
    · rintro (_ | ⟨isThere, _⟩)
      · rfl
      · cases hvalue.symm.trans isThere
  | some value =>
    dsimp only
    rw [mapError_eq_error]
    constructor
    · rintro ⟨cause, hread, rfl⟩
      exact .notNumeral hvalue hread
    · rintro (isMissing | ⟨isThere, isNoNumeral⟩)
      · cases hvalue.symm.trans isMissing
      · cases hvalue.symm.trans isThere
        exact ⟨_, isNoNumeral, rfl⟩

/-- An error element gives no finding for what is wrong with it. -/
theorem findingOf_eq_error : findingOf file e = .error f ↔ e.Offends file f := by
  rw [findingOf, bind_eq_error]
  constructor
  · rintro (hline | ⟨line, hline, hrest⟩)
    · exact .line (position_eq_error.1 hline)
    · have hnumber := Element.hasNumeral_iff.2 ⟨line, position_eq_ok.1 hline⟩
      rcases bind_eq_error.1 hrest with hcolumn | ⟨column, _, hnever⟩
      · exact .column hnumber (position_eq_error.1 hcolumn)
      · cases hnever
  · rintro (spoils | ⟨hasLine, spoils⟩)
    · exact Or.inl (position_eq_error.2 spoils)
    · obtain ⟨line, hline⟩ := Element.hasNumeral_iff.1 hasLine
      refine Or.inr ⟨line, position_eq_ok.2 hline, ?_⟩
      exact bind_eq_error.2 (Or.inl (position_eq_error.2 spoils))

/-- An error element gives a finding exactly when it has a position. -/
theorem exists_findingOf_iff (file : String) (e : Element) :
    (∃ r, findingOf file e = .ok r) ↔ e.hasPosition = true := by
  rw [Element.hasPosition, Bool.and_eq_true, Element.hasNumeral_iff, Element.hasNumeral_iff]
  constructor
  · rintro ⟨r, hr⟩
    obtain ⟨hrecords, _⟩ := findingOf_eq_ok.1 hr
    exact ⟨⟨_, hrecords.line⟩, ⟨_, hrecords.column⟩⟩
  · rintro ⟨⟨line, hline⟩, ⟨column, hcolumn⟩⟩
    let f : Finding := ⟨line, column, .text (RuleId.normalize e.ruleId), .text "", .inBaseline⟩
    exact ⟨(f, e.isBare), findingOf_eq_ok.2 ⟨⟨hline, hcolumn, rfl, rfl, rfl⟩, rfl⟩⟩

/-- Where something is wrong with an error element, it has no position, and the other way
around. -/
theorem exists_offends_iff (file : String) (e : Element) :
    (∃ f, e.Offends file f) ↔ e.hasPosition = false := by
  rw [← Bool.not_eq_true, ← exists_findingOf_iff file]
  simp only [← findingOf_eq_error]
  rcases findingOf file e with f | r
  · simp
  · simp

theorem findingsOf_eq_error {es : List Element} :
    findingsOf file es = .error f ↔
      ∃ e, es.find? (fun e => !e.hasPosition) = some e ∧ e.Offends file f := by
  induction es with
  | nil => simp [findingsOf]
  | cons e rest ih =>
    rw [findingsOf, bind_eq_error, List.find?_cons]
    cases hposition : e.hasPosition with
    | false =>
      simp only [Bool.not_false, Option.some.injEq, exists_eq_left', ← findingOf_eq_error]
      refine or_iff_left ?_
      rintro ⟨r, hr, _⟩
      exact Bool.false_ne_true (hposition.symm.trans ((exists_findingOf_iff file e).1 ⟨r, hr⟩))
    | true =>
      obtain ⟨r, hr⟩ := (exists_findingOf_iff file e).2 hposition
      simp only [hr, Bool.not_true, ← ih]
      simp [bind_eq_error]

theorem addFile_eq_error :
    d.addFile e = .error f ↔
      ∃ p, e.errorPairs.find? (fun p => !p.2.hasPosition) = some p ∧
        p.2.Offends p.1.fileName f := by
  have hfindings : d.addFile e = .error f ↔ findingsOf e.fileName (e.named "error") = .error f := by
    rw [addFile, bind_eq_error]
    refine or_iff_left ?_
    rintro ⟨rs, _, hnever⟩
    cases hnever
  rw [hfindings, findingsOf_eq_error, Element.errorPairs, List.find?_map]
  constructor
  · rintro ⟨inner, hfirst, hoffends⟩
    exact ⟨(e, inner), Option.map_eq_some_iff.2 ⟨inner, hfirst, rfl⟩, hoffends⟩
  · rintro ⟨p, hpair, hoffends⟩
    obtain ⟨inner, hfirst, rfl⟩ := Option.map_eq_some_iff.1 hpair
    exact ⟨inner, hfirst, hoffends⟩

theorem addFiles_eq_error {es : List Element} :
    d.addFiles es = .error f ↔
      ∃ p, (es.flatMap Element.errorPairs).find? (fun p => !p.2.hasPosition) = some p ∧
        p.2.Offends p.1.fileName f := by
  induction es generalizing d with
  | nil => simp [addFiles]
  | cons e rest ih =>
    rw [addFiles, bind_eq_error, List.flatMap_cons, List.find?_append]
    cases hfirst : e.errorPairs.find? (fun p => !p.2.hasPosition) with
    | none =>
      rcases hadd : d.addFile e with fault | next
      · obtain ⟨p, hp, _⟩ := addFile_eq_error.1 hadd
        cases hfirst.symm.trans hp
      · simp [ih]
    | some p =>
      have hbad : p.2.hasPosition = false := by simpa using List.find?_some hfirst
      obtain ⟨fault, hoffends⟩ := (exists_offends_iff p.1.fileName p.2).2 hbad
      have hadd : d.addFile e = .error fault := addFile_eq_error.2 ⟨p, hfirst, hoffends⟩
      rw [Option.some_or, ← hfirst, ← addFile_eq_error (d := d), hadd]
      simp

/-- A document is refused for the first error element below a file element that has no
position. -/
theorem ofElement_eq_error :
    ofElement root = .error f ↔
      ∃ file e, root.firstOffence? = some (file, e) ∧ e.Offends file.fileName f := by
  rw [ofElement, addFiles_eq_error]
  exact Prod.exists

theorem exists_firstOffence_iff :
    (∃ file e, root.firstOffence? = some (file, e)) ↔
      ∃ file e, (root.Holds file ∧ file.localName = "file") ∧
        (file.Holds e ∧ e.localName = "error") ∧ e.hasPosition = false := by
  rw [← Prod.exists (p := fun p => root.firstOffence? = some p), ← Option.isSome_iff_exists,
    Element.firstOffence?, List.find?_isSome]
  constructor
  · rintro ⟨⟨file, e⟩, hmem, hbad⟩
    obtain ⟨hfile, he⟩ := Element.mem_pairs.1 hmem
    exact ⟨file, e, hfile, he, by simpa using hbad⟩
  · rintro ⟨file, e, hfile, he, hbad⟩
    exact ⟨(file, e), Element.mem_pairs.2 ⟨hfile, he⟩, by simpa using hbad⟩

theorem exists_error_iff :
    (∃ f, ofElement root = .error f) ↔ ∃ file e, root.firstOffence? = some (file, e) := by
  constructor
  · rintro ⟨f, hrefused⟩
    obtain ⟨file, e, hfirst, _⟩ := ofElement_eq_error.1 hrefused
    exact ⟨file, e, hfirst⟩
  · rintro ⟨file, e, hfirst⟩
    have hbad : e.hasPosition = false := by simpa using List.find?_some hfirst
    obtain ⟨f, hoffends⟩ := (exists_offends_iff file.fileName e).2 hbad
    exact ⟨f, ofElement_eq_error.2 ⟨file, e, hfirst, hoffends⟩⟩

/-- What is wrong with an error element is told with the name of its file. -/
theorem message_of_offends (hoffends : e.Offends file f) :
    ∃ complaint, f.message = "Error element in file '" ++ file ++ "' " ++ complaint := by
  have hspoils : ∃ attributeName, e.Spoils file attributeName f := by
    rcases hoffends with spoils | ⟨_, spoils⟩
    · exact ⟨_, spoils⟩
    · exact ⟨_, spoils⟩
  obtain ⟨attributeName, hspoils⟩ := hspoils
  cases hspoils with
  | missing _ =>
    refine ⟨"misses attribute " ++ Text.quoted attributeName, ?_⟩
    have htext : "' misses attribute " = "' " ++ "misses attribute " := by decide
    change "Error element in file '" ++ file ++ "' misses attribute " ++ _ = _
    simp only [htext, String.append_assoc]
    rfl
  | notNumeral isThere isNoNumeral =>
    rename_i cause
    refine ⟨"has a non-numeric position: " ++ cause.message, ?_⟩
    have htext : "' has a non-numeric position: " = "' " ++ "has a non-numeric position: " := by
      decide
    change "Error element in file '" ++ file ++ "' has a non-numeric position: " ++ _ = _
    simp only [htext, String.append_assoc]
    rfl

/-- The file at a path holds the document of its bytes, or is refused for what is wrong with
them. -/
theorem atPath_eq {t : FileTree} {cwd : Location} {path : Path} {bytes : ByteArray}
    (hread : t.read cwd path.text = .ok bytes) (hxml : Xml.read bytes.toList = .ok root) :
    atPath t cwd path = (ofElement root).mapError fun f => ⟨.document f, path⟩ := by
  rw [atPath, ofFile, hread]
  dsimp only
  rw [ofBytes, hxml]
  dsimp only
  cases ofElement root <;> rfl

/-- A document is refused for the first error element below a file element that has no position:
the file elements come in the order of the document, and so do the error elements below each.
There is such a fault exactly when there is such an element; error elements outside of all file
elements play no role.  A file of these bytes holds the same document, or it is refused for the
same reason, with its path. -/
theorem refused_for_firstOffence (root : Element) :
    (∀ f, ofElement root = .error f ↔
      ∃ file e, root.firstOffence? = some (file, e) ∧ e.Offends file.fileName f) ∧
    (∀ file e f, Element.Offends file e f →
      ∃ complaint, f.message = "Error element in file '" ++ file ++ "' " ++ complaint) ∧
    ((∃ f, ofElement root = .error f) ↔
      ∃ file e, (root.Holds file ∧ file.localName = "file") ∧
        (file.Holds e ∧ e.localName = "error") ∧ e.hasPosition = false) ∧
    (∀ change, ofElement (root.changedOutside change) = ofElement root) ∧
    (∀ (t : FileTree) (cwd : Location) (path : Path) (bytes : ByteArray),
      t.read cwd path.text = .ok bytes → Xml.read bytes.toList = .ok root →
        (∀ d, atPath t cwd path = .ok d ↔ ofElement root = .ok d) ∧
        ∀ r, atPath t cwd path = .error r ↔
          ∃ f, ofElement root = .error f ∧ r = ⟨.document f, path⟩ ∧
            r.fault.reason = f.message ∧ r.message = f.message ++ "\nPath: " ++ path.text) := by
  refine ⟨fun f => ofElement_eq_error, fun _ _ _ hoffends => message_of_offends hoffends,
    exists_error_iff.trans exists_firstOffence_iff, fun change => ?_, ?_⟩
  · rw [ofElement, ofElement, Element.named_file_changedOutside]
  · intro t cwd path bytes hread hxml
    rw [atPath_eq hread hxml]
    refine ⟨fun d => mapError_eq_ok, fun r => ?_⟩
    rw [mapError_eq_error]
    constructor
    · rintro ⟨f, hrefused, rfl⟩
      exact ⟨f, hrefused, rfl, rfl, rfl⟩
    · rintro ⟨f, hrefused, rfl, _⟩
      exact ⟨f, hrefused, rfl⟩

/-- A document with an error element that lacks everything outside of all file elements, and below
a file element two that are wrong; the first stands below another file element inside of it. -/
def offendingText : String :=
  "<b><error/><file name=\"a.kt\"><g><file name=\"b.kt\"><error line=\"x\"/></file></g>" ++
    "<error column=\"1\"/></file></b>"

def offendingTree : FileTree :=
  ⟨[(["w"], .directory), (["w", "b.xml"], .file 0)], [(0, offendingText.toUTF8)], 1⟩

def offendingRoot : Element :=
  ((Xml.read offendingText.toUTF8.toList).toOption).getD (.node "" [] "" [])

/-- It is refused for the inner error element, which is met below the outer file element first. -/
theorem refused_offendingTree :
    ∃ r, atPath offendingTree ["w"] (.ofString "b.xml") = .error r ∧
      ofElement offendingRoot = .error (.notNumeral "a.kt" (.malformed "x")) ∧
      r.fault = .document (.notNumeral "a.kt" (.malformed "x")) ∧ r.path = .ofString "b.xml" := by
  have hxml : Xml.read offendingText.toUTF8.toList = .ok offendingRoot :=
    eq_ok_getD _ (by decide +kernel)
  obtain ⟨hfirst, _, _, _, hfile⟩ := refused_for_firstOffence offendingRoot
  have hread : offendingTree.read ["w"] (Path.ofString "b.xml").text =
      .ok offendingText.toUTF8 := by
    rfl
  have hpair : (offendingRoot.firstOffence?.map fun p =>
      (p.1.fileName, p.2.attribute? "line")) = some ("a.kt", some "x") := by
    decide +kernel
  obtain ⟨⟨file, e⟩, hpair, hnames⟩ := Option.map_eq_some_iff.1 hpair
  obtain ⟨hname, hline⟩ := Prod.mk.inj hnames
  have hoffends : e.Offends "a.kt" (.notNumeral "a.kt" (.malformed "x")) :=
    .line (.notNumeral hline (by decide +kernel))
  have hrefused : ofElement offendingRoot = .error (.notNumeral "a.kt" (.malformed "x")) := by
    apply (hfirst _).2
    refine ⟨file, e, hpair, ?_⟩
    rw [show file.fileName = "a.kt" from hname]
    exact hoffends
  refine ⟨_, ((hfile _ _ _ _ hread hxml).2 _).2 ⟨_, hrefused, rfl, rfl, rfl⟩, hrefused, rfl, rfl⟩

end Document

end Baseline

end FindingLedger
