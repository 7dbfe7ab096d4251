/-
Names without a colon, as a scanner takes them.

A name is taken as a whole when something stands behind it that ends it.  It has no
prefix, so it is in no namespace.
-/
import FindingLedger.Xml.Namespace
import Mathlib.Init

namespace FindingLedger

namespace Xml

/-- Whether a text is a name without a colon. -/
def isName : List Char → Bool
  | [] => false
  | c :: rest => isNameStart c && rest.all isNameChar

/-- Whether a character behind a name ends it, also one that could have a colon. -/
def endsName (c : Char) : Bool := !isNameChar c && c != ':' && c != cutChar

theorem endsName_iff {c : Char} :
    endsName c = true ↔ isNameChar c = false ∧ c ≠ ':' ∧ c ≠ cutChar := by
  simp [endsName, and_assoc]

theorem isNameStart_utf8 (c : Char) : Encoding.utf8.isNameStart c = isNameStart c := by
  rw [Encoding.isNameStart]
  exact Bool.or_false _

theorem isNameChar_utf8 (c : Char) : Encoding.utf8.isNameChar c = isNameChar c := by
  rw [Encoding.isNameChar]
  exact Bool.or_false _

theorem exists_cons_of_isName {name : List Char} (hname : isName name = true) :
    ∃ c rest, name = c :: rest ∧ isNameStart c = true ∧ ∀ d ∈ rest, isNameChar d = true := by
  cases name with
  | nil => cases hname
  | cons c rest =>
    rw [isName, Bool.and_eq_true, List.all_eq_true] at hname
    exact ⟨c, rest, rfl, hname.1, hname.2⟩

theorem isNameChar_of_mem_name {name : List Char} (hname : isName name = true) {c : Char}
    (hmem : c ∈ name) : isNameChar c = true := by
  obtain ⟨first, rest, rfl, hfirst, hrest⟩ := exists_cons_of_isName hname
  rcases List.mem_cons.1 hmem with rfl | hmem
  · exact isNameChar_of_isNameStart hfirst
  · exact hrest c hmem

theorem not_mem_name {name : List Char} (hname : isName name = true) {c : Char}
    (hc : isNameChar c = false) : c ∉ name := by
  intro hmem
  rw [isNameChar_of_mem_name hname hmem] at hc
  cases hc

theorem ne_of_isNameStart {c d : Char} (hc : isNameStart c = true) (hd : isNameStart d = false) :
    c ≠ d := by
  rintro rfl
  rw [hc] at hd
  cases hd

theorem takeWhile_append_stop {p : Char → Bool} {cs rest : List Char} {c : Char}
    (hcs : ∀ d ∈ cs, p d = true) (hc : p c = false) :
    (cs ++ c :: rest).takeWhile p = cs := by
  rw [List.takeWhile_append_of_pos hcs, List.takeWhile_cons_of_neg (by rw [hc]; simp),
    List.append_nil]

theorem dropWhile_append_stop {p : Char → Bool} {cs rest : List Char} {c : Char}
    (hcs : ∀ d ∈ cs, p d = true) (hc : p c = false) :
    (cs ++ c :: rest).dropWhile p = c :: rest := by
  rw [List.dropWhile_append_of_pos hcs, List.dropWhile_cons_of_neg (by rw [hc]; simp)]

theorem andThen_found {α β : Type} (value : α) (pos : Nat) (rest : List Char)
    (next : α → Nat → List Char → Scan β) :
    (Scan.found value pos rest).andThen next = next value pos rest := rfl

theorem unlessCut_cons {α : Type} {c : Char} (hc : c ≠ cutChar) (rest : List Char) (s : Scan α) :
    Scan.unlessCut (c :: rest) s = s := by
  rw [Scan.unlessCut, List.head?_cons, if_neg (by simpa using hc)]

theorem scanName_append {name : List Char} {c : Char} (hname : isName name = true)
    (hend : endsName c = true) (pos : Nat) (rest : List Char) :
    scanName .utf8 pos (name ++ c :: rest) = .found name (pos + name.length) (c :: rest) := by
  obtain ⟨first, more, rfl, hfirst, hmore⟩ := exists_cons_of_isName hname
  obtain ⟨hchar, _, hcut⟩ := endsName_iff.1 hend
  have hmore' : ∀ d ∈ more, Encoding.utf8.isNameChar d = true := fun d hd => by
    rw [isNameChar_utf8]
    exact hmore d hd
  have hchar' : Encoding.utf8.isNameChar c = false := by rw [isNameChar_utf8, hchar]
  rw [List.cons_append, scanName, if_pos (by rw [isNameStart_utf8, hfirst])]
  dsimp only
  rw [takeWhile_append_stop hmore' hchar', dropWhile_append_stop hmore' hchar',
    unlessCut_cons hcut, List.length_cons]
  congr 1
  omega

theorem scanQualified_append {name : List Char} {c : Char} (hname : isName name = true)
    (hend : endsName c = true) (pos : Nat) (rest : List Char) :
    scanQualified .utf8 pos (name ++ c :: rest) =
      .found name (pos + name.length) (c :: rest) := by
  have hcolon : c ≠ ':' := (endsName_iff.1 hend).2.1
  rw [scanQualified, scanName_append hname hend, andThen_found]
  split
  · next heq =>
    cases heq
    exact absurd rfl hcolon
  · rfl

theorem splitQualified_of_isName {name : List Char} (hname : isName name = true) :
    splitQualified name = none := by
  have hcolon : ':' ∉ name := not_mem_name hname (by decide)
  have hother : ∀ c ∈ name, (c != ':') = true := fun c hc => by
    rw [bne_iff_ne]
    rintro rfl
    exact hcolon hc
  have hdrop : (name ++ []).dropWhile (· != ':') = [].dropWhile (· != ':') :=
    List.dropWhile_append_of_pos hother
  rw [List.append_nil, List.dropWhile_nil] at hdrop
  rw [splitQualified, hdrop]

/-- A tag without a prefix keeps its name where no default namespace is bound. -/
theorem resolveTag_of_isName {name : List Char} (hname : isName name = true) :
    resolveTag .initial name = .ok name := by
  rw [resolveTag, splitQualified_of_isName hname]
  rfl

theorem resolveAttributes_of_isName {attributes : List (List Char × List Char)}
    (hnames : ∀ a ∈ attributes, isName a.1 = true) (b : Bindings) (seen : List (List Char)) :
    resolveAttributes b seen attributes = .ok attributes := by
  induction attributes with
  | nil => rfl
  | cons a rest ih =>
    rw [resolveAttributes, splitQualified_of_isName (hnames a List.mem_cons_self)]
    dsimp only
    rw [ih fun a' ha' => hnames a' (List.mem_cons_of_mem a ha')]
    rfl

theorem eq_append_of_isPrefixOf? {start cs rest : List Char}
    (hstart : start.isPrefixOf? cs = some rest) : cs = start ++ rest := by
  induction start generalizing cs with
  | nil =>
    cases hstart
    rfl
  | cons c more ih =>
    cases cs with
    | nil => cases hstart
    | cons d ds =>
      change (if c == d then more.isPrefixOf? ds else none) = some rest at hstart
      by_cases hc : c = d
      · subst hc
        rw [if_pos (beq_self_eq_true c)] at hstart
        rw [ih hstart, List.cons_append]
      · rw [if_neg (by simpa using hc)] at hstart
        cases hstart

/-- A name without a colon binds no prefix, unless it is the one name that does. -/
theorem boundPrefix?_of_isName {name : List Char} (hname : isName name = true)
    (hne : name ≠ "xmlns".toList) : boundPrefix? name = none := by
  unfold boundPrefix?
  split
  · next hstart =>
    have heq := eq_append_of_isPrefixOf? hstart
    rw [List.append_nil] at heq
    exact absurd heq hne
  · next hstart =>
    have heq := eq_append_of_isPrefixOf? hstart
    have hcolon : ':' ∈ name := by
      rw [heq]
      exact List.mem_append_right _ List.mem_cons_self
    exact absurd hcolon (not_mem_name hname (by decide))
  · rfl

end Xml

end FindingLedger
