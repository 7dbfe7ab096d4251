/-
The text of a path.

A path that was read is found again in its own text, so texts of paths can be read as often
as one likes.
-/
import FindingLedger.Path
import Mathlib.Init

namespace FindingLedger

namespace Path

/-- What stands between slashes and says something: no slash, nothing empty, no single
point. -/
def IsPlain (segments : List String) : Prop :=
  ∀ s ∈ segments, s ≠ "" ∧ '/' ∉ s.toList ∧ s ≠ "."

theorem splitSlashes_eq (done cs : List Char) :
    splitSlashes done cs = List.splitOnPPrepend (· == '/') cs done := by
  induction cs generalizing done with
  | nil => rfl
  | cons c rest ih =>
    rw [splitSlashes, List.splitOnPPrepend_cons_eq_if]
    by_cases hc : (c == '/') = true
    · rw [if_pos hc, if_pos hc, ih, List.splitOnPPrepend_nil_right]
    · rw [if_neg hc, if_neg hc, ih]

theorem pieces_eq (s : String) :
    pieces s = ((s.toList.splitOn '/').filter fun p => !p.isEmpty).map String.ofList := by
  rw [pieces, splitSlashes_eq]
  rfl

theorem not_mem_of_mem_splitSlashes {done cs piece : List Char} (hdone : '/' ∉ done)
    (hpiece : piece ∈ splitSlashes done cs) : '/' ∉ piece := by
  induction cs generalizing done with
  | nil =>
    rw [List.mem_singleton.1 hpiece]
    simpa using hdone
  | cons c rest ih =>
    rw [splitSlashes] at hpiece
    by_cases hc : (c == '/') = true
    · rw [if_pos hc] at hpiece
      rcases List.mem_cons.1 hpiece with rfl | hrest
      · simpa using hdone
      · exact ih List.not_mem_nil hrest
    · rw [if_neg hc] at hpiece
      have hne : '/' ≠ c := fun heq => hc (by rw [← heq]; rfl)
      exact ih (fun hmem => (List.mem_cons.1 hmem).elim hne hdone) hpiece

theorem mem_of_mem_splitSlashes {done cs piece : List Char} (hpiece : piece ∈ splitSlashes done cs)
    {c : Char} (hc : c ∈ piece) : c ∈ done ∨ c ∈ cs := by
  induction cs generalizing done with
  | nil =>
    rw [List.mem_singleton.1 hpiece] at hc
    exact Or.inl (List.mem_reverse.1 hc)
  | cons c' rest ih =>
    rw [splitSlashes] at hpiece
    split at hpiece
    · rcases List.mem_cons.1 hpiece with rfl | hpiece
      · exact Or.inl (List.mem_reverse.1 hc)
      · rcases ih hpiece with hdone | hrest
        · cases hdone
        · exact Or.inr (List.mem_cons_of_mem _ hrest)
    · rcases ih hpiece with hdone | hrest
      · rcases List.mem_cons.1 hdone with rfl | hdone
        · exact Or.inr List.mem_cons_self
        · exact Or.inl hdone
      · exact Or.inr (List.mem_cons_of_mem _ hrest)

theorem mem_of_mem_pieces {s piece : String} (hpiece : piece ∈ pieces s) {c : Char}
    (hc : c ∈ piece.toList) : c ∈ s.toList := by
  obtain ⟨cs, hcs, rfl⟩ := List.mem_map.1 hpiece
  rw [String.toList_ofList] at hc
  exact (mem_of_mem_splitSlashes (List.mem_filter.1 hcs).1 hc).resolve_left List.not_mem_nil

/-- A piece is not empty and has no slash. -/
theorem mem_pieces_plain {s piece : String} (hpiece : piece ∈ pieces s) :
    piece ≠ "" ∧ '/' ∉ piece.toList := by
  obtain ⟨cs, hcs, rfl⟩ := List.mem_map.1 hpiece
  obtain ⟨hsplit, hfull⟩ := List.mem_filter.1 hcs
  constructor
  · intro hempty
    have hnil : cs = [] := by simpa using congrArg String.toList hempty
    rw [hnil] at hfull
    exact absurd hfull Bool.false_ne_true
  · rw [String.toList_ofList]
    exact not_mem_of_mem_splitSlashes List.not_mem_nil hsplit

theorem isPlain_ofString (s : String) : IsPlain (ofString s).segments := by
  intro x hx
  obtain ⟨hpiece, hpoint⟩ := List.mem_filter.1 hx
  obtain ⟨hfull, hslash⟩ := mem_pieces_plain hpiece
  exact ⟨hfull, hslash, by simpa using hpoint⟩

theorem pieces_intercalate {segments : List String} (hplain : IsPlain segments) :
    pieces ("/".intercalate segments) = segments := by
  cases segments with
  | nil => rfl
  | cons s rest =>
    rw [pieces_eq, String.toList_intercalate]
    have hslash : "/".toList = ['/'] := rfl
    rw [hslash, List.splitOn_intercalate '/' (by
        intro cs hcs
        obtain ⟨x, hx, rfl⟩ := List.mem_map.1 hcs
        exact (hplain x hx).2.1) (by simp), List.filter_eq_self.2, List.map_map]
    · simp
    · intro cs hcs
      obtain ⟨x, hx, rfl⟩ := List.mem_map.1 hcs
      have hne := (hplain x hx).1
      simpa using hne

theorem pieces_slash (s : String) : pieces ("/" ++ s) = pieces s := by
  rw [pieces_eq, pieces_eq, String.toList_append]
  have hfront : "/".toList ++ s.toList = [] ++ '/' :: s.toList := rfl
  rw [hfront, List.splitOn_append_cons_self]
  rfl

/-- Segments with slashes between them do not start with a slash. -/
theorem head?_intercalate_ne {segments : List String} (hplain : IsPlain segments) :
    ("/".intercalate segments).toList.head? ≠ some '/' := by
  cases segments with
  | nil => nofun
  | cons s rest =>
    obtain ⟨hne, hslash, _⟩ := hplain s List.mem_cons_self
    have hcons : s.toList ≠ [] := fun hnil => hne (String.toList_inj.1 hnil)
    obtain ⟨c, cs, hc⟩ := List.exists_cons_of_ne_nil hcons
    have hhead : ("/".intercalate (s :: rest)).toList.head? = some c := by
      rw [String.toList_intercalate, List.map_cons, hc]
      cases rest with
      | nil => simp
      | cons x xs => simp
    rw [hhead]
    intro heq
    apply hslash
    rw [hc, ← Option.some.inj heq]
    exact List.mem_cons_self

theorem anchorOf_here {cs : List Char} (hhead : cs.head? ≠ some '/') : anchorOf cs = .here := by
  unfold anchorOf
  split
  · exact absurd rfl hhead
  · exact absurd rfl hhead
  · exact absurd rfl hhead
  · rfl

theorem anchorOf_root {cs : List Char} (hhead : cs.head? ≠ some '/') :
    anchorOf ('/' :: cs) = .root := by
  cases cs with
  | nil => rfl
  | cons c rest =>
    unfold anchorOf
    split
    · rfl
    · rename_i heq
      rw [List.cons.inj heq |>.2] at hhead
      exact absurd rfl hhead
    · rfl
    · rename_i hno
      exact absurd rfl (hno _)

theorem anchorOf_doubleRoot {cs : List Char} (hhead : cs.head? ≠ some '/') :
    anchorOf ('/' :: '/' :: cs) = .doubleRoot := by
  unfold anchorOf
  split
  · rename_i heq
    rw [List.cons.inj (List.cons.inj heq).2 |>.2] at hhead
    exact absurd rfl hhead
  · rfl
  · rename_i hno heq
    exact absurd (List.cons.inj heq).2.symm (hno _)
  · rename_i hno
    exact absurd rfl (hno _)

/-- A path that starts at the root has a slash in front. -/
theorem head?_text {p : Path} (habsolute : p.anchor ≠ .here) :
    p.text.toList.head? = some '/' := by
  obtain ⟨anchor, segments⟩ := p
  cases anchor with
  | here => exact absurd rfl habsolute
  | root =>
    have htext : text ⟨.root, segments⟩ = "/" ++ "/".intercalate segments := rfl
    rw [htext, String.toList_append]
    rfl
  | doubleRoot =>
    have htext : text ⟨.doubleRoot, segments⟩ = "//" ++ "/".intercalate segments := rfl
    rw [htext, String.toList_append]
    rfl

theorem ofString_text {p : Path} (hplain : IsPlain p.segments) : ofString p.text = p := by
  obtain ⟨anchor, segments⟩ := p
  have hhead := head?_intercalate_ne hplain
  have hkept : (pieces ("/".intercalate segments)).filter (· != ".") = segments := by
    rw [pieces_intercalate hplain, List.filter_eq_self]
    exact fun s hs => bne_iff_ne.2 (hplain s hs).2.2
  cases anchor with
  | here =>
    cases segments with
    | nil => rfl
    | cons s rest =>
      have htext : text ⟨.here, s :: rest⟩ = "/".intercalate (s :: rest) := by
        change "" ++ "/".intercalate (s :: rest) = _
        exact String.empty_append
      rw [htext, ofString, anchorOf_here hhead, hkept]
  | root =>
    have htext : text ⟨.root, segments⟩ = "/" ++ "/".intercalate segments := rfl
    rw [htext, ofString, pieces_slash, hkept]
    have hanchor : anchorOf ("/" ++ "/".intercalate segments).toList = .root := by
      rw [String.toList_append]
      exact anchorOf_root hhead
    rw [hanchor]
  | doubleRoot =>
    have htext : text ⟨.doubleRoot, segments⟩ = "/" ++ ("/" ++ "/".intercalate segments) := by
      rw [← String.append_assoc]
      rfl
    rw [htext, ofString, pieces_slash, pieces_slash, hkept]
    have hanchor : anchorOf ("/" ++ ("/" ++ "/".intercalate segments)).toList = .doubleRoot := by
      rw [String.toList_append, String.toList_append]
      exact anchorOf_doubleRoot hhead
    rw [hanchor]

/-- The text of a path that was read is read as the same path. -/
theorem ofString_text_ofString (s : String) : ofString (ofString s).text = ofString s :=
  ofString_text (isPlain_ofString s)

theorem isBlankText_eq_false {s : String} (hslash : '/' ∈ s.toList) :
    Text.isBlankText s = false := by
  rw [Text.isBlankText, List.all_eq_false]
  exact ⟨'/', hslash, by decide⟩

theorem isBlankText_text {p : Path} :
    Text.isBlankText p.text = true ↔
      ∃ name, p = ⟨.here, [name]⟩ ∧ Text.isBlankText name = true := by
  constructor
  · intro hblank
    obtain ⟨anchor, segments⟩ := p
    -- A slash is no blank, so only a path of one name can be blank.
    have hnot : ∀ tail : String, ¬ Text.isBlankText ("/" ++ tail) = true := by
      intro tail
      rw [isBlankText_eq_false (by rw [String.toList_append]; exact List.mem_cons_self)]
      exact Bool.false_ne_true
    cases anchor with
    | here =>
      cases segments with
      | nil => exact absurd hblank (by decide)
      | cons name rest =>
        have htext : text ⟨.here, name :: rest⟩ = "/".intercalate (name :: rest) :=
          String.empty_append
        rw [htext] at hblank
        cases rest with
        | nil => exact ⟨name, rfl, hblank⟩
        | cons next rest =>
          rw [isBlankText_eq_false (by rw [String.toList_intercalate]; simp)] at hblank
          cases hblank
    | root => exact absurd hblank (hnot _)
    | doubleRoot =>
      have htext : text ⟨.doubleRoot, segments⟩ = "/" ++ ("/" ++ "/".intercalate segments) := by
        rw [← String.append_assoc]
        rfl
      rw [htext] at hblank
      exact absurd hblank (hnot _)
  · rintro ⟨name, rfl, hblank⟩
    have htext : text ⟨.here, [name]⟩ = name := String.empty_append
    rw [htext]
    exact hblank

end Path

end FindingLedger
