/-
The route to a path, as it is shown.

For an absolute path the text of the route leads to its place in the fewest steps.  Shown once
more it stays as it is.
-/
import FindingLedger.Proofs.Path.Walk
import Mathlib.Tactic.ByContra

namespace FindingLedger

namespace Path

variable {s : String} {segments start target : List String}

section Pieces

/-- The pieces of a relative path of plain segments are these, or a point. -/
theorem pieces_text (hplain : IsPlain segments) :
    pieces (text ⟨.here, segments⟩) = if segments = [] then ["."] else segments := by
  cases segments with
  | nil => rfl
  | cons s rest =>
    have htext : text ⟨.here, s :: rest⟩ = "/".intercalate (s :: rest) := String.empty_append
    rw [htext, pieces_intercalate hplain, if_neg (List.cons_ne_nil s rest)]

end Pieces

section Shortest

/-- The shortest way from one place to another, as a text.  A text has one segment at least, so
a point says that there is nowhere to go. -/
structure IsShortestRoute (start target : List String) (r : String) : Prop where
  isRelative : (ofString r).isAbsolute = false
  leads : walk start (pieces r) = target
  fewest : ∀ steps, steps ≠ [] → walk start steps = target → (pieces r).length ≤ steps.length
  upFirst : ∃ common down, IsLongestCommonPrefix common start target ∧ ".." ∉ down ∧
    pieces r = List.replicate (start.length - common.length) ".." ++ down
  onlyDown : start <+: target → ".." ∉ pieces r
  isPoint : r = "." ↔ start = target

theorem isPlain_route (htarget : IsPlain target) (start : List String) :
    IsPlain (route start target) := by
  intro s hs
  rcases List.mem_append.1 hs with hup | hdown
  · rw [(List.mem_replicate.1 hup).2]
    decide
  · exact htarget s (List.mem_of_mem_drop hdown)

/-- The text of a route between two places is a point when they are one. -/
theorem text_route_eq_point (htarget : IsPlain target) :
    text ⟨.here, route start target⟩ = "." ↔ start = target := by
  rw [← route_eq_nil]
  constructor
  · intro htext
    by_contra hne
    -- otherwise the point would be a segment of the route
    have hpieces := pieces_text (isPlain_route htarget start)
    rw [htext, if_neg hne] at hpieces
    have hpoint : "." ∈ route start target := by
      rw [← hpieces]
      decide +kernel
    exact (isPlain_route htarget start "." hpoint).2.2 rfl
  · intro hnil
    rw [hnil]
    rfl

theorem isShortestRoute_text (htarget : IsPlain target) (hup : ".." ∉ target) :
    IsShortestRoute start target (text ⟨.here, route start target⟩) := by
  have hpieces := pieces_text (isPlain_route htarget start)
  have hdown : ".." ∉ target.drop (commonLength start target) :=
    fun hmem => hup (List.mem_of_mem_drop hmem)
  refine ⟨?isRelative, ?leads, ?fewest, ?upFirst, ?onlyDown, text_route_eq_point htarget⟩
  case isRelative =>
    rw [ofString_text (isPlain_route htarget start)]
    rfl
  case leads =>
    rw [hpieces]
    split
    · next hnil => exact route_eq_nil.1 hnil
    · exact walk_route (fun s hs => ⟨(htarget s hs).2.2, fun heq => hup (heq ▸ hs)⟩) start
  case fewest =>
    intro steps hsteps hwalk
    rw [hpieces]
    split
    · exact List.length_pos_iff.2 hsteps
    · exact length_route_le hwalk
  case upFirst =>
    refine ⟨_, if route start target = [] then ["."] else target.drop (commonLength start target),
      isLongestCommonPrefix_take start target, ?_, ?_⟩
    · split
      · decide
      · exact hdown
    · rw [hpieces, List.length_take, Nat.min_eq_left (commonLength_le_left start target)]
      split
      · next hnil =>
        rw [route_eq_nil.1 hnil, commonLength_self, Nat.sub_self]
        rfl
      · rfl
  case onlyDown =>
    intro hbelow
    rw [hpieces]
    split
    · decide
    · have hcommon : start.length - commonLength start target = 0 :=
        Nat.sub_eq_zero_of_le (length_le_commonLength List.prefix_rfl hbelow)
      rwa [route, hcommon, List.replicate_zero, List.nil_append]

end Shortest

section Place

/-- The place that an absolute path leads to: its segments, with the points resolved. -/
def placeOf (s : String) : List String := walk [] (pieces s)

theorem resolved_ofString (s : String) : resolved (ofString s).segments = placeOf s := by
  rw [resolved_eq_walk, ofString, walk_filter_point, placeOf]

theorem mem_placeOf {x : String} (hx : x ∈ placeOf s) : x ∈ pieces s ∧ x ≠ "." ∧ x ≠ ".." :=
  (mem_walk hx).resolve_left List.not_mem_nil

theorem isPlain_placeOf (s : String) : IsPlain (placeOf s) := by
  intro x hx
  obtain ⟨hpiece, hpoint, _⟩ := mem_placeOf hx
  exact ⟨(mem_pieces_plain hpiece).1, (mem_pieces_plain hpiece).2, hpoint⟩

end Place

section RelativeRoute

theorem relativeRoute_of_isAbsolute (c : String) (hs : (ofString s).isAbsolute = true) :
    relativeRoute (ofString c) (ofString s) =
      text ⟨.here, route (placeOf c) (placeOf s)⟩ := by
  simp only [relativeRoute, hs, if_true, resolved_ofString]

/-- A relative path without single points is shown as it is. -/
theorem relativeRoute_text (hplain : IsPlain segments) (c : Path) :
    relativeRoute c (ofString (text ⟨.here, segments⟩)) = text ⟨.here, segments⟩ := by
  rw [ofString_text hplain]
  rfl

theorem relativeRoute_again (c s : String) :
    relativeRoute (ofString c) (ofString (relativeRoute (ofString c) (ofString s))) =
      relativeRoute (ofString c) (ofString s) := by
  cases habsolute : (ofString s).isAbsolute with
  | true =>
    rw [relativeRoute_of_isAbsolute c habsolute]
    exact relativeRoute_text (isPlain_route (isPlain_placeOf s) _) _
  | false =>
    have hanchor : (ofString s).anchor = .here := by simpa [isAbsolute] using habsolute
    have hhere : ofString s = ⟨.here, (ofString s).segments⟩ := by rw [← hanchor]
    have hshown : relativeRoute (ofString c) (ofString s) = (ofString s).text := by
      simp [relativeRoute, habsolute]
    rw [hshown, hhere]
    exact relativeRoute_text (isPlain_ofString s) _

/-- From a place to that of an absolute path the route is the shortest one.  Whatever the path is,
what is shown of it stays as it is when it is shown once more. -/
theorem relativeRoute_laws (c s : String) :
    ((ofString s).isAbsolute = true →
      IsShortestRoute (placeOf c) (placeOf s) (relativeRoute (ofString c) (ofString s))) ∧
    relativeRoute (ofString c) (ofString (relativeRoute (ofString c) (ofString s))) =
      relativeRoute (ofString c) (ofString s) := by
  refine ⟨fun hs => ?_, relativeRoute_again c s⟩
  rw [relativeRoute_of_isAbsolute c hs]
  exact isShortestRoute_text (isPlain_placeOf s) fun hmem => (mem_placeOf hmem).2.2 rfl

/-- A neighbour whose name starts the same way, on a path with slashes and points. -/
theorem relativeRoute_laws_sibling :
    let r := relativeRoute (ofString "/a/b") (ofString "/a//x/../bc/./d/")
    (ofString "/a//x/../bc/./d/").isAbsolute = true ∧
      IsShortestRoute ["a", "b"] ["a", "bc", "d"] r ∧
      relativeRoute (ofString "/a/b") (ofString r) = r := by
  have habsolute : (ofString "/a//x/../bc/./d/").isAbsolute = true := by decide +kernel
  have hplaces : placeOf "/a/b" = ["a", "b"] ∧ placeOf "/a//x/../bc/./d/" = ["a", "bc", "d"] := by
    decide +kernel
  obtain ⟨hroute, hagain⟩ := relativeRoute_laws "/a/b" "/a//x/../bc/./d/"
  have hshortest := hroute habsolute
  rw [hplaces.1, hplaces.2] at hshortest
  exact ⟨habsolute, hshortest, hagain⟩

end RelativeRoute

end Path

end FindingLedger
