/-
Texts that are put into marked ones.

Escaping a text keeps what would be a tag from being one.  Where the text stands in a marked
one, in front of a tag, it is shown as it was, up to two things that escaping does not care
for: backslashes that stand before a bracket that opens no tag, and some at the end.
-/
import FindingLedger.Proofs.Console.Names

namespace FindingLedger

namespace Markup

variable {cs rest inside after : List Char}

/-! ## Tags -/

def isBracket (c : Char) : Bool := c == '[' || c == ']'

theorem not_isBracket_of_startsTag {c : Char} (hc : startsTag c = true) : isBracket c = false := by
  rw [isBracket, Bool.or_eq_false_iff, beq_eq_false_iff_ne, beq_eq_false_iff_ne]
  constructor
  · rintro rfl
    exact absurd hc (by decide)
  · rintro rfl
    exact absurd hc (by decide)

/-- A tag goes up to the next bracket, if this closes it. -/
theorem tag?_cons {c : Char} (hc : startsTag c = true) (rest : List Char) :
    tag? (c :: rest) =
      match rest.dropWhile fun d => !isBracket d with
      | ']' :: after => some (c :: rest.takeWhile fun d => !isBracket d, after)
      | _ => none := by
  have hsame : (fun d : Char => d != '[' && d != ']') = fun d => !isBracket d := by
    funext d
    simp [isBracket, bne]
  have hparts := List.takeWhile_append_dropWhile (p := fun d => !isBracket d) (l := rest)
  have hdrop := congrArg (List.drop (rest.takeWhile fun d => !isBracket d).length) hparts
  rw [List.drop_left] at hdrop
  rw [tag?, hc, hsame]
  dsimp only
  rw [← hdrop]
  rfl

/-- A tag is opened by a character that may start one, where the next bracket closes. -/
theorem isSome_tag?_iff :
    (tag? cs).isSome = true ↔
      (∃ c ∈ cs.head?, startsTag c = true) ∧ cs.find? isBracket = some ']' := by
  cases cs with
  | nil => simp [tag?]
  | cons c rest =>
    cases hstart : startsTag c with
    | false => simp [tag?, hstart]
    | true =>
      have hbracket := not_isBracket_of_startsTag hstart
      rw [tag?_cons hstart, List.find?_cons_of_neg (by simp [hbracket]),
        List.find?_eq_head?_dropWhile_not]
      simp only [List.head?_cons, Option.mem_def, Option.some.injEq, exists_eq_left', hstart,
        true_and]
      split
      · next heq => simp [heq]
      · next hother =>
        simp only [Option.isSome_none, Bool.false_eq_true, false_iff]
        intro hhead
        obtain ⟨after, heq⟩ := List.head?_eq_some_iff.1 hhead
        exact hother after heq

theorem tag?_eq_none_of_head? (hhead : ∀ c ∈ cs.head?, startsTag c = false) : tag? cs = none := by
  rw [← Option.not_isSome_iff_eq_none]
  intro hsome
  obtain ⟨⟨c, hc, hstart⟩, _⟩ := isSome_tag?_iff.1 hsome
  exact Bool.false_ne_true ((hhead c hc).symm.trans hstart)

theorem tag?_eq_some (htag : tag? cs = some (inside, after)) :
    cs = inside ++ ']' :: after ∧ (∃ c more, inside = c :: more ∧ startsTag c = true) ∧
      ∀ d ∈ inside, isBracket d = false := by
  obtain ⟨⟨c, hhead, hc⟩, _⟩ := isSome_tag?_iff.1 (Option.isSome_of_eq_some htag)
  obtain ⟨rest, rfl⟩ := List.head?_eq_some_iff.1 hhead
  rw [tag?_cons hc] at htag
  split at htag
  · next more heq =>
    obtain ⟨rfl, rfl⟩ := Prod.mk.inj (Option.some.inj htag)
    have hparts := List.takeWhile_append_dropWhile (p := fun d => !isBracket d) (l := rest)
    rw [heq] at hparts
    refine ⟨by rw [List.cons_append, hparts], ⟨c, _, rfl, hc⟩, ?_⟩
    refine List.forall_mem_cons.2 ⟨not_isBracket_of_startsTag hc, fun d hd => ?_⟩
    simpa using List.mem_takeWhile_imp hd
  · cases htag

theorem tag?_append (hstart : ∃ c more, inside = c :: more ∧ startsTag c = true)
    (hinside : ∀ d ∈ inside, isBracket d = false) (after : List Char) :
    tag? (inside ++ ']' :: after) = some (inside, after) := by
  obtain ⟨c, more, rfl, hc⟩ := hstart
  have hclear : ∀ d ∈ more, (!isBracket d) = true := fun d hd => by
    rw [hinside d (List.mem_cons_of_mem c hd)]
    rfl
  have hclose : isBracket ']' = true := rfl
  rw [List.cons_append, tag?_cons hc, List.takeWhile_append_of_pos hclear,
    List.dropWhile_append_of_pos hclear]
  simp [hclose]

/-! ## Escaped texts -/

abbrev slashes (n : Nat) : List Char := List.replicate n '\\'

variable {k : Nat}

theorem escapeTags_slash (k : Nat) (rest : List Char) :
    escapeTags k ('\\' :: rest) = escapeTags (k + 1) rest := by
  rw [escapeTags]
  rfl

theorem escapeTags_tag (k : Nat) (htag : (tag? rest).isSome = true) :
    escapeTags k ('[' :: rest) = slashes (2 * k + 1) ++ '[' :: escapeTags 0 rest := by
  rw [escapeTags]
  simp [htag]

theorem escapeTags_other {c : Char} (k : Nat) (hc : c ≠ '\\')
    (htag : c = '[' → tag? rest = none) :
    escapeTags k (c :: rest) = slashes k ++ c :: escapeTags 0 rest := by
  rw [escapeTags]
  have hnot : (c == '[' && (tag? rest).isSome) = false := by
    rw [Bool.and_eq_false_iff, beq_eq_false_iff_ne]
    by_cases hopen : c = '['
    · exact Or.inr (by rw [htag hopen]; rfl)
    · exact Or.inl hopen
  simp [hc, hnot]

theorem opens_cases (c : Char) (rest : List Char) :
    c = '\\' ∨ c = '[' ∧ (tag? rest).isSome = true ∨
      c ≠ '\\' ∧ (c = '[' → tag? rest = none) := by
  by_cases hslash : c = '\\'
  · exact Or.inl hslash
  · by_cases htag : c = '[' ∧ (tag? rest).isSome = true
    · exact Or.inr (Or.inl htag)
    · refine Or.inr (Or.inr ⟨hslash, fun hopen => ?_⟩)
      simpa [hopen] using htag

theorem escapeTags_clear {c : Char} {clear : List Char} (k : Nat)
    (hclear : ∀ d ∈ clear, isBracket d = false) (hslash : c ≠ '\\') (hopen : c ≠ '[')
    (rest : List Char) :
    escapeTags k (clear ++ c :: rest) = slashes k ++ clear ++ c :: escapeTags 0 rest := by
  induction clear generalizing k with
  | nil =>
    rw [List.nil_append, escapeTags_other k hslash fun h => absurd h hopen, List.append_nil]
  | cons d clear ih =>
    have hmore : ∀ e ∈ clear, isBracket e = false :=
      fun e he => hclear e (List.mem_cons_of_mem d he)
    rw [List.cons_append]
    by_cases hd : d = '\\'
    · rw [hd, escapeTags_slash, ih (k + 1) hmore, slashes, List.replicate_succ']
      simp
    · have hbracket : d ≠ '[' := by
        rintro rfl
        exact absurd (hclear '[' List.mem_cons_self) (by decide)
      rw [escapeTags_other k hd fun h => absurd h hbracket, ih 0 hmore]
      simp

theorem find?_escapeTags (k : Nat) (cs : List Char) :
    (escapeTags k cs).find? isBracket = cs.find? isBracket := by
  have hslashes (n : Nat) (rest : List Char) :
      (slashes n ++ rest).find? isBracket = rest.find? isBracket := by
    induction n with
    | zero => rfl
    | succ n ih => exact ih
  induction cs generalizing k with
  | nil => simpa [escapeTags] using hslashes k []
  | cons c rest ih =>
    rcases opens_cases c rest with rfl | ⟨rfl, htag⟩ | ⟨hslash, hopen⟩
    · rw [escapeTags_slash, ih]
      rfl
    · rw [escapeTags_tag k htag, hslashes]
      rfl
    · rw [escapeTags_other k hslash hopen, hslashes, List.find?_cons, List.find?_cons, ih]

theorem head?_escapeTags_succ (k : Nat) (cs : List Char) :
    (escapeTags (k + 1) cs).head? = some '\\' := by
  induction cs generalizing k with
  | nil => rfl
  | cons c rest ih =>
    rcases opens_cases c rest with rfl | ⟨rfl, htag⟩ | ⟨hslash, hopen⟩
    · rw [escapeTags_slash, ih]
    · rw [escapeTags_tag _ htag]
      rfl
    · rw [escapeTags_other _ hslash hopen]
      rfl

/-- Where no tag is opened, none is in the escaped text, whatever stands behind it, as long as
this closes none. -/
theorem tag?_escapeTags {behind : List Char} (hnone : tag? cs = none)
    (hbehind : tag? behind = none) (hcloses : behind.find? isBracket ≠ some ']') :
    tag? (escapeTags 0 cs ++ behind) = none := by
  rw [← Option.not_isSome_iff_eq_none] at hnone hbehind ⊢
  cases cs with
  | nil => exact hbehind
  | cons c rest =>
    intro hsome
    obtain ⟨⟨d, hhead, hd⟩, hfind⟩ := isSome_tag?_iff.1 hsome
    rw [List.find?_append, find?_escapeTags] at hfind
    apply hnone
    apply isSome_tag?_iff.2
    -- A tag that opens in the escaped text opens in the text itself, and closes there too.
    constructor
    · rcases opens_cases c rest with rfl | ⟨rfl, htag⟩ | ⟨hslash, hopen⟩
      · rw [escapeTags_slash, List.head?_append, head?_escapeTags_succ] at hhead
        obtain rfl : '\\' = d := Option.some.inj hhead
        exact absurd hd (by decide)
      · rw [escapeTags_tag 0 htag] at hhead
        obtain rfl : '\\' = d := Option.some.inj hhead
        exact absurd hd (by decide)
      · rw [escapeTags_other 0 hslash hopen] at hhead
        exact ⟨d, hhead, hd⟩
    · cases hfound : (c :: rest).find? isBracket with
      | none =>
        rw [hfound] at hfind
        exact absurd hfind hcloses
      | some b =>
        rw [hfound] at hfind
        exact hfind

/-- Where one is opened, it is there in the escaped text. -/
theorem tag?_escapeTags_of_some (htag : tag? cs = some (inside, after)) (behind : List Char) :
    tag? (escapeTags 0 cs ++ behind) = some (inside, escapeTags 0 after ++ behind) := by
  obtain ⟨rfl, hstart, hinside⟩ := tag?_eq_some htag
  rw [escapeTags_clear 0 hinside (by decide) (by decide)]
  simpa using tag?_append hstart hinside (escapeTags 0 after ++ behind)

/-! ## Backslashes at the end -/

/-- How many backslashes stand at the end. -/
def trail (cs : List Char) : Nat := (cs.reverse.takeWhile (· == '\\')).length

theorem trail_slashes (k : Nat) : trail (slashes k) = k := by
  rw [trail, List.reverse_replicate, List.takeWhile_eq_self_iff.2 (by simp), List.length_replicate]

/-- What stands before another character plays no role. -/
theorem trail_append_cons {c : Char} (hc : c ≠ '\\') (before rest : List Char) :
    trail (before ++ c :: rest) = trail rest := by
  have hstop : (c == '\\') = false := beq_eq_false_iff_ne.2 hc
  rw [trail, trail, List.reverse_append, List.reverse_cons, List.append_assoc,
    List.takeWhile_append]
  split
  · next hall => simpa [hstop] using hall.symm
  · rfl

theorem slashes_append_slash (k : Nat) (rest : List Char) :
    slashes k ++ '\\' :: rest = slashes (k + 1) ++ rest := by
  rw [slashes, slashes, List.replicate_succ', List.append_assoc]
  rfl

theorem trail_escapeTags (k : Nat) (cs : List Char) :
    trail (escapeTags k cs) = trail (slashes k ++ cs) := by
  induction cs generalizing k with
  | nil => rw [escapeTags, List.append_nil]
  | cons c rest ih =>
    rcases opens_cases c rest with rfl | ⟨rfl, htag⟩ | ⟨hslash, hopen⟩
    · rw [escapeTags_slash, ih, slashes_append_slash]
    · rw [escapeTags_tag k htag, trail_append_cons (by decide), trail_append_cons (by decide), ih 0]
      rfl
    · rw [escapeTags_other k hslash hopen, trail_append_cons hslash, trail_append_cons hslash, ih 0]
      rfl

theorem ends_eq (cs : List Char) :
    (match cs.reverse with
      | '\\' :: '\\' :: _ => false
      | '\\' :: _ => true
      | _ => false) = decide (trail cs = 1) := by
  rw [trail]
  generalize cs.reverse = back
  split
  · simp
  · next more hone =>
    cases more with
    | nil => simp
    | cons d more =>
      have hd : d ≠ '\\' := fun h => hone more (by rw [h])
      simp [hd]
  · next hnone =>
    cases back with
    | nil => simp
    | cons d more =>
      have hd : d ≠ '\\' := fun h => hnone more (by rw [h])
      simp [hd]

/-- The backslash that is added where one stands alone at the end. -/
def endSlash (cs : List Char) : List Char := if trail cs = 1 then ['\\'] else []

/-- A backslash alone at the end is doubled. -/
theorem toList_escape (s : String) :
    (escape s).toList = escapeTags 0 s.toList ++ endSlash s.toList := by
  have htrail : trail (escapeTags 0 s.toList) = trail s.toList := trail_escapeTags 0 _
  have hends : escape s = String.ofList
      (if trail s.toList = 1 then escapeTags 0 s.toList ++ ['\\'] else escapeTags 0 s.toList) := by
    have hends := ends_eq (escapeTags 0 s.toList)
    rw [htrail] at hends
    refine Eq.trans (congrArg (fun ends : Bool => String.ofList
      (if ends then escapeTags 0 s.toList ++ ['\\'] else escapeTags 0 s.toList)) hends) ?_
    simp
  rw [hends, String.toList_ofList, endSlash]
  split
  · rfl
  · rw [List.append_nil]

end Markup

end FindingLedger
