/-
What is shown of a marked text.

A text that was escaped and stands in front of a tag comes out as pieces which make it up
again.  So it is shown as it is where none of its runs holds the name of a symbol; and in any
case a text without characters that steer a screen is shown on one line.
-/
import FindingLedger.Proofs.Console.Escape

namespace FindingLedger

namespace Markup

variable {c : Char} {cs rest inside after done behind : List Char} {k : Nat} {ps : List Piece}

/-! ## Backslashes before brackets -/

/-- Whether every backslash directly before a bracket stands before one that opens a tag. -/
def keepsSlashes : List Char → Bool
  | [] => true
  | c :: rest =>
    (c != '\\' || rest.head? != some '[' || (tag? rest.tail).isSome) && keepsSlashes rest

theorem keepsSlashes_of_append (before : List Char) (hkeeps : keepsSlashes (before ++ cs) = true) :
    keepsSlashes cs = true := by
  induction before with
  | nil => exact hkeeps
  | cons c before ih =>
    rw [List.cons_append, keepsSlashes, Bool.and_eq_true] at hkeeps
    exact ih hkeeps.2

/-- No backslash stands directly before a bracket. -/
def IsSmooth (cs : List Char) : Prop := ¬ ['\\', '['] <:+: cs

theorem isSmooth_of_not_mem (hopen : '[' ∉ cs) : IsSmooth cs :=
  fun hpart => hopen (hpart.subset (by simp))

theorem isSmooth_bracket_cons (hopen : '[' ∉ cs) : IsSmooth ('[' :: cs) := by
  intro hpart
  rcases List.infix_cons_iff.1 hpart with hstart | hpart
  · have hhead := (List.cons_prefix_cons.1 hstart).1
    exact absurd hhead (by decide)
  · exact isSmooth_of_not_mem hopen hpart

theorem dropSlashes_eq_self (hsmooth : IsSmooth cs) : dropSlashes cs = cs := by
  induction cs with
  | nil => rfl
  | cons c rest ih =>
    have hrest : dropSlashes rest = rest := ih fun hpart => hsmooth (List.infix_cons hpart)
    unfold dropSlashes
    split
    · next more heq =>
      obtain ⟨rfl, rfl⟩ := List.cons.inj heq
      exact absurd (List.prefix_append ['\\', '['] more).isInfix hsmooth
    · next heq =>
      obtain ⟨rfl, rfl⟩ := List.cons.inj heq
      rw [hrest]
    · next heq => cases heq

/-- The plain text at hand, last character first, does not end in a backslash, and none stands
directly before a bracket in it. -/
structure IsSettled (done : List Char) : Prop where
  last : done.head? ≠ some '\\'
  smooth : ¬ ['[', '\\'] <:+: done

theorem IsSettled.isSmooth (hdone : IsSettled done) : IsSmooth done.reverse := by
  intro hpart
  apply hdone.smooth
  rw [← List.reverse_infix]
  exact hpart

theorem isSettled_nil : IsSettled [] := ⟨nofun, by simp⟩

theorem IsSettled.push (hdone : IsSettled done) (hslash : c ≠ '\\') (hopen : c = '[' → k = 0) :
    IsSettled (c :: (slashes k ++ done)) := by
  have hbefore (n : Nat) : ¬ ['[', '\\'] <:+: slashes n ++ done := by
    induction n with
    | zero => exact hdone.smooth
    | succ n ih =>
      intro hpart
      rcases List.infix_cons_iff.1 hpart with hstart | hpart
      · exact absurd (List.cons_prefix_cons.1 hstart).1 (by decide)
      · exact ih hpart
  refine ⟨by simpa using hslash, fun hpart => ?_⟩
  rcases List.infix_cons_iff.1 hpart with hstart | hpart
  · obtain ⟨hc, hnext⟩ := List.cons_prefix_cons.1 hstart
    obtain ⟨more, hmore⟩ := hnext
    rw [hopen hc.symm] at hmore
    exact hdone.last (by rw [← show _ = done from hmore]; rfl)
  · exact hbefore k hpart

/-! ## Runs -/

/-- What looks like a tag in a text, and the text before, between and behind.  `done` holds the
text at hand, last character first. -/
def runs (done : List Char) : List Char → List (List Char)
  | [] => [done.reverse]
  | c :: rest =>
    match _h : if c == '[' then tag? rest else none with
    | some (inside, after) => done.reverse :: ('[' :: inside ++ [']']) :: runs [] after
    | none => runs (c :: done) rest
termination_by cs => cs.length
decreasing_by
  · rw [List.length_cons]
    split at _h
    · have hlength := tag?_length _h
      omega
    · cases _h
  · rw [List.length_cons]
    omega

theorem runs_tag (done : List Char) (htag : tag? rest = some (inside, after)) :
    runs done ('[' :: rest) = done.reverse :: ('[' :: inside ++ [']']) :: runs [] after := by
  rw [runs]
  split
  · next heq =>
    rw [if_pos (by decide), htag] at heq
    obtain ⟨rfl, rfl⟩ := Prod.mk.inj (Option.some.inj heq)
    rfl
  · next heq =>
    rw [if_pos (by decide), htag] at heq
    cases heq

theorem runs_other (done : List Char) (hopen : c = '[' → tag? rest = none) :
    runs done (c :: rest) = runs (c :: done) rest := by
  rw [runs]
  split
  · next heq =>
    split at heq
    · next hbracket => cases heq.symm.trans (hopen (by simpa using hbracket))
    · cases heq
  · rfl

theorem runs_clear {clear : List Char} (hclear : ∀ d ∈ clear, d ≠ '[') (done rest : List Char) :
    runs done (clear ++ rest) = runs (clear.reverse ++ done) rest := by
  induction clear generalizing done with
  | nil => rfl
  | cons d clear ih =>
    have hopen := hclear d List.mem_cons_self
    rw [List.cons_append, runs_other done fun h => absurd h hopen,
      ih fun e he => hclear e (List.mem_cons_of_mem d he)]
    simp

/-! ## Splitting -/

theorem split_slash (done : List Char) (k : Nat) (rest : List Char) :
    split done k ('\\' :: rest) = split done (k + 1) rest := by
  rw [split]
  rfl

theorem split_slashes (done : List Char) (k n : Nat) (rest : List Char) :
    split done k (slashes n ++ rest) = split done (k + n) rest := by
  induction n generalizing k with
  | zero => rfl
  | succ n ih =>
    have hcons : slashes (n + 1) ++ rest = '\\' :: (slashes n ++ rest) := rfl
    rw [hcons, split_slash, ih, Nat.add_right_comm, Nat.add_assoc]

theorem split_other (done : List Char) (k : Nat) (hslash : c ≠ '\\')
    (hopen : c = '[' → tag? rest = none) :
    split done k (c :: rest) = split (c :: (slashes k ++ done)) 0 rest := by
  rw [split, if_neg (by simpa using hslash)]
  split
  · next heq =>
    split at heq
    · next hbracket => cases heq.symm.trans (hopen (by simpa using hbracket))
    · cases heq
  · rfl

theorem split_tag (done : List Char) (k : Nat) (htag : tag? rest = some (inside, after)) :
    split done k ('[' :: rest) =
      .plain done.reverse :: .plain (slashes (k / 2)) ::
        (if k % 2 = 1 then Piece.plain ('[' :: inside ++ [']']) else .tag inside) ::
          split [] 0 after := by
  rw [split, if_neg (by decide)]
  split
  · next heq =>
    rw [if_pos (by decide), htag] at heq
    obtain ⟨rfl, rfl⟩ := Prod.mk.inj (Option.some.inj heq)
    by_cases hodd : k % 2 = 1
    · simp [hodd]
    · simp [hodd]
  · next heq =>
    rw [if_pos (by decide), htag] at heq
    cases heq

/-- Text without brackets and backslashes is taken as it is. -/
theorem split_clear {clear : List Char} (hclear : ∀ d ∈ clear, d ≠ '\\' ∧ d ≠ '[')
    (done rest : List Char) :
    split done 0 (clear ++ rest) = split (clear.reverse ++ done) 0 rest := by
  induction clear generalizing done with
  | nil => rfl
  | cons d clear ih =>
    obtain ⟨hslash, hopen⟩ := hclear d List.mem_cons_self
    rw [List.cons_append, split_other done 0 hslash fun h => absurd h hopen,
      ih fun e he => hclear e (List.mem_cons_of_mem d he)]
    simp

theorem IsSettled.append_clear {clear : List Char} (hdone : IsSettled done)
    (hclear : ∀ d ∈ clear, d ≠ '\\' ∧ d ≠ '[') : IsSettled (clear.reverse ++ done) := by
  induction clear generalizing done with
  | nil => exact hdone
  | cons d clear ih =>
    obtain ⟨hslash, hopen⟩ := hclear d List.mem_cons_self
    have hpush : IsSettled (d :: (slashes 0 ++ done)) := hdone.push hslash fun _ => rfl
    have hmore := ih hpush fun e he => hclear e (List.mem_cons_of_mem d he)
    simpa using hmore

/-- An escaped tag comes out as a piece of its own, and so do the backslashes before it. -/
theorem split_escaped_tag (done behind : List Char) (k : Nat)
    (htag : tag? rest = some (inside, after)) :
    split done 0 (escapeTags k ('[' :: rest) ++ behind) =
      .plain done.reverse :: .plain (slashes k) :: .plain ('[' :: inside ++ [']']) ::
        split [] 0 (escapeTags 0 after ++ behind) := by
  have hhalf : (0 + (2 * k + 1)) / 2 = k := by omega
  have hodd : (0 + (2 * k + 1)) % 2 = 1 := by omega
  rw [escapeTags_tag k (Option.isSome_of_eq_some htag), List.append_assoc, split_slashes,
    List.cons_append, split_tag _ _ (tag?_escapeTags_of_some htag behind), hhalf, if_pos hodd]

/-- Another character is added to the plain text at hand, with the backslashes before it. -/
theorem split_escaped_other (done : List Char) (k : Nat) (hslash : c ≠ '\\')
    (hopen : c = '[' → tag? rest = none) (hbehind : tag? behind = none)
    (hcloses : behind.find? isBracket ≠ some ']') :
    split done 0 (escapeTags k (c :: rest) ++ behind) =
      split (c :: (slashes k ++ done)) 0 (escapeTags 0 rest ++ behind) := by
  have hagain : c = '[' → tag? (escapeTags 0 rest ++ behind) = none :=
    fun h => tag?_escapeTags (hopen h) hbehind hcloses
  rw [escapeTags_other k hslash hopen, List.append_assoc, split_slashes, Nat.zero_add,
    List.cons_append, split_other _ _ hslash hagain]

/-! ## Pieces of an escaped text -/

/-- What a piece holds that is not part of a tag. -/
def Piece.text : Piece → List Char
  | .plain cs => cs
  | .tag _ => []

/-- Pieces that make up a text, without backslashes that would be dropped, and without names
that would be replaced. -/
structure Makes (ps : List Piece) (cs : List Char) : Prop where
  text : ps.flatMap Piece.text = cs
  smooth : ∀ p ∈ ps, IsSmooth p.text
  nameless : ∀ p ∈ ps, holdsName none p.text = false

theorem makes_nil : Makes [] [] := ⟨rfl, nofun, nofun⟩

theorem Makes.append {ps' : List Piece} {cs' : List Char} (hfirst : Makes ps cs)
    (hsecond : Makes ps' cs') : Makes (ps ++ ps') (cs ++ cs') := by
  constructor
  · rw [List.flatMap_append, hfirst.text, hsecond.text]
  · intro p hp
    exact (List.mem_append.1 hp).elim (hfirst.smooth p) (hsecond.smooth p)
  · intro p hp
    exact (List.mem_append.1 hp).elim (hfirst.nameless p) (hsecond.nameless p)

theorem makes_plain (hsmooth : IsSmooth cs) (hname : holdsName none cs = false) :
    Makes [.plain cs] cs :=
  ⟨by simp [Piece.text], by simpa [Piece.text] using hsmooth, by simpa [Piece.text] using hname⟩

theorem makes_tag (inside : List Char) : Makes [.tag inside] [] :=
  ⟨rfl, by simpa [Piece.text] using isSmooth_of_not_mem List.not_mem_nil,
    by simp [Piece.text, holdsName]⟩

theorem makes_slashes (n : Nat) : Makes [.plain (slashes n)] (slashes n) :=
  makes_plain (isSmooth_of_not_mem (by simp)) (holdsName_of_not_mem (by simp))

/-- Splitting an escaped text leaves the last of its plain texts at hand, behind pieces that make
up all before it. -/
def LeavesLast (behind : List Char) (k : Nat) (cs done : List Char) : Prop :=
  ∃ ps made done', IsSettled done' ∧
    holdsName none (done'.reverse ++ slashes (trail (slashes k ++ cs))) = false ∧
    Makes ps made ∧
    split done 0 (escapeTags k cs ++ behind) = ps ++ split done' (trail (slashes k ++ cs)) behind ∧
    made ++ (done'.reverse ++ slashes (trail (slashes k ++ cs))) =
      done.reverse ++ (slashes k ++ cs)

theorem reverse_slashes_append (k : Nat) (done : List Char) :
    (slashes k ++ done).reverse = done.reverse ++ slashes k := by
  simp

theorem leavesLast_nil (hdone : IsSettled done)
    (hname : holdsName none (slashes k ++ done).reverse = false) : LeavesLast behind k [] done := by
  rw [reverse_slashes_append] at hname
  rw [LeavesLast, List.append_nil, trail_slashes]
  refine ⟨[], [], done, hdone, hname, makes_nil, ?_, rfl⟩
  rw [escapeTags, split_slashes, Nat.zero_add]
  rfl

theorem LeavesLast.slash (hrest : LeavesLast behind (k + 1) rest done) :
    LeavesLast behind k ('\\' :: rest) done := by
  rw [LeavesLast, slashes_append_slash, escapeTags_slash]
  exact hrest

/-- A tag ends the plain text at hand. -/
theorem LeavesLast.tag (hdone : IsSettled done) (htag : tag? rest = some (inside, after))
    (hhere : holdsName none (slashes k ++ done).reverse = false)
    (hmarks : holdsName none ('[' :: inside ++ [']']) = false)
    (hafter : LeavesLast behind 0 after []) : LeavesLast behind k ('[' :: rest) done := by
  obtain ⟨rfl, _, hinside⟩ := tag?_eq_some htag
  have hopen : '[' ∉ inside ++ [']'] := by
    rw [List.mem_append, not_or]
    exact ⟨fun hmem => absurd (hinside '[' hmem) (by decide), by decide⟩
  have htrail : trail (slashes k ++ '[' :: (inside ++ ']' :: after)) =
      trail (slashes 0 ++ after) := by
    have hparts : slashes k ++ '[' :: (inside ++ ']' :: after) =
        (slashes k ++ '[' :: inside) ++ ']' :: after := by simp
    rw [hparts, trail_append_cons (by decide)]
    rfl
  rw [reverse_slashes_append] at hhere
  obtain ⟨ps, made, done', hsettled, hrest, hmakes, hsplit, htext⟩ := hafter
  have hmakes' := (((makes_plain hdone.isSmooth (holdsName_of_append hhere)).append
    (makes_slashes k)).append
      (makes_plain (isSmooth_bracket_cons hopen) hmarks)).append hmakes
  refine ⟨_, _, done', hsettled, by rwa [htrail], hmakes', ?_, ?_⟩
  · rw [split_escaped_tag done behind k htag, hsplit, htrail]
    rfl
  · rw [htrail, List.append_assoc, htext]
    simp

/-- Another character goes on with it. -/
theorem LeavesLast.other (hslash : c ≠ '\\') (hopen : c = '[' → tag? rest = none)
    (hbehind : tag? behind = none) (hcloses : behind.find? isBracket ≠ some ']')
    (hrest : LeavesLast behind 0 rest (c :: (slashes k ++ done))) :
    LeavesLast behind k (c :: rest) done := by
  have htrail : trail (slashes k ++ c :: rest) = trail (slashes 0 ++ rest) :=
    trail_append_cons hslash _ _
  obtain ⟨ps, made, done', hsettled, hrest, hmakes, hsplit, htext⟩ := hrest
  refine ⟨ps, made, done', hsettled, by rwa [htrail], hmakes, ?_, ?_⟩
  · rw [split_escaped_other done k hslash hopen hbehind hcloses, hsplit, htrail]
  · rw [htrail, htext]
    simp

/-- A bracket that opens no tag has no backslash before it. -/
theorem eq_zero_of_keepsSlashes (hkeeps : keepsSlashes (slashes k ++ '[' :: rest) = true)
    (htag : tag? rest = none) : k = 0 := by
  cases k with
  | zero => rfl
  | succ n =>
    rw [← slashes_append_slash] at hkeeps
    have hhere := keepsSlashes_of_append _ hkeeps
    rw [keepsSlashes] at hhere
    simp [htag] at hhere

/-- An escaped text is split into pieces that make up all of it but its last plain text, which
is still at hand. -/
theorem split_escapeTags (hbehind : tag? behind = none)
    (hcloses : behind.find? isBracket ≠ some ']') (hdone : IsSettled done)
    (hkeeps : keepsSlashes (slashes k ++ cs) = true)
    (hnames : ∀ run ∈ runs (slashes k ++ done) cs, holdsName none run = false) :
    LeavesLast behind k cs done := by
  -- By induction on the length; what is done so far and the slashes before `cs` are kept general.
  induction hsize : cs.length using Nat.strongRecOn generalizing cs done k with
  | ind size ih =>
    cases cs with
    | nil =>
      rw [runs, List.forall_mem_singleton] at hnames
      exact leavesLast_nil hdone hnames
    | cons c rest =>
      rcases opens_cases c rest with rfl | ⟨rfl, htag⟩ | ⟨hslash, hopen⟩
      · rw [slashes_append_slash] at hkeeps
        rw [runs_other (slashes k ++ done) fun h => absurd h (by decide)] at hnames
        exact (ih rest.length (by simp [← hsize]) hdone hkeeps hnames rfl).slash
      · obtain ⟨⟨inside, after⟩, hfound⟩ := Option.isSome_iff_exists.1 htag
        rw [runs_tag _ hfound, List.forall_mem_cons, List.forall_mem_cons] at hnames
        obtain ⟨hhere, hmarks, hafter⟩ := hnames
        have hless : after.length < size := by
          have hlength := tag?_length hfound
          rw [← hsize, List.length_cons]
          omega
        have hkeeps' : keepsSlashes (slashes 0 ++ after) = true := by
          obtain ⟨rfl, _⟩ := tag?_eq_some hfound
          exact keepsSlashes_of_append (slashes k ++ '[' :: inside ++ [']']) (by simpa using hkeeps)
        exact .tag hdone hfound hhere hmarks (ih _ hless isSettled_nil hkeeps' hafter rfl)
      · have hnone : c = '[' → k = 0 := by
          rintro rfl
          exact eq_zero_of_keepsSlashes hkeeps (hopen rfl)
        have hkeeps' : keepsSlashes (slashes 0 ++ rest) = true :=
          keepsSlashes_of_append (slashes k ++ [c]) (by simpa using hkeeps)
        rw [runs_other _ hopen] at hnames
        have hless : rest.length < size := by simp [← hsize]
        exact .other hslash hopen hbehind hcloses
          (ih _ hless (hdone.push hslash hnone) hkeeps' hnames rfl)

/-- Text between an escaped one and the next tag: none, where the escaped one ends in one
backslash at most, or text that starts with what starts no tag, where it does not end in
exactly one. -/
inductive Closes (value : List Char) : List Char → Prop
  | nothing (few : trail value ≤ 1) : Closes value []
  | text {c : Char} {more : List Char}
      (clear : ∀ d ∈ c :: more, d ≠ '\\' ∧ isBracket d = false ∧ d ≠ ':')
      (noStart : startsTag c = false) (notOne : trail value ≠ 1) : Closes value (c :: more)

variable {before value between : List Char}

/-- Nothing behind an escaped text makes its end part of a tag. -/
theorem Closes.opens_no_tag (hcloses : Closes value between) (rest : List Char) :
    tag? (endSlash value ++ (between ++ '[' :: rest)) = none ∧
      (endSlash value ++ (between ++ '[' :: rest)).find? isBracket ≠ some ']' := by
  cases hcloses with
  | nothing _ =>
    rw [endSlash]
    split
    · exact ⟨tag?_eq_none_of_head? (by simp [startsTag]), by simp [isBracket]⟩
    · exact ⟨tag?_eq_none_of_head? (by simp [startsTag]), by simp [isBracket]⟩
  | @text c more hclear hstart hone =>
    have hfind : (c :: more).find? isBracket = none := by
      rw [List.find?_eq_none]
      intro d hd
      rw [(hclear d hd).2.1]
      exact Bool.false_ne_true
    rw [endSlash, if_neg hone, List.nil_append]
    constructor
    · apply tag?_eq_none_of_head?
      simpa using hstart
    · rw [List.find?_append, hfind]
      simp [isBracket]

/-- The plain text at hand goes in front of the tag. -/
theorem split_closes (hdone : IsSettled done)
    (hname : holdsName none (done.reverse ++ slashes (trail value)) = false)
    (hcloses : Closes value between) (htag : tag? rest = some (inside, after)) :
    ∃ ps, Makes ps (done.reverse ++ slashes (trail value) ++ between) ∧
      split done (trail value) (endSlash value ++ (between ++ '[' :: rest)) =
        ps ++ split [] 0 after := by
  cases hcloses with
  | nothing hfew =>
    -- Nothing stands between, so the slashes are doubled and none of them escapes the bracket.
    have hextra : endSlash value = slashes (trail value) := by
      rw [endSlash]
      split
      · next hone => rw [hone]; rfl
      · next hnot => rw [show trail value = 0 by omega]; rfl
    have hhalf : (trail value + trail value) / 2 = trail value := by omega
    have heven : ¬ (trail value + trail value) % 2 = 1 := by omega
    refine ⟨_, ((makes_plain hdone.isSmooth (holdsName_of_append hname)).append
      (makes_slashes (trail value))).append (makes_tag inside), ?_⟩
    rw [hextra, split_slashes, List.nil_append, split_tag _ _ htag, hhalf, if_neg heven]
    rfl
  | @text c more hclear hstart hone =>
    -- The text between ends the run of slashes, which stay as they are.
    have hmore : ∀ d ∈ c :: more, d ≠ '\\' ∧ d ≠ '[' := by
      intro d hd
      refine ⟨(hclear d hd).1, ?_⟩
      rintro rfl
      exact absurd (hclear '[' hd).2.1 (by decide)
    obtain ⟨hslash, hopen⟩ := hmore c List.mem_cons_self
    have hrest : ∀ d ∈ more, d ≠ '\\' ∧ d ≠ '[' :=
      fun d hd => hmore d (List.mem_cons_of_mem c hd)
    have hpush : IsSettled (c :: (slashes (trail value) ++ done)) :=
      hdone.push hslash fun h => absurd h hopen
    have hname' : holdsName none
        (more.reverse ++ c :: (slashes (trail value) ++ done)).reverse = false := by
      have hcolon : ':' ∉ c :: more := fun hmem => (hclear ':' hmem).2.2 rfl
      refine Eq.trans ?_ ((holdsName_append_eq hcolon).trans hname)
      simp
    have hmakes := ((makes_plain (hpush.append_clear hrest).isSmooth hname').append
      (makes_slashes 0)).append (makes_tag inside)
    have hmade : (more.reverse ++ c :: (slashes (trail value) ++ done)).reverse ++ slashes 0 ++ [] =
        done.reverse ++ slashes (trail value) ++ c :: more := by simp
    rw [hmade] at hmakes
    refine ⟨_, hmakes, ?_⟩
    rw [endSlash, if_neg hone, List.nil_append, List.cons_append,
      split_other _ _ hslash fun h => absurd h hopen, split_clear hrest, split_tag _ _ htag]
    rfl

/-- A text that is shown as it is behind another one, but for its end: a backslash directly
before a bracket stands before one that opens a tag, and no run has the name of a symbol. -/
structure IsPlain (before value : List Char) : Prop where
  slashes : keepsSlashes value = true
  names : ∀ run ∈ runs [] (before ++ value), holdsName none run = false

/-- A text with an escaped one in it, in front of a tag, is split into pieces that make it up,
the tag, and what stands behind it. -/
theorem split_part (hbefore : ∀ d ∈ before, d ≠ '\\' ∧ d ≠ '[') (hplain : IsPlain before value)
    (hcloses : Closes value between) (htag : tag? rest = some (inside, after)) :
    ∃ ps, Makes ps (before ++ value ++ between) ∧
      split [] 0 (before ++ (escapeTags 0 value ++
          (endSlash value ++ (between ++ '[' :: rest)))) = ps ++ split [] 0 after := by
  have hdone : IsSettled (before.reverse ++ []) := isSettled_nil.append_clear hbefore
  obtain ⟨hbehind, hfind⟩ := hcloses.opens_no_tag rest
  have hnames := hplain.names
  rw [runs_clear fun d hd => (hbefore d hd).2] at hnames
  have htrail : trail (slashes 0 ++ value) = trail value := rfl
  obtain ⟨ps, made, done', hsettled, hhand, hmakes, hsplit, htext⟩ :=
    split_escapeTags (k := 0) hbehind hfind hdone hplain.slashes hnames
  rw [htrail] at hhand hsplit htext
  obtain ⟨ps', hmakes', hsplit'⟩ := split_closes hsettled hhand hcloses htag
  refine ⟨ps ++ ps', ?_, ?_⟩
  · have hparts : made ++ (done'.reverse ++ slashes (trail value)) = before ++ value := by
      simpa using htext
    rw [← hparts]
    simpa using hmakes.append hmakes'
  · rw [split_clear hbefore, hsplit, hsplit', List.append_assoc]

/-! ## What is shown -/

/-- Such pieces are shown as what they make up. -/
theorem Makes.shown_eq (hmakes : Makes ps cs) : ps.flatMap Piece.shown = cs := by
  have hpiece : ∀ p ∈ ps, p.shown = p.text := by
    intro p hp
    cases p with
    | tag inside => rfl
    | plain piece =>
      have hsmooth : IsSmooth piece := hmakes.smooth _ hp
      have hname : holdsName none piece = false := hmakes.nameless _ hp
      rw [Piece.shown, dropSlashes_eq_self hsmooth]
      exact replaceNames_eq_self 0 hname
  rw [← hmakes.text]
  exact List.flatMap_congr hpiece

theorem shown_tag (htag : tag? rest = some (inside, after)) :
    (split [] 0 ('[' :: rest)).flatMap Piece.shown = (split [] 0 after).flatMap Piece.shown := by
  rw [split_tag [] 0 htag]
  simp [Piece.shown, dropSlashes, replaceNames]

theorem shown_part (hbefore : ∀ d ∈ before, d ≠ '\\' ∧ d ≠ '[') (hplain : IsPlain before value)
    (hcloses : Closes value between) (htag : tag? rest = some (inside, after)) :
    (split [] 0 (before ++ (escapeTags 0 value ++
        (endSlash value ++ (between ++ '[' :: rest))))).flatMap Piece.shown =
      before ++ value ++ between ++ (split [] 0 after).flatMap Piece.shown := by
  obtain ⟨ps, hmakes, hsplit⟩ := split_part hbefore hplain hcloses htag
  rw [hsplit, List.flatMap_append, hmakes.shown_eq]

theorem mem_dropSlashes (hc : c ∈ dropSlashes cs) : c ∈ cs := by
  induction cs using dropSlashes.induct with
  | case1 rest ih =>
    rw [dropSlashes] at hc
    rcases List.mem_cons.1 hc with rfl | hc
    · simp
    · exact List.mem_cons_of_mem _ (List.mem_cons_of_mem _ (ih hc))
  | case2 d rest hother ih =>
    rw [dropSlashes] at hc
    · rcases List.mem_cons.1 hc with rfl | hc
      · exact List.mem_cons_self
      · exact List.mem_cons_of_mem _ (ih hc)
    · exact hother
  | case3 => cases hc

theorem isSteady_slashes (n : Nat) : ∀ c ∈ slashes n, isSteady c = true := by
  intro c hc
  rw [List.eq_of_mem_replicate hc]
  rfl

theorem isSteady_split (hdone : ∀ c ∈ done, isSteady c = true) (hcs : ∀ c ∈ cs, isSteady c = true) :
    ∀ p ∈ split done k cs, ∀ c ∈ p.text, isSteady c = true := by
  -- By induction on the length, since a tag takes several characters at once.
  induction hsize : cs.length using Nat.strongRecOn generalizing cs done k with
  | ind size ih =>
    cases cs with
    | nil =>
      rw [split]
      intro p hp c hc
      obtain rfl := List.mem_singleton.1 hp
      rcases List.mem_append.1 hc with hc | hc
      · exact hdone c (List.mem_reverse.1 hc)
      · exact isSteady_slashes k c hc
    | cons c rest =>
      have hrest : ∀ d ∈ rest, isSteady d = true := fun d hd => hcs d (List.mem_cons_of_mem c hd)
      rcases opens_cases c rest with rfl | ⟨rfl, htag⟩ | ⟨hslash, hopen⟩
      · rw [split_slash]
        exact ih rest.length (by simp [← hsize]) hdone hrest rfl
      · obtain ⟨⟨inside, after⟩, hfound⟩ := Option.isSome_iff_exists.1 htag
        have hless : after.length < size := by
          have hlength := tag?_length hfound
          rw [← hsize, List.length_cons]
          omega
        obtain ⟨hinside, hafter⟩ : (∀ d ∈ '[' :: inside ++ [']'], isSteady d = true) ∧
            ∀ d ∈ after, isSteady d = true := by
          obtain ⟨rfl, _⟩ := tag?_eq_some hfound
          rw [← List.forall_mem_append]
          simpa using hcs
        have hmore : ∀ p ∈ split [] 0 after, ∀ d ∈ p.text, isSteady d = true :=
          ih _ hless (by simp) hafter rfl
        rw [split_tag _ _ hfound]
        intro p hp
        rcases List.mem_cons.1 hp with rfl | hp
        · exact fun d hd => hdone d (List.mem_reverse.1 hd)
        rcases List.mem_cons.1 hp with rfl | hp
        · exact isSteady_slashes _
        rcases List.mem_cons.1 hp with rfl | hp
        · split
          · exact hinside
          · simp [Piece.text]
        · exact hmore p hp
      · rw [split_other _ _ hslash hopen]
        refine ih rest.length (by simp [← hsize]) ?_ hrest rfl
        intro d hd
        rcases List.mem_cons.1 hd with rfl | hd
        · exact hcs d List.mem_cons_self
        rcases List.mem_append.1 hd with hd | hd
        · exact isSteady_slashes k d hd
        · exact hdone d hd

/-- A marked text without characters that steer a screen is shown without any. -/
theorem isSteady_shown (hcs : ∀ c ∈ cs, isSteady c = true) : ∀ c ∈ shown cs, isSteady c = true := by
  rw [shown]
  split
  · intro c hc
    obtain ⟨p, hp, hc⟩ := List.mem_flatMap.1 hc
    have htext : ∀ d ∈ p.text, isSteady d = true :=
      isSteady_split (fun _ hd => absurd hd List.not_mem_nil) hcs p hp
    cases p with
    | plain piece => exact isSteady_replaceNames 0 (fun d hd => htext d (mem_dropSlashes hd)) c hc
    | tag inside => cases hc
  · exact isSteady_replaceNames 0 hcs

theorem splitAt_eq {mark : Char} (hmark : mark ∉ cs) :
    Text.splitAt mark done cs = [done.reverse ++ cs] := by
  induction cs generalizing done with
  | nil => simp [Text.splitAt]
  | cons c rest ih =>
    have hc : c ≠ mark := fun h => hmark (h ▸ List.mem_cons_self)
    rw [Text.splitAt, if_neg (by simpa using hc), ih fun h => hmark (List.mem_cons_of_mem c h)]
    simp

theorem lines_eq {s : String} (hs : ∀ c ∈ s.toList, isSteady c = true) :
    lines s = [shown s.toList] := by
  have hshown := isSteady_shown hs
  have hfacts : ∀ c ∈ shown s.toList, (!Text.isSilent c) = true ∧ c ≠ '\n' ∧ c ≠ '\t' := by
    intro c hc
    simpa [isSteady, and_assoc] using hshown c hc
  have hline : '\n' ∉ shown s.toList := fun h => (hfacts _ h).2.1 rfl
  have htab : '\t' ∉ shown s.toList := fun h => (hfacts _ h).2.2 rfl
  rw [lines, Text.screenLines, List.filter_eq_self.2 fun c hc => (hfacts c hc).1, Text.linesOf,
    splitAt_eq hline]
  simp [Text.expandTabs, splitAt_eq htab, Text.joinTabs]

theorem isSteady_escapeTags (k : Nat) (hcs : ∀ c ∈ cs, isSteady c = true) :
    ∀ c ∈ escapeTags k cs, isSteady c = true := by
  induction cs generalizing k with
  | nil => exact isSteady_slashes k
  | cons c rest ih =>
    have hc := hcs c List.mem_cons_self
    have hrest : ∀ d ∈ rest, isSteady d = true := fun d hd => hcs d (List.mem_cons_of_mem c hd)
    have hafter (n : Nat) : ∀ d ∈ slashes n ++ c :: escapeTags 0 rest, isSteady d = true := by
      intro d hd
      rcases List.mem_append.1 hd with hd | hd
      · exact isSteady_slashes n d hd
      rcases List.mem_cons.1 hd with rfl | hd
      · exact hc
      · exact ih 0 hrest d hd
    rcases opens_cases c rest with rfl | ⟨rfl, htag⟩ | ⟨hslash, hopen⟩
    · rw [escapeTags_slash]
      exact ih (k + 1) hrest
    · rw [escapeTags_tag k htag]
      exact hafter _
    · rw [escapeTags_other k hslash hopen]
      exact hafter k

theorem isSteady_escape {s : String} (hs : ∀ c ∈ s.toList, isSteady c = true) :
    ∀ c ∈ (escape s).toList, isSteady c = true := by
  rw [toList_escape]
  intro c hc
  rcases List.mem_append.1 hc with hc | hc
  · exact isSteady_escapeTags 0 hs c hc
  · rw [endSlash] at hc
    split at hc
    · exact isSteady_slashes 1 c hc
    · cases hc

end Markup

end FindingLedger
