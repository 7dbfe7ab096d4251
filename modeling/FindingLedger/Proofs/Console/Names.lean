/-
Names of symbols in a text.

A name stands between two colons, perhaps with a mark behind it.  A text without names of
symbols is shown as it is; and whatever is shown holds no characters that steer a screen
unless they were there before.
-/
import FindingLedger.Console.Markup
import FindingLedger.Proofs.Text.Numeral
import Mathlib.Data.List.Infix
import Mathlib.Data.List.TakeWhile

namespace FindingLedger

namespace Markup

/-- Whether a word is the name of a symbol, perhaps with a mark behind it. -/
def isName (word : List Char) : Bool :=
  ([] :: variants.map fun v => v.1.toList).any fun mark =>
    mark.isSuffixOf word &&
      (symbol? (Text.lower (String.ofList (word.take (word.length - mark.length))))).isSome

/-- Whether the name of a symbol stands between two colons, without a blank in between.  A colon
that ends a word starts no other one.  `word?` is the word at hand, last character first, if a
colon was read that may start one. -/
def holdsName (word? : Option (List Char)) : List Char → Bool
  | [] => false
  | c :: rest =>
    match word? with
    | none => holdsName (if c == ':' then some [] else none) rest
    | some word =>
      if c == ':' then isName word.reverse || holdsName none rest
      else holdsName (if Text.isBlank c then none else some (c :: word)) rest

variable {cs rest before after word more : List Char} {word? : Option (List Char)} {c : Char}

/-- A name stays one in a longer text. -/
theorem holdsName_append_right (hholds : holdsName word? cs = true) :
    holdsName word? (cs ++ after) = true := by
  induction cs generalizing word? with
  | nil => cases hholds
  | cons c cs ih =>
    rw [List.cons_append]
    cases word? with
    | none =>
      rw [holdsName] at hholds ⊢
      exact ih hholds
    | some word =>
      rw [holdsName] at hholds ⊢
      split at hholds
      · next hc =>
        rw [Bool.or_eq_true] at hholds
        rw [if_pos hc, Bool.or_eq_true]
        exact hholds.imp_right ih
      · next hc =>
        rw [if_neg hc]
        exact ih hholds

/-- So the front of a text without names has none. -/
theorem holdsName_of_append (hnone : holdsName word? (cs ++ after) = false) :
    holdsName word? cs = false := by
  rw [← Bool.not_eq_true] at hnone ⊢
  exact fun hholds => hnone (holdsName_append_right hholds)

theorem holdsName_of_not_mem (hcolon : ':' ∉ cs) : holdsName word? cs = false := by
  induction cs generalizing word? with
  | nil => rfl
  | cons c cs ih =>
    have hc : (c == ':') = false := beq_eq_false_iff_ne.2 fun h => hcolon (h ▸ List.mem_cons_self)
    have hrest : ':' ∉ cs := fun h => hcolon (List.mem_cons_of_mem c h)
    cases word? with
    | none => rw [holdsName, ih hrest]
    | some word => rw [holdsName, hc, if_neg Bool.false_ne_true, ih hrest]

/-- What has no colon plays no role behind a text. -/
theorem holdsName_append_eq (hcolon : ':' ∉ after) :
    holdsName word? (cs ++ after) = holdsName word? cs := by
  induction cs generalizing word? with
  | nil => exact holdsName_of_not_mem hcolon
  | cons c cs ih =>
    rw [List.cons_append]
    cases word? with
    | none => rw [holdsName, holdsName, ih]
    | some word => rw [holdsName, holdsName, ih, ih]

theorem holdsName_cons_of_ne (hc : c ≠ ':') : holdsName none (c :: cs) = holdsName none cs := by
  rw [holdsName, if_neg (by simpa using hc)]

/-- A word that a colon ends. -/
theorem holdsName_word (hword : ∀ d ∈ word, d ≠ ':' ∧ Text.isBlank d = false) :
    holdsName (some before) (word ++ ':' :: more) =
      (isName (before.reverse ++ word) || holdsName none more) := by
  induction word generalizing before with
  | nil => simp [holdsName]
  | cons d word ih =>
    obtain ⟨hcolon, hblank⟩ := hword d List.mem_cons_self
    rw [List.cons_append, holdsName, if_neg (by simpa using hcolon), hblank,
      if_neg Bool.false_ne_true, ih fun e he => hword e (List.mem_cons_of_mem d he)]
    simp

/-- What ends a name is a colon, perhaps behind a mark. -/
theorem nameEnd?_eq_some {mark : List Char} {size : Nat}
    (hend : nameEnd? cs = some (mark, size)) :
    ∃ text ∈ [] :: variants.map fun v => v.1.toList,
      ∃ more, cs = text ++ ':' :: more ∧ size = text.length + 1 := by
  unfold nameEnd? at hend
  split at hend
  · next hcolon =>
    obtain ⟨more, rfl⟩ := List.head?_eq_some_iff.1 (by simpa using hcolon)
    obtain ⟨_, rfl⟩ := Prod.mk.inj (Option.some.inj hend)
    exact ⟨[], List.mem_cons_self, more, rfl, rfl⟩
  · obtain ⟨v, hv, heq⟩ := Option.map_eq_some_iff.1 hend
    obtain ⟨_, rfl⟩ := Prod.mk.inj heq
    have hmem := List.mem_of_find?_eq_some hv
    have hstart := List.find?_some hv
    obtain ⟨more, rfl⟩ := List.isPrefixOf_iff_prefix.1 hstart
    have htext : v.1.toList ∈ [] :: variants.map fun v => v.1.toList :=
      List.mem_cons_of_mem _ (List.mem_map.2 ⟨v, hmem, rfl⟩)
    exact ⟨v.1.toList, htext, more, by simp, by rw [String.length_toList]⟩

theorem of_mem_mark {text : List Char} (htext : text ∈ [] :: variants.map fun v => v.1.toList) :
    ∀ d ∈ text, d ≠ ':' ∧ Text.isBlank d = false := by
  revert text
  decide

/-- A name that is read is all that stands before the next colon, but for the mark. -/
theorem name?_eq_some {done name mark : List Char} {start count : Nat}
    (hname : name? done start cs = some (name, mark, count)) :
    ∃ word, name = done.reverse ++ word ∧ (∀ d ∈ word, d ≠ ':' ∧ Text.isBlank d = false) ∧
      ∃ text ∈ [] :: variants.map fun v => v.1.toList, ∃ more,
        cs = word ++ text ++ ':' :: more ∧ count = start + (word ++ text).length + 1 := by
  induction cs generalizing done start with
  | nil => cases hname
  | cons c rest ih =>
    rw [name?] at hname
    cases hend : nameEnd? (c :: rest) with
    | some found =>
      obtain ⟨mark', size⟩ := found
      rw [hend] at hname
      obtain ⟨rfl, hcount⟩ := Prod.mk.inj (Option.some.inj hname)
      obtain ⟨_, rfl⟩ := Prod.mk.inj hcount
      obtain ⟨text, htext, more, hcs, rfl⟩ := nameEnd?_eq_some hend
      exact ⟨[], by simp, nofun, text, htext, more, hcs, rfl⟩
    | none =>
      rw [hend] at hname
      dsimp only at hname
      have hc : c ≠ ':' := by
        rintro rfl
        cases hend
      split at hname
      · cases hname
      · next hblank =>
        obtain ⟨word, hword, hclear, text, htext, more, hrest, hcount⟩ := ih hname
        refine ⟨c :: word, by simpa using hword, ?_, text, htext, more, by simp [hrest], ?_⟩
        · exact List.forall_mem_cons.2 ⟨⟨hc, by simpa using hblank⟩, hclear⟩
        · simp only [hcount, List.cons_append, List.length_cons]
          omega

/-- Where no name can be read behind a colon, a blank comes before the next one, or there is
none. -/
theorem holdsName_of_name?_eq_none {done : List Char} {start : Nat}
    (hname : name? done start cs = none) (word : List Char) :
    holdsName (some word) cs = holdsName none cs := by
  induction cs generalizing done start word with
  | nil => rfl
  | cons c rest ih =>
    have hend : nameEnd? (c :: rest) = none := by
      rw [name?] at hname
      split at hname
      · cases hname
      · assumption
    have hc : c ≠ ':' := by
      rintro rfl
      cases hend
    rw [name?, hend] at hname
    dsimp only at hname
    rw [holdsName_cons_of_ne hc, holdsName, if_neg (by simpa using hc)]
    split at hname
    · next hblank => rw [if_pos hblank]
    · next hblank => rw [if_neg hblank, ih hname]

theorem isName_append {text : List Char} (htext : text ∈ [] :: variants.map fun v => v.1.toList)
    (hsymbol : (symbol? (Text.lower (String.ofList word))).isSome = true) :
    isName (word ++ text) = true := by
  refine List.any_eq_true.2 ⟨text, htext, ?_⟩
  simpa using hsymbol

/-- A text without names of symbols is shown as it is. -/
theorem replaceNames_eq_self (skip : Nat) (hnone : holdsName none (cs.drop skip) = false) :
    replaceNames skip cs = cs := by
  induction cs generalizing skip with
  | nil => rw [replaceNames]
  | cons c rest ih =>
    cases skip with
    | succ n => rw [replaceNames, ih n hnone]
    | zero =>
      rw [replaceNames]
      split
      · next hc =>
        rw [List.drop_zero, holdsName_cons_of_ne (by simpa using hc)] at hnone
        rw [ih 0 hnone]
      · next hc =>
        rw [List.drop_zero, holdsName, if_pos (by simpa using hc)] at hnone
        cases hname : name? [] 0 rest with
        | none =>
          rw [holdsName_of_name?_eq_none hname] at hnone
          rw [ih 0 hnone]
        | some found =>
          obtain ⟨name, mark, count⟩ := found
          obtain ⟨word, hword, hclear, text, htext, more, hrest, hcount⟩ := name?_eq_some hname
          have hwords : ∀ d ∈ word ++ text, d ≠ ':' ∧ Text.isBlank d = false := by
            intro d hd
            exact (List.mem_append.1 hd).elim (hclear d) (of_mem_mark htext d)
          have hdrop : rest.drop count = more := by
            rw [hrest, hcount, Nat.zero_add, ← List.drop_drop, List.drop_left]
            rfl
          rw [hrest, holdsName_word hwords, Bool.or_eq_false_iff, List.reverse_nil,
            List.nil_append] at hnone
          dsimp only
          cases hsymbol : symbol? (Text.lower (String.ofList name)) with
          | none =>
            dsimp only
            rw [ih count (by rw [hdrop]; exact hnone.2)]
          | some symbol =>
            have hfound : isName (word ++ text) = true := by
              apply isName_append htext
              rw [← List.nil_append word, ← List.reverse_nil, ← hword, hsymbol]
              rfl
            -- The scan would have found the name that is replaced here.
            exact absurd (hnone.1.symm.trans hfound) Bool.false_ne_true

/-! ## Characters that steer a screen -/

/-- Whether a character is shown where it stands: it is not dropped, starts no line, and is no
tabulator. -/
def isSteady (c : Char) : Bool := !Text.isSilent c && c != '\n' && c != '\t'

theorem isSteady_of_symbol? {name : String} {symbol : List Char}
    (hsymbol : symbol? name = some symbol) : ∀ c ∈ symbol, isSteady c = true := by
  have hall (first : Char) :
      (symbolsOf first).all (fun e => e.2.all isSteady) = true := by
    unfold symbolsOf
    split <;> decide +kernel
  obtain ⟨first, _, hlookup⟩ := Option.bind_eq_some_iff.1 hsymbol
  obtain ⟨before, after, hmem, _⟩ := List.lookup_eq_some_iff.1 hlookup
  have hentry := List.all_eq_true.1 (hall first) (name, symbol) (by simp [hmem])
  exact List.all_eq_true.1 hentry

theorem isSteady_of_name? {done name mark : List Char} {start count : Nat}
    (hname : name? done start cs = some (name, mark, count)) : ∀ c ∈ mark, isSteady c = true := by
  induction cs generalizing done start with
  | nil => cases hname
  | cons c rest ih =>
    rw [name?] at hname
    cases hend : nameEnd? (c :: rest) with
    | some found =>
      obtain ⟨mark', size⟩ := found
      rw [hend] at hname
      obtain ⟨_, hmark⟩ := Prod.mk.inj (Option.some.inj hname)
      obtain ⟨rfl, _⟩ := Prod.mk.inj hmark
      unfold nameEnd? at hend
      split at hend
      · cases hend
        nofun
      · obtain ⟨v, hv, heq⟩ := Option.map_eq_some_iff.1 hend
        obtain ⟨rfl, _⟩ := Prod.mk.inj heq
        have hvariants : ∀ v ∈ variants, isSteady v.2 = true := by decide
        simpa using hvariants v (List.mem_of_find?_eq_some hv)
    | none =>
      rw [hend] at hname
      dsimp only at hname
      split at hname
      · cases hname
      · exact ih hname

/-- Symbols for their names bring no character that steers a screen. -/
theorem isSteady_replaceNames (skip : Nat) (hcs : ∀ c ∈ cs, isSteady c = true) :
    ∀ c ∈ replaceNames skip cs, isSteady c = true := by
  -- By induction on the length, since a name that is replaced takes several characters at once.
  induction hsize : cs.length using Nat.strongRecOn generalizing cs skip with
  | ind size ih =>
    cases cs with
    | nil => simp [replaceNames]
    | cons c rest =>
      have hc := hcs c List.mem_cons_self
      have hrest : ∀ d ∈ rest, isSteady d = true := fun d hd => hcs d (List.mem_cons_of_mem c hd)
      have hlater (skip : Nat) : ∀ d ∈ c :: replaceNames skip rest, isSteady d = true :=
        List.forall_mem_cons.2 ⟨hc, ih rest.length (by simp [← hsize]) skip hrest rfl⟩
      cases skip with
      | succ n =>
        rw [replaceNames]
        exact hlater n
      | zero =>
        rw [replaceNames]
        split
        · exact hlater 0
        · cases hname : name? [] 0 rest with
          | none => exact hlater 0
          | some found =>
            obtain ⟨name, mark, count⟩ := found
            dsimp only
            cases hsymbol : symbol? (Text.lower (String.ofList name)) with
            | none => exact hlater count
            | some symbol =>
              have hless : (rest.drop count).length < size := by
                rw [← hsize, List.length_drop, List.length_cons]
                omega
              have hafter := ih _ hless 0 (fun d hd => hrest d (List.mem_of_mem_drop hd)) rfl
              simp only [List.mem_append]
              rintro d ((hd | hd) | hd)
              · exact isSteady_of_symbol? hsymbol d hd
              · exact isSteady_of_name? hname d hd
              · exact hafter d hd

end Markup

end FindingLedger
