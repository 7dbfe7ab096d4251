/-
What was written, as tokens.

A string that was written is of printable ASCII, and so is a whole number.  Reading the
characters between the marks of a string gives the string back, one character after the
other: each is written as itself, as an escape of a letter, as one code unit, or as a pair
of code units.
-/
import FindingLedger.Json.Token
import FindingLedger.Json.Write
import FindingLedger.Proofs.Text.Numeral
import Mathlib.Data.List.TakeDrop
import Mathlib.Data.List.TakeWhile
import Mathlib.Tactic.SplitIfs

namespace FindingLedger

namespace Json

def IsPrintable (c : Char) : Prop := 0x20 ≤ c.toNat ∧ c.toNat < 0x7f

instance (c : Char) : Decidable (IsPrintable c) := inferInstanceAs (Decidable (_ ∧ _))

/-! ## Code units -/

theorem hexValue?_digitChar :
    ∀ d, d < 16 → hexValue? (Nat.digitChar d) = some d := by decide

theorem isPrintable_digitChar : ∀ d, d < 16 → IsPrintable (Nat.digitChar d) := by decide

theorem hexDigits_four (n : Nat) :
    Text.hexDigits 4 n =
      [Nat.digitChar (n / 4096 % 16), Nat.digitChar (n / 256 % 16), Nat.digitChar (n / 16 % 16),
        Nat.digitChar (n % 16)] := by
  simp [Text.hexDigits, List.range, List.range.loop]

/-- Four hexadecimal digits stand for the number that they were made from. -/
theorem hex4?_digitChars {n : Nat} (hn : n < 0x10000) :
    hex4? (Nat.digitChar (n / 4096 % 16)) (Nat.digitChar (n / 256 % 16))
      (Nat.digitChar (n / 16 % 16)) (Nat.digitChar (n % 16)) = some n := by
  have hvalue (k : Nat) : hexValue? (Nat.digitChar (k % 16)) = some (k % 16) :=
    hexValue?_digitChar _ (Nat.mod_lt k (by omega))
  simp only [hex4?, hvalue, Option.bind_eq_bind, Option.bind_some, Option.pure_def,
    Option.some.injEq]
  omega

variable {start pos : Nat} {done : List Glyph} {tail : List Char}

/-- The escape of a code unit that is no first half is read as the glyph with its code. -/
theorem scanText_unitEscape {unit : Nat} {e : Char} (hunit : unit < 0x10000)
    (hhalf : isHighHalf unit = false) :
    scanText start pos done (unitEscape unit ++ e :: tail) =
      scanText start (pos + 6) (.ofCode unit :: done) (e :: tail) := by
  rw [unitEscape, hexDigits_four]
  simp only [List.cons_append, List.nil_append]
  rw [scanText, hex4?_digitChars hunit]
  simp [hhalf]

theorem scanText_pair {high low : Nat} {e : Char} (hhigh : isHighHalf high = true)
    (hlow : isLowHalf low = true) :
    scanText start pos done (unitEscape high ++ (unitEscape low ++ e :: tail)) =
      scanText start (pos + 12) (.ofCode (joinHalves high low) :: done) (e :: tail) := by
  have hhigh' : high < 0x10000 := by
    simp only [isHighHalf, Bool.and_eq_true, decide_eq_true_eq] at hhigh
    omega
  have hlow' : low < 0x10000 := by
    simp only [isLowHalf, Bool.and_eq_true, decide_eq_true_eq] at hlow
    omega
  rw [unitEscape, unitEscape, hexDigits_four, hexDigits_four]
  simp only [List.cons_append, List.nil_append]
  rw [scanText, hex4?_digitChars hhigh']
  simp [hhigh, hlow, secondHalf, hex4?_digitChars hlow']

/-- A backslash and a letter are read as the character that they stand for. -/
theorem scanText_simpleEscape {x d : Char} (hsimple : simpleEscape? x = some d) :
    scanText start pos done ('\\' :: x :: tail) =
      scanText start (pos + 2) (.char d :: done) tail := by
  have hx : x ≠ 'u' := by
    rintro rfl
    cases hsimple
  rw [scanText]
  · simp [hx, hsimple]
  · rintro _ _ _ _ _ _ hcs -
    exact hx hcs

/-- A character that has no need of an escape is read as itself. -/
theorem scanText_plain {c : Char} (hprintable : IsPrintable c) (hmark : c ≠ '"')
    (hslash : c ≠ '\\') :
    scanText start pos done (c :: tail) = scanText start (pos + 1) (.char c :: done) tail := by
  have hcontrol : ¬ c.toNat < 0x20 := Nat.not_lt.2 hprintable.1
  rw [scanText]
  · rw [if_neg hcontrol]
  · exact hmark
  · intro hcs _
    exact hslash hcs
  · intro _ _ _ _ _ _ hcs _
    exact hslash hcs
  · intro _ _ hcs _
    exact hslash hcs

/-! ## Strings -/

/-- The range of code points has a gap, where the halves of pairs stand. -/
theorem toNat_cases (c : Char) :
    c.toNat < 0xd800 ∨ 0xdfff < c.toNat ∧ c.toNat < 0x110000 := c.valid

/-- A character beyond the code points of one unit is read from its two halves. -/
theorem scanText_halves {c e : Char} (hlarge : 0x10000 ≤ c.toNat) :
    scanText start pos done
        (unitEscape (0xd800 + (c.toNat - 0x10000) / 0x400) ++
          (unitEscape (0xdc00 + (c.toNat - 0x10000) % 0x400) ++ e :: tail)) =
      scanText start (pos + 12) (.char c :: done) (e :: tail) := by
  have hrange := toNat_cases c
  have hhigh : isHighHalf (0xd800 + (c.toNat - 0x10000) / 0x400) = true := by
    simp only [isHighHalf, Bool.and_eq_true, decide_eq_true_eq]
    omega
  have hlow : isLowHalf (0xdc00 + (c.toNat - 0x10000) % 0x400) = true := by
    simp only [isLowHalf, Bool.and_eq_true, decide_eq_true_eq]
    omega
  have hjoin : joinHalves (0xd800 + (c.toNat - 0x10000) / 0x400)
      (0xdc00 + (c.toNat - 0x10000) % 0x400) = c.toNat := by
    unfold joinHalves
    omega
  rw [scanText_pair hhigh hlow, hjoin, Glyph.ofCode_toNat]

/-- What a character of a string is written as. -/
inductive Spells (c : Char) : List Char → Prop
  /-- Itself. -/
  | plain (isPrintable : IsPrintable c) (noMark : c ≠ '"') (noSlash : c ≠ '\\') : Spells c [c]
  /-- A backslash and a letter or a mark. -/
  | simple {x : Char} (isPrintable : IsPrintable x) (stands : simpleEscape? x = some c) :
      Spells c ['\\', x]
  /-- The escape of a code unit. -/
  | unit (isSmall : c.toNat < 0x10000) : Spells c (unitEscape c.toNat)
  /-- The escapes of two halves. -/
  | halves (isLarge : 0x10000 ≤ c.toNat) :
      Spells c (unitEscape (0xd800 + (c.toNat - 0x10000) / 0x400) ++
        unitEscape (0xdc00 + (c.toNat - 0x10000) % 0x400))

theorem spells_writeChar (c : Char) : Spells c (writeChar c) := by
  unfold writeChar
  split_ifs with hquote hslash hline hreturn htab hback hfeed hplain hsmall
  all_goals simp only [beq_iff_eq, Bool.and_eq_true, decide_eq_true_eq] at *
  · subst hquote
    exact .simple (by decide) rfl
  · subst hslash
    exact .simple (by decide) rfl
  · subst hline
    exact .simple (by decide) rfl
  · subst hreturn
    exact .simple (by decide) rfl
  · subst htab
    exact .simple (by decide) rfl
  · have hc : '\x08' = c := Char.toNat_inj.1 hback.symm
    exact hc ▸ .simple (by decide) rfl
  · have hc : '\x0c' = c := Char.toNat_inj.1 hfeed.symm
    exact hc ▸ .simple (by decide) rfl
  · exact .plain hplain hquote hslash
  · exact .unit hsmall
  · exact .halves (Nat.le_of_not_lt hsmall)

/-- A character that was written is read back, where something follows. -/
theorem scanText_spells {c : Char} {cs : List Char} (hspells : Spells c cs) (e : Char)
    (start pos : Nat) (done : List Glyph) (tail : List Char) :
    ∃ pos', scanText start pos done (cs ++ e :: tail) =
      scanText start pos' (.char c :: done) (e :: tail) := by
  have hrange := toNat_cases c
  cases hspells with
  | plain hprintable hmark hslash => exact ⟨_, scanText_plain hprintable hmark hslash⟩
  | simple _ hstands => exact ⟨_, scanText_simpleEscape hstands⟩
  | unit hsmall =>
    have hhalf : isHighHalf c.toNat = false := by
      simp only [isHighHalf, Bool.and_eq_false_iff, decide_eq_false_iff_not]
      omega
    refine ⟨pos + 6, ?_⟩
    rw [scanText_unitEscape hsmall hhalf, Glyph.ofCode_toNat]
  | halves hlarge =>
    rw [List.append_assoc]
    exact ⟨_, scanText_halves hlarge⟩

/-- The characters of a string up to its mark are read back. -/
theorem scanText_writeChars (cs rest : List Char) (start pos : Nat) (done : List Glyph) :
    ∃ pos', scanText start pos done (cs.flatMap writeChar ++ '"' :: rest) =
      (textToken (done.reverse ++ cs.map .char), pos', rest) := by
  induction cs generalizing pos done with
  | nil => exact ⟨pos + 1, by simp [scanText]⟩
  | cons c cs ih =>
    obtain ⟨e, tail, htail⟩ : ∃ e tail, cs.flatMap writeChar ++ '"' :: rest = e :: tail :=
      List.exists_cons_of_ne_nil (by simp)
    obtain ⟨next, hchar⟩ := scanText_spells (spells_writeChar c) e start pos done tail
    obtain ⟨pos', hrest⟩ := ih next (.char c :: done)
    refine ⟨pos', ?_⟩
    rw [List.flatMap_cons, List.append_assoc, htail, hchar, ← htail, hrest]
    simp

/-- A string that was written is one token. -/
theorem scan_writeText (s : String) (pos : Nat) (rest : List Char) :
    ∃ pos', scan pos '"' (s.toList.flatMap writeChar ++ '"' :: rest) =
      (.text s, pos', rest) := by
  obtain ⟨pos', htext⟩ := scanText_writeChars s.toList rest pos (pos + 1) []
  refine ⟨pos', ?_⟩
  simpa [scan, mark?, textToken] using htext

theorem isPrintable_unitEscape {unit : Nat} {c : Char} (hmem : c ∈ unitEscape unit) :
    IsPrintable c := by
  have hdigit (n : Nat) : IsPrintable (Nat.digitChar (n % 16)) :=
    isPrintable_digitChar _ (Nat.mod_lt n (by omega))
  rw [unitEscape, hexDigits_four] at hmem
  simp only [List.mem_cons, List.not_mem_nil, or_false] at hmem
  rcases hmem with rfl | rfl | rfl | rfl | rfl | rfl
  · decide
  · decide
  · exact hdigit _
  · exact hdigit _
  · exact hdigit _
  · exact hdigit _

theorem isPrintable_of_spells {c : Char} {cs : List Char} (hspells : Spells c cs) :
    ∀ d ∈ cs, IsPrintable d := by
  intro d hmem
  cases hspells with
  | plain hprintable _ _ => simpa [List.mem_singleton.1 hmem] using hprintable
  | simple hprintable _ =>
    rcases List.mem_cons.1 hmem with rfl | hletter
    · decide
    · simpa [List.mem_singleton.1 hletter] using hprintable
  | unit _ => exact isPrintable_unitEscape hmem
  | halves _ =>
    rcases List.mem_append.1 hmem with hhigh | hlow
    · exact isPrintable_unitEscape hhigh
    · exact isPrintable_unitEscape hlow

theorem isPrintable_writeText (s : String) : ∀ c ∈ writeText s, IsPrintable c := by
  intro c hmem
  simp only [writeText, List.mem_append, List.mem_cons, List.mem_flatMap, List.not_mem_nil,
    or_false] at hmem
  rcases hmem with (rfl | ⟨d, _, hd⟩) | rfl
  · decide
  · exact isPrintable_of_spells (spells_writeChar d) c hd
  · decide

/-! ## Whole numbers -/

/-- No number starts with a zero but zero. -/
theorem head?_toDigits_ne {n : Nat} (hn : 0 < n) : (Nat.toDigits 10 n).head? ≠ some '0' := by
  induction n using Nat.strongRecOn with
  | ind n ih =>
    rw [Nat.toDigits_eq_if (by omega)]
    split
    · next hsmall =>
      have hdigit : ∀ d, d < 10 → 0 < d → Nat.digitChar d ≠ '0' := by decide
      simpa using hdigit n hsmall hn
    · next hlarge =>
      have hfront := ih (n / 10) (by omega) (by omega)
      have hsome : Nat.toDigits 10 (n / 10) ≠ [] := Nat.toDigits_ne_nil
      obtain ⟨c, cs, hcs⟩ := List.exists_cons_of_ne_nil hsome
      rw [hcs] at hfront ⊢
      simpa using hfront

theorem spanWhole_toDigits (n : Nat) :
    spanWhole (Nat.toDigits 10 n) = (Nat.toDigits 10 n, []) := by
  rcases Nat.eq_zero_or_pos n with rfl | hn
  · rfl
  · have hhead := head?_toDigits_ne hn
    have hall := Numeral.isDigit_toDigits n
    unfold spanWhole
    split
    · next rest hzero => simp [hzero] at hhead
    · rw [spanDigits, List.span_eq_takeWhile_dropWhile, List.takeWhile_eq_self_iff.2 hall,
        List.dropWhile_eq_nil_iff.2 hall]

theorem digitsValue_toDigits (n : Nat) : digitsValue (Nat.toDigits 10 n) = n := by
  have hvalue := Numeral.valueOf_toDigits n
  rwa [Numeral.valueOf, List.foldl_map] at hvalue

/-- The digits of a number are read as the number, with or without a sign. -/
theorem scanNumber?_toDigits (negative : Bool) {n : Nat} (hfits : Numeral.Fits n) :
    scanNumber? negative (Nat.toDigits 10 n) =
      some (.int (if negative then -n else n), []) := by
  have hshort : ¬ Numeral.maxDigits < (Nat.toDigits 10 n).length := Nat.not_lt.2 hfits
  rw [scanNumber?, spanWhole_toDigits]
  split
  · next heq => exact absurd (Prod.mk.inj heq).1 Nat.toDigits_ne_nil
  · next whole rest _ heq =>
    obtain ⟨rfl, rfl⟩ := Prod.mk.inj heq
    simp [spanFraction, spanExponent, hshort, digitsValue_toDigits]

theorem isNumberPart_of_isDigit {c : Char} (hc : c.isDigit = true) : isNumberPart c = true := by
  rw [isNumberPart, hc, Bool.true_or]

/-- Nothing that could be part of a number stands at the front. -/
def EndsNumber (rest : List Char) : Prop := ∀ c ∈ rest.head?, isNumberPart c = false

/-- A number ends where nothing follows that could be a part of it. -/
theorem takeWhile_isNumberPart {cs rest : List Char} (hcs : ∀ c ∈ cs, isNumberPart c = true)
    (hrest : EndsNumber rest) : (cs ++ rest).takeWhile isNumberPart = cs := by
  rw [List.takeWhile_append_of_pos hcs]
  cases rest with
  | nil => simp
  | cons c more =>
    have hc : isNumberPart c = false := hrest c rfl
    simp [hc]

theorem isNumberPart_toString (n : Int) : ∀ c ∈ (toString n).toList, isNumberPart c = true := by
  intro c hc
  rcases Numeral.mem_toString hc with rfl | hdigit
  · decide
  · exact isNumberPart_of_isDigit hdigit

theorem scanSigned?_toString {n : Int} (hfits : Numeral.Fits n) {rest : List Char}
    (hrest : EndsNumber rest) :
    scanSigned? ((toString n).toList ++ rest) = some (.int n, (toString n).toList.length) := by
  have hfits' : Numeral.Fits (n.natAbs : Int) := hfits
  rw [scanSigned?, takeWhile_isNumberPart (isNumberPart_toString n) hrest, Numeral.toList_toString]
  split_ifs with hsign
  · split
    · next hminus =>
      have hdigit := Numeral.isDigit_toDigits n.natAbs '-' (by simp [hminus])
      cases hdigit
    · have hn : (n.natAbs : Int) = n := Int.natAbs_of_nonneg hsign
      rw [scanNumber?_toDigits false hfits', if_neg Bool.false_ne_true, hn]
      rfl
  · have hn : -(n.natAbs : Int) = n := by omega
    change (scanNumber? true (Nat.toDigits 10 n.natAbs)).map _ = _
    rw [scanNumber?_toDigits true hfits', if_pos rfl, hn]
    rfl

/-- No word starts like a number. -/
theorem scanWord?_toString (n : Int) (rest : List Char) :
    scanWord? ((toString n).toList ++ rest) = none := by
  obtain ⟨c, cs, hcs⟩ := List.exists_cons_of_ne_nil (Nat.toDigits_ne_nil (b := 10) (n := n.natAbs))
  have hc : c.isDigit = true := Numeral.isDigit_toDigits n.natAbs c (by simp [hcs])
  rw [scanWord?, Numeral.toList_toString, hcs]
  have hne {d : Char} (hd : d.isDigit = false) : d ≠ c := by
    rintro rfl
    exact Bool.false_ne_true (hd.symm.trans hc)
  split
  · simp [words, hne]
  · simp [words, hne]

/-! ## Tokens -/

theorem tokensFrom_mark {c : Char} {token : Token} (hmark : mark? c = some token)
    (fuel pos : Nat) (rest : List Char) :
    tokensFrom (fuel + 1) pos (c :: rest) = (pos, token) :: tokensFrom fuel (pos + 1) rest := by
  have hspace : isSpace c = false := by
    unfold mark? at hmark
    split at hmark <;> first | rfl | cases hmark
  rw [tokensFrom]
  simp [hspace, scan, hmark]

/-- What a number may hold is no space, no mark and no quotation mark. -/
theorem apart_of_isNumberPart {c : Char} (hpart : isNumberPart c = true) :
    isSpace c = false ∧ mark? c = none ∧ c ≠ '"' := by
  have hne {d : Char} (hd : isNumberPart d = false) : c ≠ d := by
    rintro rfl
    exact Bool.false_ne_true (hd.symm.trans hpart)
  refine ⟨?_, ?_, hne (by decide)⟩
  · simp only [isSpace, Bool.or_eq_false_iff, beq_eq_false_iff_ne]
    exact ⟨⟨⟨hne (by decide), hne (by decide)⟩, hne (by decide)⟩, hne (by decide)⟩
  · unfold mark?
    split
    all_goals first | rfl | cases hpart

theorem isPrintable_of_isNumberPart {c : Char} (hpart : isNumberPart c = true) :
    IsPrintable c := by
  rw [isNumberPart, Bool.or_eq_true] at hpart
  rcases hpart with hdigit | hother
  · have hrange := Numeral.toNat_of_isDigit hdigit
    exact ⟨by omega, by omega⟩
  · have hall : ∀ d ∈ ['-', '+', '.', 'e', 'E'], IsPrintable d := by decide
    exact hall c (by simpa using hother)

/-- A whole number that has a text has few enough digits. -/
theorem fits_of_isWritable {n : Int} (hwritable : (Scalar.int n).isWritable = true) :
    Numeral.Fits n := by
  have htenTo (k : Nat) : Decimal.tenTo k = 10 ^ k := rfl
  have hpos : 0 < Numeral.maxDigits := by decide
  rw [Scalar.isWritable, decide_eq_true_eq, htenTo] at hwritable
  exact (Nat.length_toDigits_le_iff (by decide) hpos).2 hwritable

theorem toString_ne_nil (n : Int) : (toString n).toList ≠ [] := by
  rw [Numeral.toList_toString]
  split
  · exact Nat.toDigits_ne_nil
  · exact List.cons_ne_nil _ _

/-- The token that a value without parts is written as. -/
inductive Stands : Scalar → Token → Prop
  | null : Stands .null .null
  | bool (b : Bool) : Stands (.bool b) (.bool b)
  | int {n : Int} (isWritable : (Scalar.int n).isWritable = true) : Stands (.int n) (.int n)
  | text (s : String) : Stands (.text s) (.text s)

theorem writeScalar_ne_nil {s : Scalar} {token : Token} (hstands : Stands s token) :
    writeScalar s ≠ [] := by
  cases hstands with
  | null => decide
  | bool b => cases b <;> decide
  | int _ => exact toString_ne_nil _
  | text s => simp [writeScalar, writeText]

theorem tokensFrom_writeScalar {s : Scalar} {token : Token} (hstands : Stands s token)
    {rest : List Char} (hrest : EndsNumber rest) (fuel pos : Nat) :
    ∃ pos', tokensFrom (fuel + 1) pos (writeScalar s ++ rest) =
      (pos, token) :: tokensFrom fuel pos' rest := by
  cases hstands with
  | null => exact ⟨_, rfl⟩
  | bool b => cases b <;> exact ⟨_, rfl⟩
  | text s =>
    obtain ⟨pos', hscan⟩ := scan_writeText s pos rest
    refine ⟨pos', ?_⟩
    simp only [writeScalar, writeText, List.cons_append, List.append_assoc, List.nil_append]
    rw [tokensFrom]
    simp [isSpace, hscan]
  | @int n hwritable =>
    have hsigned := scanSigned?_toString (fits_of_isWritable hwritable) hrest
    have hword := scanWord?_toString n rest
    obtain ⟨c, cs, hcs⟩ := List.exists_cons_of_ne_nil (toString_ne_nil n)
    have hpart : isNumberPart c = true :=
      isNumberPart_toString n c (hcs ▸ List.mem_cons_self)
    obtain ⟨hspace, hmark, hquote⟩ := apart_of_isNumberPart hpart
    rw [hcs] at hsigned hword
    refine ⟨pos + (c :: cs).length, ?_⟩
    rw [writeScalar, hcs, List.cons_append, tokensFrom]
    simp only [List.cons_append] at hsigned hword
    simp [hspace, scan, hmark, hquote, hword, hsigned]

end Json

end FindingLedger
