/-
Values of attributes as texts between quotation marks.

A character stands for itself or is referred to, by the name of an entity that needs no
declaration or by its code; a marked character has to be referred to.  Every value of
legal characters can be spelled, and a spelling is scanned up to the closing mark.
-/
import FindingLedger.Proofs.Xml.Name

namespace FindingLedger

namespace Xml

/-- The characters that are only referred to in a value. -/
def marked : List Char := ['&', '<', '>', '"', '\t', '\n', '\r']

/-- The number that digits to a base stand for, most significant first. -/
def codeOf (base : Nat) (digits : List Char) : Nat :=
  digits.foldl (fun n d => n * base + hexValue d) 0

/-- What may stand in a reference to a character, between the ampersand and the
semicolon. -/
inductive RefersTo (c : Char) : List Char → Prop
  | entity {name : List Char} (hname : predefined? name = some c) : RefersTo c name
  | decimal {digits : List Char} (hsome : digits ≠ [])
      (hdigits : ∀ d ∈ digits, d.isDigit = true) (hcode : codeOf 10 digits = c.toNat) :
      RefersTo c ('#' :: digits)
  | hexadecimal {digits : List Char} (hsome : digits ≠ [])
      (hdigits : ∀ d ∈ digits, isHexDigit d = true) (hcode : codeOf 16 digits = c.toNat) :
      RefersTo c ('#' :: 'x' :: digits)

/-- A text spells a value of legal characters. -/
inductive Spells : List Char → List Char → Prop
  | nil : Spells [] []
  | plain {c : Char} {cs text : List Char} (hlegal : isLegal c = true) (hplain : c ∉ marked)
      (hrest : Spells cs text) : Spells (c :: cs) (c :: text)
  | reference {c : Char} {cs body text : List Char} (hlegal : isLegal c = true)
      (hbody : RefersTo c body) (hrest : Spells cs text) :
      Spells (c :: cs) ('&' :: (body ++ ';' :: text))

/-- What is written between the ampersand and the semicolon for a marked character. -/
def referenceFor? : Char → Option (List Char)
  | '&' => some ['a', 'm', 'p']
  | '<' => some ['l', 't']
  | '>' => some ['g', 't']
  | '"' => some ['q', 'u', 'o', 't']
  | '\t' => some ['#', '9']
  | '\n' => some ['#', '1', '0']
  | '\r' => some ['#', 'x', 'D']
  | _ => none

/-- The usual spelling of a value. -/
def spell : List Char → List Char
  | [] => []
  | c :: rest =>
    match referenceFor? c with
    | some body => '&' :: (body ++ ';' :: spell rest)
    | none => c :: spell rest

theorem refersTo_of_referenceFor? {c : Char} {body : List Char}
    (hbody : referenceFor? c = some body) : RefersTo c body := by
  unfold referenceFor? at hbody
  split at hbody
  · cases hbody; exact .entity rfl
  · cases hbody; exact .entity rfl
  · cases hbody; exact .entity rfl
  · cases hbody; exact .entity rfl
  · cases hbody; exact .decimal (by simp) (List.all_eq_true.1 rfl) rfl
  · cases hbody; exact .decimal (by simp) (List.all_eq_true.1 rfl) rfl
  · cases hbody; exact .hexadecimal (by simp) (List.all_eq_true.1 rfl) rfl
  · cases hbody

theorem not_mem_marked_of_referenceFor? {c : Char} (hbody : referenceFor? c = none) :
    c ∉ marked := by
  intro hmem
  simp only [marked, List.mem_cons, List.not_mem_nil, or_false] at hmem
  rcases hmem with rfl | rfl | rfl | rfl | rfl | rfl | rfl <;> cases hbody

theorem spells_spell {cs : List Char} (hlegal : ∀ c ∈ cs, isLegal c = true) :
    Spells cs (spell cs) := by
  induction cs with
  | nil => exact .nil
  | cons c rest ih =>
    have hc := hlegal c List.mem_cons_self
    have hrest := ih fun d hd => hlegal d (List.mem_cons_of_mem c hd)
    rw [spell]
    cases hbody : referenceFor? c with
    | none => exact .plain hc (not_mem_marked_of_referenceFor? hbody) hrest
    | some body => exact .reference hc (refersTo_of_referenceFor? hbody) hrest

/-- A text that needs no references spells itself. -/
theorem spells_self {cs : List Char} (hlegal : ∀ c ∈ cs, isLegal c = true)
    (hplain : ∀ c ∈ cs, c ∉ marked) : Spells cs cs := by
  induction cs with
  | nil => exact .nil
  | cons c rest ih =>
    exact .plain (hlegal c List.mem_cons_self) (hplain c List.mem_cons_self)
      (ih (fun d hd => hlegal d (List.mem_cons_of_mem c hd))
        fun d hd => hplain d (List.mem_cons_of_mem c hd))

/-- What a scanned reference refers to. -/
inductive Reference.StandsFor (c : Char) : Reference → Prop
  | code : StandsFor c (.code c.toNat)
  | entity {name : List Char} (hname : predefined? name = some c) : StandsFor c (.entity name)

theorem scanCode_append (base : Nat) {isDigit : Char → Bool} {digits : List Char}
    (hsome : digits ≠ []) (hdigits : ∀ d ∈ digits, isDigit d = true)
    (hend : isDigit ';' = false) (pos : Nat) (rest : List Char) :
    scanCode base isDigit pos (digits ++ ';' :: rest) =
      .found (.code (codeOf base digits)) (pos + digits.length + 1) rest := by
  rw [scanCode, takeWhile_append_stop hdigits hend, dropWhile_append_stop hdigits hend]
  simp [hsome, codeOf]

/-- The names of the entities that need no declaration. -/
theorem isName_of_predefined? {name : List Char} {c : Char} (hname : predefined? name = some c) :
    isName name = true := by
  have hlist : name = (String.ofList name).toList := String.toList_ofList.symm
  unfold predefined? at hname
  split at hname
  · next h => rw [hlist, h]; decide
  · next h => rw [hlist, h]; decide
  · next h => rw [hlist, h]; decide
  · next h => rw [hlist, h]; decide
  · next h => rw [hlist, h]; decide
  · cases hname

theorem scanReference_append {c : Char} {body : List Char} (hbody : RefersTo c body) (pos : Nat)
    (rest : List Char) :
    ∃ r, scanReference .utf8 pos (body ++ ';' :: rest) =
      .found r (pos + body.length + 1) rest ∧ r.StandsFor c := by
  -- A reference is to a name or to a code, and only a code starts with a number sign.
  cases hbody with
  | entity hname =>
    have hscan := scanName_append (isName_of_predefined? hname)
      (show endsName ';' = true by decide) pos rest
    obtain ⟨first, more, rfl, hfirst, _⟩ := exists_cons_of_isName (isName_of_predefined? hname)
    have hhash : first ≠ '#' := by
      rintro rfl
      cases hfirst
    refine ⟨_, ?_, .entity hname⟩
    unfold scanReference
    split
    · next heq => exact absurd (List.cons.inj heq).1 hhash
    · next heq => exact absurd (List.cons.inj heq).1 hhash
    · rw [hscan]
      rfl
  | @decimal digits hsome hdigits hcode =>
    cases digits with
    | nil => exact absurd rfl hsome
    | cons d ds =>
      have hscan := scanCode_append 10 hsome hdigits (by decide) (pos + 1) rest
      refine ⟨_, ?_, .code⟩
      rw [List.cons_append]
      unfold scanReference
      split
      · next heq =>
        cases heq
        exact absurd (hdigits 'x' List.mem_cons_self) (by decide)
      · next heq =>
        cases heq
        rw [hscan, hcode]
        congr 1
        simp only [List.length_cons]
        omega
      · next hne => exact absurd rfl (hne _)
  | hexadecimal hsome hdigits hcode =>
    refine ⟨_, ?_, .code⟩
    rw [List.cons_append, List.cons_append, scanReference,
      scanCode_append 16 hsome hdigits (by decide), hcode]
    congr 1
    simp only [List.length_cons]
    omega

/-- A character that a value may hold as it is and that neither closes the value nor
starts a reference. -/
def isQuiet (c : Char) : Bool := isLegal c && ['"', '<', '&'].all (· != c)

theorem isQuiet_iff {c : Char} :
    isQuiet c = true ↔ isLegal c = true ∧ c ≠ '"' ∧ c ≠ '<' ∧ c ≠ '&' := by
  simp [isQuiet, ne_comm]

theorem isLegal_of_printable {c : Char} (hlo : 0x20 ≤ c.toNat) (hhi : c.toNat < 0x80) :
    isLegal c = true := by
  rw [isLegal, isLegalCode, if_neg (by omega)]
  simp only [Bool.or_eq_true, decide_eq_true_eq]
  omega

theorem isQuiet_of_not_mem_marked {c : Char} (hlegal : isLegal c = true) (hplain : c ∉ marked) :
    isQuiet c = true := by
  simp only [marked, List.mem_cons, List.not_mem_nil, or_false, not_or] at hplain
  exact isQuiet_iff.2 ⟨hlegal, hplain.2.2.2.1, hplain.2.1, hplain.1⟩

theorem isQuiet_of_isHexDigit {c : Char} (hc : isHexDigit c = true) : isQuiet c = true := by
  have hne : ∀ d, isHexDigit d = false → c ≠ d := by
    rintro d hd rfl
    rw [hc] at hd
    cases hd
  refine isQuiet_iff.2 ⟨?_, hne _ (by decide), hne _ (by decide), hne _ (by decide)⟩
  simp only [isHexDigit, Char.isDigit, Bool.or_eq_true, Bool.and_eq_true, decide_eq_true_eq] at hc
  have hrange : 48 ≤ c.toNat ∧ c.toNat ≤ 102 := by
    rcases hc with (⟨hlo, hhi⟩ | ⟨hlo, hhi⟩) | ⟨hlo, hhi⟩
    · exact ⟨hlo, Nat.le_trans hhi (by decide)⟩
    · exact ⟨Nat.le_trans (by decide) hlo, hhi⟩
    · exact ⟨Nat.le_trans (by decide) hlo, Nat.le_trans hhi (by decide)⟩
  exact isLegal_of_printable (by omega) (by omega)

theorem isQuiet_of_refersTo {c : Char} {body : List Char} (hbody : RefersTo c body) :
    ∀ d ∈ body, isQuiet d = true := by
  cases hbody with
  | entity hname =>
    have hlist : body = (String.ofList body).toList := String.toList_ofList.symm
    unfold predefined? at hname
    split at hname
    · next h => rw [hlist, h]; exact List.all_eq_true.1 rfl
    · next h => rw [hlist, h]; exact List.all_eq_true.1 rfl
    · next h => rw [hlist, h]; exact List.all_eq_true.1 rfl
    · next h => rw [hlist, h]; exact List.all_eq_true.1 rfl
    · next h => rw [hlist, h]; exact List.all_eq_true.1 rfl
    · cases hname
  | decimal _ hdigits _ =>
    refine List.forall_mem_cons.2 ⟨by decide, fun d hd => isQuiet_of_isHexDigit ?_⟩
    rw [isHexDigit, hdigits d hd, Bool.true_or, Bool.true_or]
  | hexadecimal _ hdigits _ =>
    refine List.forall_mem_cons.2 ⟨by decide, List.forall_mem_cons.2 ⟨by decide, ?_⟩⟩
    exact fun d hd => isQuiet_of_isHexDigit (hdigits d hd)

theorem scanValue_append {cs : List Char} (hcs : ∀ c ∈ cs, isQuiet c = true) (pos : Nat)
    (done rest : List Char) :
    scanValue .utf8 '"' pos done (cs ++ rest) =
      scanValue .utf8 '"' (pos + cs.length) (cs.reverse ++ done) rest := by
  induction cs generalizing pos done with
  | nil => rfl
  | cons c more ih =>
    obtain ⟨hlegal, hmark, hopen, href⟩ := isQuiet_iff.1 (hcs c List.mem_cons_self)
    rw [List.cons_append, scanValue, if_neg (by simpa using hmark),
      if_neg (by simp [hopen, hlegal]), if_neg (by simpa using href),
      ih fun d hd => hcs d (List.mem_cons_of_mem c hd), List.reverse_cons, List.append_assoc,
      List.length_cons]
    congr 1
    omega

/-- A spelling is scanned up to the closing mark. -/
theorem scanValue_of_spells {value text : List Char} (hspells : Spells value text) (pos : Nat)
    (done rest : List Char) :
    scanValue .utf8 '"' pos done (text ++ '"' :: rest) =
      .found (done.reverse ++ text) (pos + text.length + 1) rest := by
  induction hspells generalizing pos done with
  | nil =>
    rw [List.nil_append, scanValue, if_pos (beq_self_eq_true '"'), List.append_nil]
    rfl
  | @plain c _ text hlegal hplain _ ih =>
    have hquiet := isQuiet_of_not_mem_marked hlegal hplain
    have hstep := scanValue_append (List.forall_mem_singleton.2 hquiet) pos done
      (text ++ '"' :: rest)
    rw [List.singleton_append] at hstep
    rw [List.cons_append, hstep, ih, List.length_singleton, List.length_cons,
      List.reverse_append, List.append_assoc]
    congr 1
    omega
  | @reference c _ body text hlegal hbody _ ih =>
    obtain ⟨r, hscan, _⟩ := scanReference_append hbody (pos + 1) (text ++ '"' :: rest)
    have hquiet : ∀ d ∈ body ++ [';'], isQuiet d = true := by
      refine List.forall_mem_append.2 ⟨isQuiet_of_refersTo hbody, ?_⟩
      exact List.forall_mem_singleton.2 (by decide)
    have hstep := scanValue_append hquiet (pos + 1) ('&' :: done) (text ++ '"' :: rest)
    rw [List.append_assoc, List.singleton_append] at hstep
    rw [List.cons_append, List.append_assoc, List.cons_append, scanValue, if_neg (by decide),
      if_neg (by decide), if_pos (beq_self_eq_true '&'), hscan]
    dsimp only
    rw [hstep, ih]
    simp only [List.reverse_append, List.reverse_reverse, List.reverse_cons, List.append_assoc,
      List.length_append, List.length_cons, List.length_nil, List.cons_append, List.nil_append,
      List.reverse_nil]
    congr 1
    omega

end Xml

end FindingLedger
