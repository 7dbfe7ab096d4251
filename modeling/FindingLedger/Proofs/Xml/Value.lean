/-
What a spelled value stands for.

Reading a spelling gives the value that it spells.  Every reference in it adds one byte to
what has been read of entities, and the spelling itself has been counted before, so the
limit on growth is never met.
-/
import FindingLedger.Proofs.Xml.Source
import FindingLedger.Proofs.Xml.Spelling

namespace FindingLedger

namespace Xml

/-- So much has been read of the document itself that `n` more characters may stand in
entities. -/
def Tally.HasRoom (t : Tally) (n : Nat) : Prop := t.indirect + n ≤ t.direct

/-- A text in the document itself, in UTF-8. -/
def Origin.IsDirect (o : Origin) : Prop := o = .document .utf8 ∨ o = .counted .utf8

namespace Tally

variable {t : Tally} {m n : Nat}

theorem HasRoom.mono (hroom : t.HasRoom n) (hle : m ≤ n) : t.HasRoom m :=
  Nat.le_trans (Nat.add_le_add_left hle _) hroom

theorem HasRoom.exceeds_eq (hroom : t.HasRoom n) : t.exceeds = false := by
  unfold HasRoom at hroom
  rw [exceeds, Bool.and_eq_false_iff, decide_eq_false_iff_not, decide_eq_false_iff_not,
    expansionFactor]
  exact Or.inr (by omega)

theorem le_sizeOf (sum count : Nat) (cs : List Char) :
    sum ≤ Encoding.utf8.sizeOf sum count cs := by
  induction cs generalizing sum count with
  | nil => cases count <;> exact Nat.le_refl sum
  | cons c rest ih =>
    cases count with
    | zero => exact Nat.le_refl sum
    | succ count => exact Nat.le_trans (Nat.le_add_right _ _) (ih _ count)

theorem HasRoom.add (hroom : t.HasRoom n) {o : Origin} (ho : o.IsDirect) (count : Nat)
    (cs : List Char) : (t.add o count cs).HasRoom n := by
  rcases ho with rfl | rfl
  · exact Nat.le_trans hroom (le_sizeOf _ _ _)
  · exact hroom

theorem HasRoom.add_append (hroom : t.HasRoom n) (cs rest : List Char) :
    (t.add (.document .utf8) cs.length (cs ++ rest)).HasRoom (cs.length + n) := by
  have hsize := add_length_le_sizeOf t.direct cs rest
  unfold HasRoom at hroom ⊢
  rw [Tally.add]
  dsimp only
  omega

theorem HasRoom.addPredefined (hroom : t.HasRoom (n + 1)) : t.addPredefined.HasRoom n := by
  unfold HasRoom at hroom ⊢
  rw [Tally.addPredefined]
  dsimp only
  omega

end Tally

theorem Origin.IsDirect.encoding_eq {o : Origin} (ho : o.IsDirect) : o.encoding = .utf8 := by
  rcases ho with rfl | rfl <;> rfl

namespace Expansion

variable {v : ValueSetting}

theorem skip_eq (hv : v.origin.IsDirect) (pos count : Nat) (outer done cs : List Char)
    {tally : Tally} {n : Nat} (hroom : tally.HasRoom n) :
    skip v ⟨pos, outer, [], done, tally⟩ count cs =
      .ok ⟨pos + count, cs.drop count, [], done, tally.add v.origin count cs⟩ := by
  change (if (tally.add v.origin count cs).exceeds = true then _ else _) = _
  rw [(hroom.add hv count cs).exceeds_eq]
  rfl

theorem step_plain (hv : v.origin.IsDirect) {pos n : Nat} {c : Char} {rest done : List Char}
    {tally : Tally} (hlegal : isLegal c = true) (hplain : c ∉ marked) (hroom : tally.HasRoom n) :
    step v true ⟨pos, c :: rest, [], done, tally⟩ c rest =
      .ok ⟨pos + 1, rest, [], c :: done, tally.add v.origin 1 (c :: rest)⟩ := by
  simp only [marked, List.mem_cons, List.not_mem_nil, or_false, not_or] at hplain
  obtain ⟨hamp, hlt, _, _, htab, hlf, hcr⟩ := hplain
  have hfault : c ≠ fault := by
    rintro rfl
    cases hlegal
  rw [step, if_neg (by simpa using hamp), if_neg (by simp [hlt, hfault])]
  have hpair : (([] : List (List Char × List Char)).isEmpty && v.surrounding.isEmpty &&
      c == '\r' && rest.head? == some '\n') = false := by
    simp [hcr]
  dsimp only
  rw [hpair, if_neg Bool.false_ne_true, skip_eq hv _ _ _ _ _ hroom]
  by_cases hspace : c = ' '
  · subst hspace
    rfl
  · have hother : isSpace c = false := by
      simp [isSpace, hspace, htab, hlf, hcr]
    change (if isSpace c = true then _ else _) = _
    rw [hother, if_neg Bool.false_ne_true]
    rfl

theorem step_reference (hv : v.origin.IsDirect) (pos : Nat) {c : Char} {body : List Char}
    (hlegal : isLegal c = true) (hbody : RefersTo c body) (rest done : List Char)
    {tally : Tally} {n : Nat} (hroom : tally.HasRoom (n + 1)) :
    ∃ tally', step v true ⟨pos, '&' :: (body ++ ';' :: rest), [], done, tally⟩ '&'
        (body ++ ';' :: rest) =
      .ok ⟨pos + (body.length + 2), rest, [], c :: done, tally'⟩ ∧ tally'.HasRoom n := by
  obtain ⟨r, hscan, hstands⟩ := scanReference_append hbody (pos + 1) rest
  have hcount : pos + 1 + body.length + 1 - pos = body.length + 2 := by omega
  have hdrop : ('&' :: (body ++ ';' :: rest)).drop (body.length + 2) = rest := by
    rw [List.drop_succ_cons, List.drop_append, List.drop_eq_nil_of_le (by omega),
      show body.length + 1 - body.length = 1 by omega]
    rfl
  have hskip := skip_eq hv pos (body.length + 2) ('&' :: (body ++ ';' :: rest)) done
    ('&' :: (body ++ ';' :: rest)) hroom
  have hnext := hroom.add hv (body.length + 2) ('&' :: (body ++ ';' :: rest))
  have horigin : origin v ⟨pos, '&' :: (body ++ ';' :: rest), [], done, tally⟩ = v.origin := rfl
  rw [step, if_pos (beq_self_eq_true '&'), reference, horigin, hv.encoding_eq, List.tail_cons,
    hscan]
  dsimp only
  rw [hcount, hskip, hdrop]
  cases hstands with
  | code =>
    refine ⟨_, ?_, hnext.mono (Nat.le_succ n)⟩
    change (if (!isLegalCode c.toNat) = true then _ else _) = _
    rw [if_neg (by rw [show isLegalCode c.toNat = true from hlegal]; simp), Char.ofNat_toNat]
    by_cases hspace : c.toNat = 0x20
    · have hc : c = ' ' := by rw [← Char.ofNat_toNat c, hspace]
      subst hc
      rfl
    · rw [if_neg (by simpa using hspace)]
  | entity hname =>
    refine ⟨_, ?_, hnext.addPredefined⟩
    change refer v _ _ _ = _
    rw [refer, hname]

theorem run_of_spells (hv : v.origin.IsDirect) {value text : List Char}
    (hspells : Spells value text) {fuel : Nat} (hfuel : text.length < fuel) (pos : Nat)
    (done : List Char) {tally : Tally} {n : Nat} (hroom : tally.HasRoom (text.length + n)) :
    ∃ tally', run v true fuel ⟨pos, text, [], done, tally⟩ = .ok (done.reverse ++ value, tally') ∧
      tally'.HasRoom n := by
  -- By induction on the spelling; one character or one reference is one step.
  induction hspells generalizing fuel pos done tally with
  | nil =>
    cases fuel with
    | zero => exact absurd hfuel (Nat.not_lt_zero _)
    | succ fuel =>
      refine ⟨tally, ?_, hroom.mono (Nat.le_add_left _ _)⟩
      rw [run, List.append_nil]
      rfl
  | @plain c cs text hlegal hplain _ ih =>
    rw [List.length_cons] at hfuel hroom
    cases fuel with
    | zero => exact absurd hfuel (Nat.not_lt_zero _)
    | succ fuel =>
      have hnext := hroom.add hv 1 (c :: text)
      obtain ⟨tally', hrun, hleft⟩ := ih (show text.length < fuel by omega) (pos + 1)
        (c :: done) (hnext.mono (by omega))
      rw [List.reverse_cons, List.append_assoc] at hrun
      refine ⟨tally', ?_, hleft⟩
      rw [run]
      dsimp only
      rw [step_plain hv hlegal hplain hroom]
      exact hrun
  | @reference c cs body text hlegal hbody _ ih =>
    rw [List.length_cons, List.length_append, List.length_cons] at hfuel hroom
    cases fuel with
    | zero => exact absurd hfuel (Nat.not_lt_zero _)
    | succ fuel =>
      obtain ⟨next, hstep, hnext⟩ := step_reference hv pos hlegal hbody text done
        (n := text.length + n) (hroom.mono (by omega))
      obtain ⟨tally', hrun, hleft⟩ := ih (show text.length < fuel by omega)
        (pos + (body.length + 2)) (c :: done) hnext
      rw [List.reverse_cons, List.append_assoc] at hrun
      refine ⟨tally', ?_, hleft⟩
      rw [run]
      dsimp only
      rw [hstep]
      exact hrun

end Expansion

theorem not_mem_of_goesOnSettled {cs : List Char} (hcs : goesOnSettled cs = true) : '&' ∉ cs := by
  induction cs with
  | nil => exact List.not_mem_nil
  | cons c rest ih =>
    unfold goesOnSettled at hcs
    split at hcs
    · next heq => cases heq
    · next heq =>
      obtain ⟨rfl, rfl⟩ := List.cons.inj heq
      simp only [Bool.and_eq_true] at hcs
      exact List.not_mem_cons_of_ne_of_not_mem (by decide) (ih hcs.2)
    · next heq =>
      obtain ⟨rfl, rfl⟩ := List.cons.inj heq
      simp only [Bool.and_eq_true, bne_iff_ne] at hcs
      exact List.not_mem_cons_of_ne_of_not_mem (Ne.symm hcs.1.1) (ih hcs.2)

/-- Without references a spelling is its own value. -/
theorem eq_of_spells {value text : List Char} (hspells : Spells value text)
    (hamp : '&' ∉ text) : value = text := by
  induction hspells with
  | nil => rfl
  | plain _ _ _ ih => rw [ih fun hmem => hamp (List.mem_cons_of_mem _ hmem)]
  | reference => exact absurd List.mem_cons_self hamp

theorem tagValue_of_spells {v : ValueSetting} (hv : v.origin.IsDirect) {value text : List Char}
    (hspells : Spells value text) (hsteps : text.length < v.steps) {tally : Tally} {n : Nat}
    (hroom : tally.HasRoom (text.length + n)) (namePos valuePos : Nat) (name : List Char) :
    ∃ tally', tagValue v tally true ⟨namePos, name, valuePos, text⟩ = .ok (value, tally') ∧
      tally'.HasRoom n := by
  by_cases hsettled : isSettled text = true
  · refine ⟨tally, ?_, hroom.mono (Nat.le_add_left _ _)⟩
    have hgoesOn : goesOnSettled text = true := (Bool.and_eq_true_iff.1 hsettled).2
    rw [tagValue, if_pos hsettled, eq_of_spells hspells (not_mem_of_goesOnSettled hgoesOn)]
  · rw [tagValue, if_neg hsettled, expandValue]
    exact Expansion.run_of_spells hv hspells hsteps valuePos [] hroom

end Xml

end FindingLedger
