/-
The characters of a document in UTF-8.

A document that is written in UTF-8 is decoded to what was written, as long as the mark
for a cut character is not part of it.  Every character takes at least one byte.
-/
import FindingLedger.Proofs.Text.Utf8
import FindingLedger.Xml.Source

namespace FindingLedger

namespace Xml

/-- What continues a byte tells how many bytes the character takes. -/
theorem utf8Size?_of_shape? {b lo hi : UInt8} {n : Nat}
    (hshape : Utf8.shape? b = some (n, lo, hi)) : utf8Size? b = some (n + 1) := by
  simp only [Utf8.shape?, UInt8.lt_iff_toNat_lt, beq_iff_eq, ← UInt8.toNat_inj,
    UInt8.reduceToNat] at hshape
  simp only [utf8Size?, UInt8.lt_iff_toNat_lt, UInt8.reduceToNat]
  grind

theorem decodeUtf8_encode (done : List Char) {cs : List Char} (hcut : cutChar ∉ cs) :
    decodeUtf8 done (cs.flatMap String.utf8EncodeChar) = ⟨done.reverse ++ cs, false⟩ := by
  induction cs generalizing done with
  | nil => rw [List.flatMap_nil, decodeUtf8, List.append_nil]
  | cons c rest ih =>
    obtain ⟨lead, more, lo, hi, hencode, hshape, htake, _⟩ := Utf8.sequence c
    have hc : (c == cutChar) = false := by
      rw [beq_eq_false_iff_ne]
      rintro rfl
      exact hcut List.mem_cons_self
    have henough : ¬ ((more ++ rest.flatMap String.utf8EncodeChar).take
        (more.length + 1 - 1)).length < more.length + 1 - 1 := by
      rw [List.length_take, List.length_append]
      omega
    rw [List.flatMap_cons, hencode, List.cons_append, decodeUtf8, utf8Size?_of_shape? hshape]
    dsimp only
    rw [if_neg henough]
    split
    · next hnone => rw [hshape] at hnone; cases hnone
    · next n lo' hi' hsome =>
      rw [hshape] at hsome
      cases hsome
      split
      · next herror => rw [htake] at herror; cases herror
      · next code rest' hok =>
        rw [htake] at hok
        cases hok
        rw [Char.ofNat_toNat, hc, ih _ fun hmem => hcut (List.mem_cons_of_mem c hmem),
          List.reverse_cons, List.append_assoc]
        rfl

theorem length_le_length_encode (cs : List Char) :
    cs.length ≤ (cs.flatMap String.utf8EncodeChar).length := by
  induction cs with
  | nil => exact Nat.le_refl 0
  | cons c rest ih =>
    have hpos : 0 < (String.utf8EncodeChar c).length := by
      rw [(Utf8.sequence c).encode_eq]
      exact Nat.succ_pos _
    rw [List.flatMap_cons, List.length_append, List.length_cons]
    omega

theorem charSize_utf8_pos (c : Char) : 0 < Encoding.utf8.charSize c := by
  rw [Encoding.charSize]
  split
  · exact Nat.one_pos
  · exact c.utf8Size_pos

/-- Characters take at least as many bytes as they are. -/
theorem add_length_le_sizeOf (sum : Nat) (cs rest : List Char) :
    sum + cs.length ≤ Encoding.utf8.sizeOf sum cs.length (cs ++ rest) := by
  induction cs generalizing sum with
  | nil =>
    rw [List.length_nil, Encoding.sizeOf]
    exact Nat.le_refl _
  | cons c more ih =>
    have hc := charSize_utf8_pos c
    have hmore := ih (sum + Encoding.utf8.charSize c)
    rw [List.length_cons, List.cons_append, Encoding.sizeOf]
    omega

end Xml

end FindingLedger
