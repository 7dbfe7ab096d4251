/-
Bytes and back.

The bytes of a character are a lead byte, which tells how many bytes continue it, and
these bytes, which hold the code of the character six bits at a time.
-/
import FindingLedger.Text.Utf8
import Mathlib.Init

namespace FindingLedger

namespace Utf8

/-- The bytes that stand for a character, as a decoder takes them: a lead byte and what
continues it. -/
structure Sequence (c : Char) where
  lead : UInt8
  more : List UInt8
  lo : UInt8
  hi : UInt8
  encode_eq : String.utf8EncodeChar c = lead :: more
  shape_eq : shape? lead = some (more.length, lo, hi)
  take_eq : ∀ rest, takeContinuation lo hi 1 (leadBits lead more.length) more.length
    (more ++ rest) = .ok (c.toNat, rest)
  lead_pos : c.toNat ≠ 0 → lead ≠ 0

/-- A byte that continues a character. -/
theorem toNat_ofNat_add (n base : Nat) (h : n + base < 256) :
    (UInt8.ofNat (n + base)).toNat = n + base := by
  rw [UInt8.toNat_ofNat', Nat.mod_eq_of_lt h]

theorem shape?_of_lt_128 {b : UInt8} (h : b.toNat < 0x80) : shape? b = some (0, 0x80, 0xbf) := by
  rw [shape?, if_pos (UInt8.lt_iff_toNat_lt.2 h)]

theorem shape?_two {b : UInt8} (hlo : 0xc2 ≤ b.toNat) (hhi : b.toNat < 0xe0) :
    shape? b = some (1, 0x80, 0xbf) := by
  simp only [shape?, UInt8.lt_iff_toNat_lt, UInt8.reduceToNat]
  rw [if_neg (by omega), if_neg (by omega), if_pos hhi]

theorem shape?_three {b : UInt8} (hlo : 0xe0 ≤ b.toNat) (hhi : b.toNat < 0xf0) :
    shape? b = some (2, if b.toNat = 0xe0 then 0xa0 else 0x80,
      if b.toNat = 0xed then 0x9f else 0xbf) := by
  simp only [shape?, UInt8.lt_iff_toNat_lt, beq_iff_eq, ← UInt8.toNat_inj, UInt8.reduceToNat]
  rw [if_neg (by omega), if_neg (by omega), if_neg (by omega)]
  by_cases h0 : b.toNat = 0xe0
  · simp [h0]
  · by_cases hd : b.toNat = 0xed
    · simp [hd]
    · simp [h0, hd, hhi]

theorem shape?_four {b : UInt8} (hlo : 0xf0 ≤ b.toNat) (hhi : b.toNat < 0xf5) :
    shape? b = some (3, if b.toNat = 0xf0 then 0x90 else 0x80,
      if b.toNat = 0xf4 then 0x8f else 0xbf) := by
  simp only [shape?, UInt8.lt_iff_toNat_lt, beq_iff_eq, ← UInt8.toNat_inj, UInt8.reduceToNat]
  rw [if_neg (by omega), if_neg (by omega), if_neg (by omega), if_neg (by omega),
    if_neg (by omega), if_neg (by omega)]
  by_cases h0 : b.toNat = 0xf0
  · simp [h0]
  · by_cases h4 : b.toNat = 0xf4
    · simp [h4]
    · simp [h0, h4, show b.toNat < 244 by omega]

/-- A continuing byte in the legal range gives its last six bits. -/
theorem takeContinuation_ofNat {lo hi : UInt8} {good acc k n : Nat} {rest : List UInt8}
    (hlo : lo.toNat ≤ n % 0x40 + 0x80) (hhi : n % 0x40 + 0x80 ≤ hi.toNat) :
    takeContinuation lo hi good acc (k + 1) (UInt8.ofNat (n % 0x40 + 0x80) :: rest) =
      takeContinuation 0x80 0xbf (good + 1) (acc * 64 + n % 0x40) k rest := by
  have hb := toNat_ofNat_add (n % 0x40) 0x80 (by omega)
  have hrange : (decide (lo ≤ UInt8.ofNat (n % 0x40 + 0x80)) &&
      decide (UInt8.ofNat (n % 0x40 + 0x80) ≤ hi)) = true := by
    rw [Bool.and_eq_true, decide_eq_true_iff, decide_eq_true_iff, UInt8.le_iff_toNat_le,
      UInt8.le_iff_toNat_le, hb]
    exact ⟨hlo, hhi⟩
  have hbits : (n % 0x40 + 0x80) % 64 = n % 0x40 := by omega
  rw [takeContinuation, if_pos hrange, hb, hbits]

/-- Behind the first one every continuing byte is legal. -/
theorem takeContinuation_ofNat' {good acc k n : Nat} {rest : List UInt8} :
    takeContinuation 0x80 0xbf good acc (k + 1) (UInt8.ofNat (n % 0x40 + 0x80) :: rest) =
      takeContinuation 0x80 0xbf (good + 1) (acc * 64 + n % 0x40) k rest :=
  takeContinuation_ofNat (Nat.le_add_left _ _)
    (show n % 0x40 + 0x80 ≤ 0xbf by omega)

/-- The bytes of a character of one byte. -/
def sequenceOne (c : Char) (h : c.val.toNat ≤ 0x7f) : Sequence c where
  lead := UInt8.ofNat c.val.toNat
  more := []
  lo := 0x80
  hi := 0xbf
  encode_eq := by rw [String.utf8EncodeChar, if_pos h]
  shape_eq := shape?_of_lt_128 (by rw [UInt8.toNat_ofNat']; omega)
  take_eq rest := by
    have hlead : (UInt8.ofNat c.val.toNat).toNat = c.toNat :=
      (UInt8.toNat_ofNat' ..).trans (Nat.mod_eq_of_lt (by omega))
    rw [List.length_nil, leadBits, hlead, takeContinuation, List.nil_append]
  lead_pos hpos hzero := by
    have hlead : (UInt8.ofNat c.val.toNat).toNat = c.toNat :=
      (UInt8.toNat_ofNat' ..).trans (Nat.mod_eq_of_lt (by omega))
    rw [hzero] at hlead
    exact hpos hlead.symm

/-- The bytes of a character of two bytes. -/
def sequenceTwo (c : Char) (hlo : 0x7f < c.val.toNat) (hhi : c.val.toNat ≤ 0x7ff) :
    Sequence c :=
  have hlead := toNat_ofNat_add (c.val.toNat / 64 % 0x20) 0xc0 (by omega)
  { lead := UInt8.ofNat (c.val.toNat / 64 % 0x20 + 0xc0)
    more := [UInt8.ofNat (c.val.toNat % 0x40 + 0x80)]
    lo := 0x80
    hi := 0xbf
    encode_eq := by rw [String.utf8EncodeChar, if_neg (by omega), if_pos hhi]
    shape_eq := shape?_two (by omega) (by omega)
    take_eq rest := by
      have hcode : (c.val.toNat / 64 % 0x20 + 0xc0) % 32 * 64 + c.val.toNat % 0x40 =
          c.val.toNat := by omega
      rw [List.cons_append, List.length_singleton, takeContinuation_ofNat', takeContinuation,
        leadBits, hlead, hcode]
      rfl
    lead_pos _ hzero := by
      rw [hzero] at hlead
      exact absurd hlead (by simp) }

/-- The bytes of a character of three bytes. -/
def sequenceThree (c : Char) (hlo : 0x7ff < c.val.toNat) (hhi : c.val.toNat ≤ 0xffff) :
    Sequence c :=
  have hlead := toNat_ofNat_add (c.val.toNat / 4096 % 0x10) 0xe0 (by omega)
  { lead := UInt8.ofNat (c.val.toNat / 4096 % 0x10 + 0xe0)
    more := [UInt8.ofNat (c.val.toNat / 64 % 0x40 + 0x80), UInt8.ofNat (c.val.toNat % 0x40 + 0x80)]
    lo := if c.val.toNat / 4096 % 0x10 + 0xe0 = 0xe0 then 0xa0 else 0x80
    hi := if c.val.toNat / 4096 % 0x10 + 0xe0 = 0xed then 0x9f else 0xbf
    encode_eq := by rw [String.utf8EncodeChar, if_neg (by omega), if_neg (by omega), if_pos hhi]
    shape_eq := by
      rw [shape?_three (by omega) (by omega), hlead]
      rfl
    take_eq rest := by
      have hvalid : c.val.toNat < 0xd800 ∨ 0xdfff < c.val.toNat ∧ c.val.toNat < 0x110000 := c.valid
      have hlow : (if c.val.toNat / 4096 % 0x10 + 0xe0 = 0xe0 then (0xa0 : UInt8) else 0x80).toNat ≤
          c.val.toNat / 64 % 0x40 + 0x80 := by
        split
        · show 0xa0 ≤ _
          omega
        · exact Nat.le_add_left _ _
      have hhigh : c.val.toNat / 64 % 0x40 + 0x80 ≤
          (if c.val.toNat / 4096 % 0x10 + 0xe0 = 0xed then (0x9f : UInt8) else 0xbf).toNat := by
        split
        · show _ ≤ 0x9f
          omega
        · show _ ≤ 0xbf
          omega
      have hcode : ((c.val.toNat / 4096 % 0x10 + 0xe0) % 16 * 64 + c.val.toNat / 64 % 0x40) * 64 +
          c.val.toNat % 0x40 = c.val.toNat := by omega
      rw [List.cons_append, List.cons_append, List.length_cons, List.length_singleton,
        takeContinuation_ofNat hlow hhigh, takeContinuation_ofNat', takeContinuation, leadBits,
        hlead, hcode]
      rfl
    lead_pos _ hzero := by
      rw [hzero] at hlead
      exact absurd hlead (by simp) }

theorem leadBits_three (lead : UInt8) : leadBits lead (1 + 1 + 1) = lead.toNat % 8 := rfl

/-- The bytes of a character of four bytes. -/
def sequenceFour (c : Char) (hlo : 0xffff < c.val.toNat) : Sequence c :=
  have hvalid : c.val.toNat < 0xd800 ∨ 0xdfff < c.val.toNat ∧ c.val.toNat < 0x110000 := c.valid
  have hlead := toNat_ofNat_add (c.val.toNat / 262144 % 0x08) 0xf0 (by omega)
  { lead := UInt8.ofNat (c.val.toNat / 262144 % 0x08 + 0xf0)
    more := [UInt8.ofNat (c.val.toNat / 4096 % 0x40 + 0x80),
      UInt8.ofNat (c.val.toNat / 64 % 0x40 + 0x80), UInt8.ofNat (c.val.toNat % 0x40 + 0x80)]
    lo := if c.val.toNat / 262144 % 0x08 + 0xf0 = 0xf0 then 0x90 else 0x80
    hi := if c.val.toNat / 262144 % 0x08 + 0xf0 = 0xf4 then 0x8f else 0xbf
    encode_eq := by
      rw [String.utf8EncodeChar, if_neg (by omega), if_neg (by omega), if_neg (by omega)]
    shape_eq := by
      rw [shape?_four (by omega) (by omega), hlead]
      rfl
    take_eq rest := by
      have hlow : (if c.val.toNat / 262144 % 0x08 + 0xf0 = 0xf0 then (0x90 : UInt8)
          else 0x80).toNat ≤ c.val.toNat / 4096 % 0x40 + 0x80 := by
        split
        · show 0x90 ≤ _
          omega
        · exact Nat.le_add_left _ _
      have hhigh : c.val.toNat / 4096 % 0x40 + 0x80 ≤
          (if c.val.toNat / 262144 % 0x08 + 0xf0 = 0xf4 then (0x8f : UInt8) else 0xbf).toNat := by
        split
        · show _ ≤ 0x8f
          omega
        · show _ ≤ 0xbf
          omega
      have hcode : (((c.val.toNat / 262144 % 0x08 + 0xf0) % 8 * 64 +
          c.val.toNat / 4096 % 0x40) * 64 + c.val.toNat / 64 % 0x40) * 64 +
          c.val.toNat % 0x40 = c.val.toNat := by omega
      rw [List.cons_append, List.cons_append, List.cons_append, List.length_cons,
        List.length_cons, List.length_singleton, takeContinuation_ofNat hlow hhigh,
        takeContinuation_ofNat', takeContinuation_ofNat', takeContinuation, leadBits_three, hlead,
        hcode]
      rfl
    lead_pos _ hzero := by
      rw [hzero] at hlead
      exact absurd hlead (by simp) }

def sequence (c : Char) : Sequence c :=
  if h1 : c.val.toNat ≤ 0x7f then sequenceOne c h1
  else if h2 : c.val.toNat ≤ 0x7ff then sequenceTwo c (by omega) h2
  else if h3 : c.val.toNat ≤ 0xffff then sequenceThree c (by omega) h3
  else sequenceFour c (by omega)

theorem toList_loop (bs : ByteArray) (i : Nat) (done : List UInt8) :
    ByteArray.toList.loop bs i done = done.reverse ++ bs.data.toList.drop i := by
  induction hleft : bs.size - i generalizing i done with
  | zero =>
    have hend : bs.data.toList.length ≤ i := by
      rw [Array.length_toList]
      exact Nat.le_of_sub_eq_zero hleft
    rw [ByteArray.toList.loop, if_neg (by omega), List.drop_eq_nil_of_le hend, List.append_nil]
  | succ left ih =>
    have hlt : i < bs.data.toList.length := by
      rw [Array.length_toList]
      exact Nat.lt_of_sub_eq_succ hleft
    rw [ByteArray.toList.loop, if_pos (by omega), ih (i + 1) _ (by omega), List.reverse_cons,
      List.append_assoc, List.drop_eq_getElem_cons hlt]
    have hget : bs.get! i = bs.data.toList[i] := by
      rw [Array.getElem_toList]
      exact getElem!_pos bs.data i (by rwa [Array.length_toList] at hlt)
    rw [hget]
    rfl

/-- The bytes of a text are those of its characters. -/
theorem encode_ofList (cs : List Char) :
    encode (String.ofList cs) = cs.flatMap String.utf8EncodeChar := by
  rw [encode, String.toUTF8_eq_toByteArray, String.toByteArray_ofList, ByteArray.toList,
    toList_loop, List.utf8Encode, List.toList_data_toByteArray]
  rfl

theorem decodeFrom_encode (start : Nat) (done cs : List Char) :
    decodeFrom start done (cs.flatMap String.utf8EncodeChar) = .ok (done.reverse ++ cs) := by
  induction cs generalizing start done with
  | nil => rw [List.flatMap_nil, decodeFrom, List.append_nil]
  | cons c rest ih =>
    obtain ⟨lead, more, lo, hi, hencode, hshape, htake, _⟩ := sequence c
    rw [List.flatMap_cons, hencode, List.cons_append, decodeFrom]
    split
    · next hnone => rw [hshape] at hnone; cases hnone
    · next n lo' hi' hsome =>
      rw [hshape] at hsome
      cases hsome
      split
      · next herror => rw [htake] at herror; cases herror
      · next code rest' hok =>
        rw [htake] at hok
        cases hok
        rw [ih, Char.ofNat_toNat, List.reverse_cons, List.append_assoc]
        rfl

/-- The bytes of a text stand for it. -/
theorem decode_encode (s : String) : decode (encode s) = .ok s.toList := by
  have hbytes := encode_ofList s.toList
  rw [String.ofList_toList] at hbytes
  rw [decode, hbytes, decodeFrom_encode]
  rfl

end Utf8

end FindingLedger
