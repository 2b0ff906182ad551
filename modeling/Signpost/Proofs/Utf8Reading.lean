import Signpost.Text.Utf8

/-!
# Reading back what was written in UTF-8

The bytes of a text are read as that text also by the lossy reading. It keeps the code point that it
has gathered so far, and the bounds of the next byte. A character passes these bounds because its
bytes are the shortest ones and it is no surrogate.
-/

namespace Signpost.Text

theorem toNat_ofNat_of_lt {n : Nat} (hn : n < 256) : (UInt8.ofNat n).toNat = n :=
  UInt8.toNat_ofNat_of_lt hn

theorem decodeFrom_ascii {n : Nat} (hn : n < 0x80) (bytes : List UInt8) :
    decodeFrom none (UInt8.ofNat n :: bytes) = Char.ofNat n :: decodeFrom none bytes := by
  have htoNat : (UInt8.ofNat n).toNat = n := toNat_ofNat_of_lt (by omega)
  have hlt : UInt8.ofNat n < 0x80 := by
    rw [UInt8.lt_iff_toNat_lt, htoNat]
    exact hn
  simp [decodeFrom, startByte, hlt, htoNat]

/-- A byte that begins a sequence is kept for its bits and for the bounds of the next byte. -/
theorem decodeFrom_lead {lead : UInt8} {following : Nat} {low high : UInt8}
    (hlead : 0x80 ≤ lead.toNat) (hshape : sequenceShape lead = some (following, low, high))
    (bytes : List UInt8) :
    decodeFrom none (lead :: bytes) =
      decodeFrom (some ⟨following, low, high, leadBits following lead⟩) bytes := by
  have hnotLt : ¬lead < 0x80 := by
    rw [UInt8.lt_iff_toNat_lt]
    exact Nat.not_lt.mpr hlead
  simp [decodeFrom, startByte, hnotLt, hshape]

/-- A byte within the bounds adds six bits to those gathered before it. -/
theorem decodeFrom_within {p : Pending} {byte : UInt8} (hlow : p.low ≤ byte)
    (hhigh : byte ≤ p.high) (bytes : List UInt8) :
    decodeFrom (some p) (byte :: bytes) =
      if p.left ≤ 1 then Char.ofNat (p.bits * 0x40 + byte.toNat % 0x40) :: decodeFrom none bytes
      else decodeFrom (some ⟨p.left - 1, 0x80, 0xBF, p.bits * 0x40 + byte.toNat % 0x40⟩) bytes := by
  simp [decodeFrom, hlow, hhigh]

theorem decodeFrom_tail {p : Pending} {n : Nat} (hlow : p.low.toNat ≤ n % 64 + 128)
    (hhigh : n % 64 + 128 ≤ p.high.toNat) (bytes : List UInt8) :
    decodeFrom (some p) (UInt8.ofNat (n % 64 + 128) :: bytes) =
      if p.left ≤ 1 then Char.ofNat (p.bits * 64 + n % 64) :: decodeFrom none bytes
      else decodeFrom (some ⟨p.left - 1, 0x80, 0xBF, p.bits * 64 + n % 64⟩) bytes := by
  have htoNat : (UInt8.ofNat (n % 64 + 128)).toNat = n % 64 + 128 := toNat_ofNat_of_lt (by omega)
  have hlow' : p.low ≤ UInt8.ofNat (n % 64 + 128) := by rwa [UInt8.le_iff_toNat_le, htoNat]
  have hhigh' : UInt8.ofNat (n % 64 + 128) ≤ p.high := by rwa [UInt8.le_iff_toNat_le, htoNat]
  have hbits : (n % 64 + 128) % 64 = n % 64 := by omega
  rw [decodeFrom_within hlow' hhigh', htoNat, hbits]

theorem sequenceShape_two : ∀ n : Fin 32, 2 ≤ n.val →
    sequenceShape (UInt8.ofNat (n.val + 192)) = some (1, 0x80, 0xBF) := by
  decide

theorem sequenceShape_three : ∀ n : Fin 16,
    sequenceShape (UInt8.ofNat (n.val + 224)) =
      some (2, if n.val = 0 then 0xA0 else 0x80, if n.val = 13 then 0x9F else 0xBF) := by
  decide

theorem sequenceShape_four : ∀ n : Fin 5,
    sequenceShape (UInt8.ofNat (n.val + 240)) =
      some (3, if n.val = 0 then 0x90 else 0x80, if n.val = 4 then 0x8F else 0xBF) := by
  decide

theorem decodeFrom_two {n : Nat} (hlow : 0x80 ≤ n) (hhigh : n < 0x800) (bytes : List UInt8) :
    decodeFrom none (UInt8.ofNat (n / 64 % 32 + 192) :: UInt8.ofNat (n % 64 + 128) :: bytes) =
      Char.ofNat n :: decodeFrom none bytes := by
  have htoNat : (UInt8.ofNat (n / 64 % 32 + 192)).toNat = n / 64 % 32 + 192 :=
    toNat_ofNat_of_lt (by omega)
  have hlead : 0x80 ≤ (UInt8.ofNat (n / 64 % 32 + 192)).toNat := by omega
  have hmin : 2 ≤ n / 64 % 32 := by omega
  have hshape := sequenceShape_two ⟨n / 64 % 32, by omega⟩ hmin
  rw [decodeFrom_lead hlead hshape, decodeFrom_tail (by simp) (by simp; omega)]
  simp only [leadBits, htoNat, Nat.le_refl, if_true]
  rw [show (n / 64 % 32 + 192) % 0x20 * 64 + n % 64 = n by omega]

theorem decodeFrom_three {n : Nat} (hlow : 0x800 ≤ n) (hhigh : n < 0x10000)
    (hvalid : n < 0xD800 ∨ 0xDFFF < n) (bytes : List UInt8) :
    decodeFrom none
        (UInt8.ofNat (n / 4096 % 16 + 224) :: UInt8.ofNat (n / 64 % 64 + 128) ::
          UInt8.ofNat (n % 64 + 128) :: bytes) =
      Char.ofNat n :: decodeFrom none bytes := by
  have htoNat : (UInt8.ofNat (n / 4096 % 16 + 224)).toNat = n / 4096 % 16 + 224 :=
    toNat_ofNat_of_lt (by omega)
  have hlead : 0x80 ≤ (UInt8.ofNat (n / 4096 % 16 + 224)).toNat := by omega
  have hshape := sequenceShape_three ⟨n / 4096 % 16, by omega⟩
  have hfirstLow : (if n / 4096 % 16 = 0 then 0xA0 else 0x80 : UInt8).toNat ≤
      n / 64 % 64 + 128 := by
    split
    · change 160 ≤ _
      omega
    · change 128 ≤ _
      omega
  have hfirstHigh : n / 64 % 64 + 128 ≤
      (if n / 4096 % 16 = 13 then 0x9F else 0xBF : UInt8).toNat := by
    split
    · change _ ≤ 159
      omega
    · change _ ≤ 191
      omega
  rw [decodeFrom_lead hlead hshape, decodeFrom_tail hfirstLow hfirstHigh, if_neg (by simp),
    decodeFrom_tail (by simp) (by simp; omega), if_pos (by simp)]
  simp only [leadBits, htoNat]
  rw [show ((n / 4096 % 16 + 224) % 0x10 * 64 + n / 64 % 64) * 64 + n % 64 = n by omega]

theorem decodeFrom_four {n : Nat} (hlow : 0x10000 ≤ n) (hhigh : n < 0x110000)
    (bytes : List UInt8) :
    decodeFrom none
        (UInt8.ofNat (n / 262144 % 8 + 240) :: UInt8.ofNat (n / 4096 % 64 + 128) ::
          UInt8.ofNat (n / 64 % 64 + 128) :: UInt8.ofNat (n % 64 + 128) :: bytes) =
      Char.ofNat n :: decodeFrom none bytes := by
  have htoNat : (UInt8.ofNat (n / 262144 % 8 + 240)).toNat = n / 262144 % 8 + 240 :=
    toNat_ofNat_of_lt (by omega)
  have hlead : 0x80 ≤ (UInt8.ofNat (n / 262144 % 8 + 240)).toNat := by omega
  have hshape := sequenceShape_four ⟨n / 262144 % 8, by omega⟩
  have hfirstLow : (if n / 262144 % 8 = 0 then 0x90 else 0x80 : UInt8).toNat ≤
      n / 4096 % 64 + 128 := by
    split
    · change 144 ≤ _
      omega
    · change 128 ≤ _
      omega
  have hfirstHigh : n / 4096 % 64 + 128 ≤
      (if n / 262144 % 8 = 4 then 0x8F else 0xBF : UInt8).toNat := by
    split
    · change _ ≤ 143
      omega
    · change _ ≤ 191
      omega
  rw [decodeFrom_lead hlead hshape, decodeFrom_tail hfirstLow hfirstHigh, if_neg (by simp),
    decodeFrom_tail (by simp) (by simp; omega), if_neg (by simp),
    decodeFrom_tail (by simp) (by simp; omega), if_pos (by simp)]
  simp only [leadBits, htoNat]
  rw [show (((n / 262144 % 8 + 240) % 0x08 * 64 + n / 4096 % 64) * 64 + n / 64 % 64) * 64 +
    n % 64 = n by omega]

/-- The bytes of a character are read as that character, whatever follows them. -/
theorem decodeFrom_utf8EncodeChar (c : Char) (bytes : List UInt8) :
    decodeFrom none (String.utf8EncodeChar c ++ bytes) = c :: decodeFrom none bytes := by
  have hvalid : c.val.toNat < 0xD800 ∨ 0xDFFF < c.val.toNat ∧ c.val.toNat < 0x110000 := c.valid
  have hchar : Char.ofNat c.val.toNat = c := Char.ofNat_toNat c
  unfold String.utf8EncodeChar
  simp only
  split
  · rw [List.singleton_append, decodeFrom_ascii (by omega), hchar]
  · split
    · rw [List.cons_append, List.singleton_append, decodeFrom_two (by omega) (by omega), hchar]
    · split
      · rw [List.cons_append, List.cons_append, List.singleton_append,
          decodeFrom_three (by omega) (by omega) (by omega), hchar]
      · rw [List.cons_append, List.cons_append, List.cons_append, List.singleton_append,
          decodeFrom_four (by omega) (by omega), hchar]

theorem decodeFrom_flatMap_utf8EncodeChar (cs : List Char) (bytes : List UInt8) :
    decodeFrom none (cs.flatMap String.utf8EncodeChar ++ bytes) = cs ++ decodeFrom none bytes := by
  induction cs with
  | nil => rfl
  | cons c cs ih =>
      rw [List.flatMap_cons, List.append_assoc, decodeFrom_utf8EncodeChar, ih, List.cons_append]

/-- The lossy reading loses nothing of a text. -/
theorem decodeLossy_encodeUtf8 (s : String) : decodeLossy (encodeUtf8 s) = s := by
  have hread := decodeFrom_flatMap_utf8EncodeChar s.toList []
  rw [List.append_nil] at hread
  rw [decodeLossy, encodeUtf8, hread]
  simp [decodeFrom]

end Signpost.Text
