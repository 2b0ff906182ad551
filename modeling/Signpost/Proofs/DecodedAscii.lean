import Signpost.Proofs.PercentReading
import Mathlib

/-!
# Where an ASCII character was decoded from

Decoding gives an ASCII character where the text has that character, or has its one byte escaped, and
nowhere else. Bytes that belong to a longer sequence never give one, however they are mixed, because
the bits gathered from the first two bytes are too many.
-/

namespace Signpost.Text

/-- A character of one byte, other than the one that stands for an invalid code point. -/
def IsPlainAscii (c : Char) : Prop :=
  0 < c.toNat ∧ c.toNat < 128

instance : DecidablePred IsPlainAscii :=
  fun c => inferInstanceAs (Decidable (0 < c.toNat ∧ c.toNat < 128))

/-- The character as it is, or with its bytes escaped. -/
def IsWrittenChar (c : Char) (written : List Char) : Prop :=
  written = [c] ∨ EscapedBytes (String.utf8EncodeChar c) written

/-! ### Reading bytes -/

/-- What has been gathered is, or will be after one more byte, too much for one byte. -/
def Pending.IsLong (p : Pending) : Prop :=
  2 ≤ p.bits ∨ 1 < p.left ∧ (1 ≤ p.bits ∨ 0x82 ≤ p.low.toNat ∧ p.high.toNat ≤ 0xBF)

theorem not_isPlainAscii_ofNat {n : Nat} (hn : 128 ≤ n) : ¬IsPlainAscii (Char.ofNat n) := by
  rintro ⟨hpos, hlt⟩
  unfold Char.ofNat at hpos hlt
  split at hpos
  · rename_i hvalid
    rw [dif_pos hvalid] at hlt
    change n < 128 at hlt
    omega
  · exact absurd hpos (by decide)

theorem not_isPlainAscii_replacement : ¬IsPlainAscii replacement := by
  decide

/-- Only two lead bytes leave no bits, and they bound the next byte from below. -/
theorem isLong_of_sequenceShape {first low high : UInt8} {following : Nat}
    (hshape : sequenceShape first = some (following, low, high)) :
    Pending.IsLong ⟨following, low, high, leadBits following first⟩ := by
  have hgive {f : Nat} {l h : UInt8} (heq : some (f, l, h) = some (following, low, high))
      (hlong : Pending.IsLong ⟨f, l, h, leadBits f first⟩) :
      Pending.IsLong ⟨following, low, high, leadBits following first⟩ := by
    obtain ⟨rfl, rfl, rfl⟩ : f = following ∧ l = low ∧ h = high := by simpa using heq
    exact hlong
  unfold sequenceShape at hshape
  simp only [Bool.and_eq_true, decide_eq_true_eq, beq_iff_eq, UInt8.le_iff_toNat_le,
    ← UInt8.toNat_inj, UInt8.reduceToNat] at hshape
  split at hshape
  · exact hgive hshape (by simp only [Pending.IsLong, leadBits]; omega)
  · split at hshape
    · exact hgive hshape (by simp [Pending.IsLong])
    · split at hshape
      · exact hgive hshape (by simp only [Pending.IsLong, leadBits]; omega)
      · split at hshape
        · exact hgive hshape (by simp only [Pending.IsLong, leadBits]; omega)
        · split at hshape
          · exact hgive hshape (by simp [Pending.IsLong])
          · split at hshape
            · exact hgive hshape (by simp only [Pending.IsLong, leadBits]; omega)
            · split at hshape
              · exact hgive hshape (by simp only [Pending.IsLong, leadBits]; omega)
              · simp at hshape

theorem isLong_of_startByte {byte : UInt8} {p : Pending} (hstart : startByte byte = .ok (.inr p)) :
    p.IsLong := by
  unfold startByte at hstart
  split at hstart
  · simp at hstart
  · split at hstart
    · rename_i following low high hshape
      simp only [Except.ok.injEq, Sum.inr.injEq] at hstart
      subst hstart
      exact isLong_of_sequenceShape hshape
    · simp at hstart

/-- A sequence of several bytes gives no ASCII character, whether it is finished or broken off. -/
theorem not_isPlainAscii_of_pending {p : Pending} (hp : p.IsLong) {bytes : List UInt8} {c : Char}
    {rest : List Char} (hread : decodeFrom (some p) bytes = c :: rest) : ¬IsPlainAscii c := by
  induction bytes generalizing p with
  | nil =>
      have hc : replacement = c := by simp [decodeFrom] at hread; exact hread.1
      exact hc ▸ not_isPlainAscii_replacement
  | cons byte bytes ih =>
      by_cases hwithin : p.low ≤ byte ∧ byte ≤ p.high
      · rw [decodeFrom_within hwithin.1 hwithin.2] at hread
        have hbits : 2 ≤ p.bits * 64 + byte.toNat % 64 ∧ (p.left ≤ 1 → 2 ≤ p.bits) := by
          have hlow := UInt8.le_iff_toNat_le.mp hwithin.1
          have hhigh := UInt8.le_iff_toNat_le.mp hwithin.2
          unfold Pending.IsLong at hp
          omega
        split at hread
        · rename_i hleft
          have hc : Char.ofNat (p.bits * 64 + byte.toNat % 64) = c := (List.cons.inj hread).1
          have hlarge : 128 ≤ p.bits * 64 + byte.toNat % 64 := by
            have := hbits.2 hleft
            omega
          exact hc ▸ not_isPlainAscii_ofNat hlarge
        · exact ih (.inl hbits.1) hread
      · have hc : replacement = c := by
          simp only [decodeFrom, Bool.and_eq_true, decide_eq_true_eq, if_neg hwithin] at hread
          split at hread <;> exact (List.cons.inj hread).1
        exact hc ▸ not_isPlainAscii_replacement

/-- An ASCII character is read from its own byte. -/
theorem eq_of_decodeFrom_eq_cons {byte : UInt8} {bytes : List UInt8} {c : Char} {rest : List Char}
    (hc : IsPlainAscii c) (hread : decodeFrom none (byte :: bytes) = c :: rest) :
    byte = UInt8.ofNat c.toNat ∧ rest = decodeFrom none bytes := by
  by_cases hbyte : byte < 0x80
  · have hlt : byte.toNat < 128 := UInt8.lt_iff_toNat_lt.mp hbyte
    have hascii := decodeFrom_ascii hlt bytes
    rw [UInt8.ofNat_toNat, hread] at hascii
    obtain ⟨rfl, hrest⟩ := List.cons.inj hascii
    have hvalid : byte.toNat.isValidChar := .inl (by omega)
    have htoNat : (Char.ofNat byte.toNat).toNat = byte.toNat := by
      unfold Char.ofNat
      rw [dif_pos hvalid]
      rfl
    rw [htoNat, UInt8.ofNat_toNat]
    exact ⟨rfl, hrest⟩
  · simp only [decodeFrom] at hread
    split at hread
    · rename_i hstart
      simp [startByte, hbyte] at hstart
      split at hstart <;> simp at hstart
    · rename_i hstart
      exact absurd hc (not_isPlainAscii_of_pending (isLong_of_startByte hstart) hread)
    · have hreplaced : replacement = c := (List.cons.inj hread).1
      exact absurd (hreplaced ▸ hc) not_isPlainAscii_replacement

/-! ### Reading escapes -/

theorem toNat_ofNat_of_byte {n : Nat} (hn : n < 256) : (Char.ofNat n).toNat = n := by
  unfold Char.ofNat
  rw [dif_pos (show n.isValidChar from .inl (by omega))]
  rfl

/-- The first byte of a character is a hexadecimal digit only if the character is one. -/
theorem hexValue_of_hexByteValue {c : Char} {cs : List Char} {byte value : UInt8}
    {bytes : List UInt8} (hbytes : (c :: cs).flatMap String.utf8EncodeChar = byte :: bytes)
    (hvalue : hexByteValue byte = some value) :
    ∃ h, hexValue c = some h ∧ value = UInt8.ofNat h ∧
      bytes = cs.flatMap String.utf8EncodeChar := by
  obtain ⟨h, hdigit, rfl⟩ := Option.map_eq_some_iff.mp hvalue
  rw [List.flatMap_cons] at hbytes
  by_cases hascii : c.toNat < 128
  · rw [utf8EncodeChar_of_lt hascii, List.singleton_append] at hbytes
    obtain ⟨rfl, hrest⟩ := List.cons.inj hbytes
    rw [toNat_ofNat_of_lt (by omega), Char.ofNat_toNat] at hdigit
    exact ⟨h, hdigit, rfl, hrest.symm⟩
  · have hmem : byte ∈ String.utf8EncodeChar c := by
      cases hchar : String.utf8EncodeChar c with
      | nil => exact absurd hchar String.utf8EncodeChar_ne_nil
      | cons lead others =>
          rw [hchar, List.cons_append] at hbytes
          rw [(List.cons.inj hbytes).1]
          exact List.mem_cons_self
    have hhigh := le_toNat_of_mem_utf8EncodeChar (Nat.not_lt.mp hascii) hmem
    have hlow := (hexValue_bounds hdigit).1
    rw [toNat_ofNat_of_byte byte.toNat_lt] at hlow
    omega

/-- A percent sign stands for itself, unless two hexadecimal digits come after it. -/
theorem decode_percent (cs : List Char) :
    percentDecodeBytes (('%' :: cs).flatMap String.utf8EncodeChar) =
        0x25 :: percentDecodeBytes (cs.flatMap String.utf8EncodeChar) ∨
      ∃ high low h l more, cs = high :: low :: more ∧ hexValue high = some h ∧
        hexValue low = some l := by
  have hpercent : String.utf8EncodeChar '%' = [0x25] := by decide
  rw [List.flatMap_cons, hpercent, List.singleton_append]
  match hbytes : cs.flatMap String.utf8EncodeChar with
  | [] => exact .inl rfl
  | [_] => exact .inl rfl
  | first :: second :: bytes =>
      rw [percentDecodeBytes, if_pos rfl]
      split
      · rename_i hfirst hsecond
        right
        obtain ⟨high, tail, rfl⟩ : ∃ high tail, cs = high :: tail := by
          cases cs with
          | nil => simp at hbytes
          | cons high tail => exact ⟨high, tail, rfl⟩
        obtain ⟨h, hhigh, -, htail⟩ := hexValue_of_hexByteValue hbytes hfirst
        obtain ⟨low, more, rfl⟩ : ∃ low more, tail = low :: more := by
          cases tail with
          | nil => simp at htail
          | cons low more => exact ⟨low, more, rfl⟩
        obtain ⟨l, hlow, -, -⟩ := hexValue_of_hexByteValue htail.symm hsecond
        exact ⟨high, low, h, l, more, rfl, hhigh, hlow⟩
      · exact .inl rfl

/-- **An ASCII character is decoded from what stands for it**, and what comes after it is decoded
on its own. -/
theorem exists_written_of_decode_eq_cons {cs : List Char} {c : Char} {rest : List Char}
    (hc : IsPlainAscii c)
    (hread : decodeFrom none (percentDecodeBytes (cs.flatMap String.utf8EncodeChar)) = c :: rest) :
    ∃ written more, cs = written ++ more ∧ IsWrittenChar c written ∧
      rest = decodeFrom none (percentDecodeBytes (more.flatMap String.utf8EncodeChar)) := by
  cases cs with
  | nil => simp [percentDecodeBytes, decodeFrom] at hread
  | cons first others =>
      by_cases hpercent : first = '%'
      · subst hpercent
        rcases decode_percent others with hself | ⟨high, low, h, l, more, rfl, hhigh, hlow⟩
        · rw [hself] at hread
          obtain ⟨hbyte, hrest⟩ := eq_of_decodeFrom_eq_cons hc hread
          have hsame : c = '%' := by
            have htoNat := congrArg UInt8.toNat hbyte
            rw [toNat_ofNat_of_lt (show c.toNat < 256 from Nat.lt_trans hc.2 (by decide))] at htoNat
            exact Char.toNat_inj.mp htoNat.symm
          subst hsame
          exact ⟨['%'], others, rfl, .inl rfl, hrest⟩
        · have hescaped : EscapedBytes [UInt8.ofNat (h * 16 + l)] ['%', high, low] :=
            .cons hhigh hlow .nil
          have hdecode := percentDecodeBytes_escapedBytes hescaped
            (more.flatMap String.utf8EncodeChar)
          have hsplit : ('%' :: high :: low :: more).flatMap String.utf8EncodeChar =
              ['%', high, low].flatMap String.utf8EncodeChar ++
                more.flatMap String.utf8EncodeChar := by
            rw [← List.flatMap_append]
            rfl
          rw [hsplit, hdecode, List.singleton_append] at hread
          obtain ⟨hbyte, hrest⟩ := eq_of_decodeFrom_eq_cons hc hread
          rw [hbyte, ← utf8EncodeChar_of_lt hc.2] at hescaped
          exact ⟨['%', high, low], more, rfl, .inr hescaped, hrest⟩
      · have hfree : (0x25 : UInt8) ∉ String.utf8EncodeChar first := fun hmem =>
          ne_percent_of_mem_utf8EncodeChar hpercent hmem rfl
        rw [List.flatMap_cons, percentDecodeBytes_append_of_notMem hfree,
          decodeFrom_utf8EncodeChar] at hread
        obtain ⟨rfl, hrest⟩ := List.cons.inj hread
        exact ⟨[first], others, rfl, .inl rfl, hrest.symm⟩

/-- The characters before an ASCII character are written one by one, if they are ASCII as well. -/
theorem exists_written_of_decode_eq_append {cs before rest : List Char} {c : Char}
    (hbefore : ∀ x ∈ before, IsPlainAscii x) (hc : IsPlainAscii c)
    (hread : decodeFrom none (percentDecodeBytes (cs.flatMap String.utf8EncodeChar)) =
      before ++ c :: rest) :
    ∃ pieces written more, cs = pieces.flatten ++ written ++ more ∧
      List.Forall₂ IsWrittenChar before pieces ∧ IsWrittenChar c written := by
  induction before generalizing cs with
  | nil =>
      obtain ⟨written, more, rfl, hwritten, -⟩ := exists_written_of_decode_eq_cons hc hread
      exact ⟨[], written, more, rfl, .nil, hwritten⟩
  | cons x before ih =>
      rw [List.forall_mem_cons] at hbefore
      obtain ⟨first, others, rfl, hfirst, hothers⟩ :=
        exists_written_of_decode_eq_cons hbefore.1 hread
      obtain ⟨pieces, written, more, rfl, hpieces, hwritten⟩ := ih hbefore.2 hothers.symm
      exact ⟨first :: pieces, written, more, by simp, .cons hfirst hpieces, hwritten⟩

theorem toList_percentDecode (s : String) :
    (percentDecode s).toList =
      decodeFrom none (percentDecodeBytes (s.toList.flatMap String.utf8EncodeChar)) := by
  rw [percentDecode, decodeLossy, String.toList_ofList, encodeUtf8]

/-- A mark that is no part of an escape is written only where the text has it. -/
theorem notMem_of_isWrittenChar {mark x : Char} (hpercent : mark ≠ '%')
    (hhex : hexValue mark = none) (hne : mark ≠ x) {written : List Char}
    (hwritten : IsWrittenChar x written) : mark ∉ written := by
  rcases hwritten with rfl | hescaped
  · simpa using hne
  · exact notMem_of_escapedBytes hpercent hhex hescaped

theorem notMem_flatten_of_isWrittenChar {mark : Char} (hpercent : mark ≠ '%')
    (hhex : hexValue mark = none) {before : List Char} {pieces : List (List Char)}
    (hmark : mark ∉ before) (hpieces : List.Forall₂ IsWrittenChar before pieces) :
    mark ∉ pieces.flatten := by
  induction hpieces with
  | nil => simp
  | cons hfirst _ ih =>
      rw [List.mem_cons, not_or] at hmark
      rw [List.flatten_cons, List.mem_append, not_or]
      exact ⟨notMem_of_isWrittenChar hpercent hhex hmark.1 hfirst, ih hmark.2⟩

end Signpost.Text
