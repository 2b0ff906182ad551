import Signpost.Proofs.Utf8Reading
import Signpost.Text.Percent

/-!
# Reading back what was percent-encoded

A text can be written with any of its characters as the escaped bytes of their UTF-8 form. It must
be, except for letters, digits and four marks. Decoding gives the text back, wherever it stands in a
longer one. This is why decoding is followed here piece by piece, with anything after the piece.
-/

namespace Signpost.Text

/-- The characters that are not escaped in an address. -/
def isUnreserved (c : Char) : Bool :=
  c.isAlphanum || c = '-' || c = '.' || c = '_' || c = '~'

/-- Bytes that are written one by one as a percent sign and two hexadecimal digits. -/
inductive EscapedBytes : List UInt8 → List Char → Prop where
  | nil : EscapedBytes [] []
  | cons {high low : Char} {h l : Nat} {bytes : List UInt8} {written : List Char} :
      hexValue high = some h → hexValue low = some l → EscapedBytes bytes written →
        EscapedBytes (UInt8.ofNat (h * 16 + l) :: bytes) ('%' :: high :: low :: written)

/-- Characters that are written escaped; those that need not be may stand as they are. -/
inductive Escaped : List Char → List Char → Prop where
  | nil : Escaped [] []
  | plain {c : Char} {cs written : List Char} :
      isUnreserved c = true → Escaped cs written → Escaped (c :: cs) (c :: written)
  | escape {c : Char} {cs bytes written : List Char} :
      EscapedBytes (String.utf8EncodeChar c) bytes → Escaped cs written →
        Escaped (c :: cs) (bytes ++ written)

/-- What need not be escaped may stand as it is. -/
theorem escaped_self {cs : List Char} (hcs : cs.all isUnreserved = true) : Escaped cs cs := by
  induction cs with
  | nil => exact .nil
  | cons c cs ih =>
      rw [List.all_cons, Bool.and_eq_true] at hcs
      exact .plain hcs.1 (ih hcs.2)

theorem hexValue_bounds {c : Char} {h : Nat} (hvalue : hexValue c = some h) :
    c.toNat < 128 ∧ h < 16 ∧ c ≠ '#' ∧ c ≠ '?' ∧ c ≠ '/' := by
  have hne {other : Char} (hother : c.toNat ≠ other.toNat) : c ≠ other := by
    rintro rfl
    exact hother rfl
  have hbounds : 48 ≤ c.toNat ∧ c.toNat ≤ 57 ∧ h < 16 ∨ 65 ≤ c.toNat ∧ c.toNat ≤ 102 ∧ h < 16 := by
    unfold hexValue at hvalue
    simp only [Char.le_def, UInt32.le_iff_toNat_le, Bool.and_eq_true, decide_eq_true_eq] at hvalue
    change (if 48 ≤ c.toNat ∧ c.toNat ≤ 57 then some (c.toNat - 48)
      else if 97 ≤ c.toNat ∧ c.toNat ≤ 102 then some (c.toNat - 97 + 10)
      else if 65 ≤ c.toNat ∧ c.toNat ≤ 70 then some (c.toNat - 65 + 10) else none) = some h at hvalue
    split at hvalue
    · simp only [Option.some.injEq] at hvalue
      omega
    · split at hvalue
      · simp only [Option.some.injEq] at hvalue
        omega
      · split at hvalue
        · simp only [Option.some.injEq] at hvalue
          omega
        · simp at hvalue
  refine ⟨by omega, by omega, hne ?_, hne ?_, hne ?_⟩
  · change c.toNat ≠ 35
    omega
  · change c.toNat ≠ 63
    omega
  · change c.toNat ≠ 47
    omega

theorem utf8EncodeChar_of_lt {c : Char} (hc : c.toNat < 128) :
    String.utf8EncodeChar c = [UInt8.ofNat c.toNat] := by
  have hval : c.val.toNat ≤ 127 := Nat.le_of_lt_succ hc
  unfold String.utf8EncodeChar
  simp only [hval, if_true]
  rfl

/-- An escaped ASCII character is a percent sign and the two digits of its number. -/
theorem exists_digits_of_escapedBytes {c : Char} (hc : c.toNat < 128) {written : List Char}
    (hwritten : EscapedBytes (String.utf8EncodeChar c) written) :
    ∃ high low, written = ['%', high, low] ∧ hexValue high = some (c.toNat / 16) ∧
      hexValue low = some (c.toNat % 16) := by
  rw [utf8EncodeChar_of_lt hc] at hwritten
  generalize hbytes : [UInt8.ofNat c.toNat] = bytes at hwritten
  cases hwritten with
  | nil => cases hbytes
  | @cons high low h l rest more hhigh hlow hrest =>
      obtain ⟨hbyte, rfl⟩ := List.cons.inj hbytes
      cases hrest
      obtain ⟨-, hh, -⟩ := hexValue_bounds hhigh
      obtain ⟨-, hl, -⟩ := hexValue_bounds hlow
      have hsum : c.toNat = h * 16 + l := by
        have hnat := congrArg UInt8.toNat hbyte
        simp only [UInt8.toNat_ofNat'] at hnat
        omega
      refine ⟨high, low, rfl, ?_, ?_⟩
      · rw [hhigh, hsum, show (h * 16 + l) / 16 = h by omega]
      · rw [hlow, hsum, show (h * 16 + l) % 16 = l by omega]

/-- The bytes of a character beyond ASCII are beyond ASCII. -/
theorem le_toNat_of_mem_utf8EncodeChar {c : Char} (hc : 128 ≤ c.toNat) {byte : UInt8}
    (hbyte : byte ∈ String.utf8EncodeChar c) : 128 ≤ byte.toNat := by
  have hval : ¬c.val.toNat ≤ 127 := Nat.not_le_of_lt hc
  have hhigh : ∃ n, 128 ≤ n ∧ n < 256 ∧ byte = UInt8.ofNat n := by
    unfold String.utf8EncodeChar at hbyte
    simp only [hval, if_false] at hbyte
    split at hbyte
    · simp only [List.mem_cons, List.not_mem_nil, or_false] at hbyte
      rcases hbyte with rfl | rfl
      · exact ⟨_, by omega, by omega, rfl⟩
      · exact ⟨_, by omega, by omega, rfl⟩
    · split at hbyte
      · simp only [List.mem_cons, List.not_mem_nil, or_false] at hbyte
        rcases hbyte with rfl | rfl | rfl
        · exact ⟨_, by omega, by omega, rfl⟩
        · exact ⟨_, by omega, by omega, rfl⟩
        · exact ⟨_, by omega, by omega, rfl⟩
      · simp only [List.mem_cons, List.not_mem_nil, or_false] at hbyte
        rcases hbyte with rfl | rfl | rfl | rfl
        · exact ⟨_, by omega, by omega, rfl⟩
        · exact ⟨_, by omega, by omega, rfl⟩
        · exact ⟨_, by omega, by omega, rfl⟩
        · exact ⟨_, by omega, by omega, rfl⟩
  obtain ⟨n, hmin, hmax, rfl⟩ := hhigh
  rwa [toNat_ofNat_of_lt hmax]

/-- No byte of another character is a percent sign. -/
theorem ne_percent_of_mem_utf8EncodeChar {c : Char} (hc : c ≠ '%') {byte : UInt8}
    (hbyte : byte ∈ String.utf8EncodeChar c) : byte ≠ 0x25 := by
  rintro rfl
  by_cases hascii : c.toNat < 128
  · rw [utf8EncodeChar_of_lt hascii, List.mem_singleton] at hbyte
    have htoNat : (37 : Nat) = c.toNat := by
      rw [← toNat_ofNat_of_lt (show c.toNat < 256 by omega), ← hbyte]
      rfl
    exact hc (Char.toNat_inj.mp htoNat.symm)
  · have hhigh := le_toNat_of_mem_utf8EncodeChar (Nat.not_lt.mp hascii) hbyte
    exact absurd hhigh (by decide)

theorem percentDecodeBytes_cons_of_ne {byte : UInt8} (hbyte : byte ≠ 0x25) (rest : List UInt8) :
    percentDecodeBytes (byte :: rest) = byte :: percentDecodeBytes rest := by
  match rest with
  | [] => rfl
  | [_] => rfl
  | high :: low :: rest => rw [percentDecodeBytes, if_neg hbyte]

theorem percentDecodeBytes_append_of_notMem {bytes : List UInt8} (hbytes : 0x25 ∉ bytes)
    (rest : List UInt8) :
    percentDecodeBytes (bytes ++ rest) = bytes ++ percentDecodeBytes rest := by
  induction bytes with
  | nil => rfl
  | cons byte bytes ih =>
      have hbyte : byte ≠ 0x25 := by
        rintro rfl
        exact hbytes List.mem_cons_self
      have htail : 0x25 ∉ bytes := fun hmem => hbytes (List.mem_cons_of_mem byte hmem)
      rw [List.cons_append, percentDecodeBytes_cons_of_ne hbyte, ih htail, List.cons_append]

theorem hexByteValue_of_hexValue {c : Char} {h : Nat} (hvalue : hexValue c = some h) :
    hexByteValue (UInt8.ofNat c.toNat) = some (UInt8.ofNat h) := by
  have hc := (hexValue_bounds hvalue).1
  rw [hexByteValue, toNat_ofNat_of_lt (by omega), Char.ofNat_toNat, hvalue, Option.map_some]

theorem percentDecodeBytes_escapedBytes {bytes : List UInt8} {written : List Char}
    (hwritten : EscapedBytes bytes written) (rest : List UInt8) :
    percentDecodeBytes (written.flatMap String.utf8EncodeChar ++ rest) =
      bytes ++ percentDecodeBytes rest := by
  induction hwritten with
  | nil => rfl
  | @cons high low h l bytes written hhigh hlow _ ih =>
      have hpercent : String.utf8EncodeChar '%' = [0x25] := by decide
      have hhigh' := utf8EncodeChar_of_lt (hexValue_bounds hhigh).1
      have hlow' := utf8EncodeChar_of_lt (hexValue_bounds hlow).1
      have hsum : UInt8.ofNat h * 16 + UInt8.ofNat l = UInt8.ofNat (h * 16 + l) := by
        rw [UInt8.ofNat_add, UInt8.ofNat_mul]
        rfl
      simp only [List.flatMap_cons, hpercent, hhigh', hlow', List.cons_append, List.nil_append]
      rw [percentDecodeBytes, if_pos rfl, hexByteValue_of_hexValue hhigh,
        hexByteValue_of_hexValue hlow]
      simp only [hsum, ih]

/-- What is written decodes to the characters, wherever it stands. -/
def DecodesTo (written cs : List Char) : Prop :=
  ∀ rest : List UInt8,
    percentDecodeBytes (written.flatMap String.utf8EncodeChar ++ rest) =
      cs.flatMap String.utf8EncodeChar ++ percentDecodeBytes rest

theorem DecodesTo.append {front front' back back' : List Char} (hfront : DecodesTo front front')
    (hback : DecodesTo back back') : DecodesTo (front ++ back) (front' ++ back') := by
  intro rest
  rw [List.flatMap_append, List.append_assoc, hfront, hback, List.flatMap_append, List.append_assoc]

/-- Without a percent sign, a text decodes to itself. -/
theorem decodesTo_self {cs : List Char} (hcs : '%' ∉ cs) : DecodesTo cs cs := by
  intro rest
  apply percentDecodeBytes_append_of_notMem
  intro hmem
  obtain ⟨c, hc, hbyte⟩ := List.mem_flatMap.mp hmem
  have hne : c ≠ '%' := by
    rintro rfl
    exact hcs hc
  exact ne_percent_of_mem_utf8EncodeChar hne hbyte rfl

theorem ne_of_isUnreserved {c other : Char} (hc : isUnreserved c = true)
    (hother : isUnreserved other = false) : c ≠ other := by
  rintro rfl
  rw [hc] at hother
  exact absurd hother (by simp)

theorem decodesTo_of_escaped {cs written : List Char} (hwritten : Escaped cs written) :
    DecodesTo written cs := by
  induction hwritten with
  | nil => exact decodesTo_self List.not_mem_nil
  | @plain c cs written hc _ ih =>
      have hne : c ≠ '%' := ne_of_isUnreserved hc (by decide)
      have hself : DecodesTo [c] [c] := decodesTo_self (by simpa using hne.symm)
      exact hself.append ih
  | @escape c cs bytes written hbytes _ ih =>
      have hchar : DecodesTo bytes [c] := by
        intro rest
        rw [percentDecodeBytes_escapedBytes hbytes, List.flatMap_singleton]
      exact hchar.append ih

theorem percentDecode_of_decodesTo {written cs : List Char} (hwritten : DecodesTo written cs) :
    percentDecode (String.ofList written) = String.ofList cs := by
  have hbytes := hwritten []
  rw [List.append_nil, percentDecodeBytes, List.append_nil] at hbytes
  have hcs := decodeLossy_encodeUtf8 (String.ofList cs)
  rw [encodeUtf8, String.toList_ofList] at hcs
  rw [percentDecode, encodeUtf8, String.toList_ofList, hbytes, hcs]

/-- Escaped bytes are percent signs and digits. -/
theorem notMem_of_escapedBytes {mark : Char} (hpercent : mark ≠ '%') (hhex : hexValue mark = none)
    {bytes : List UInt8} {digits : List Char} (hdigits : EscapedBytes bytes digits) :
    mark ∉ digits := by
  induction hdigits with
  | nil => exact List.not_mem_nil
  | @cons high low h l _ _ hhigh hlow _ ih =>
      have hne {digit : Char} {value : Nat} (hdigit : hexValue digit = some value) :
          mark ≠ digit := by
        rintro rfl
        rw [hhex] at hdigit
        exact absurd hdigit (by simp)
      simp [hpercent, hne hhigh, hne hlow, ih]

/-- Marks that are neither unreserved nor part of an escape do not occur in what is written. -/
theorem notMem_of_escaped {mark : Char} (hmark : isUnreserved mark = false)
    (hpercent : mark ≠ '%') (hhex : hexValue mark = none) {cs written : List Char}
    (hwritten : Escaped cs written) : mark ∉ written := by
  induction hwritten with
  | nil => exact List.not_mem_nil
  | plain hc _ ih => simp [(ne_of_isUnreserved hc hmark).symm, ih]
  | escape hescaped _ ih => simp [notMem_of_escapedBytes hpercent hhex hescaped, ih]

end Signpost.Text
