/-!
# UTF-8

Reading bytes as text. A strict reading fails on bytes that are no UTF-8; a lossy one puts the
replacement character in the place of each longest run of bytes that begins a sequence and does not
finish it.
-/

namespace Signpost.Text

def replacement : Char := '\uFFFD'

def encodeUtf8 (s : String) : List UInt8 :=
  s.toList.flatMap String.utf8EncodeChar

def sequenceShape (first : UInt8) : Option (Nat × UInt8 × UInt8) :=
  if 0xC2 ≤ first && first ≤ 0xDF then some (1, 0x80, 0xBF)
  else if first == 0xE0 then some (2, 0xA0, 0xBF)
  else if first == 0xED then some (2, 0x80, 0x9F)
  else if 0xE1 ≤ first && first ≤ 0xEF then some (2, 0x80, 0xBF)
  else if first == 0xF0 then some (3, 0x90, 0xBF)
  else if first == 0xF4 then some (3, 0x80, 0x8F)
  else if 0xF1 ≤ first && first ≤ 0xF3 then some (3, 0x80, 0xBF)
  else none

def leadBits (following : Nat) (first : UInt8) : Nat :=
  match following with
  | 1 => first.toNat % 0x20
  | 2 => first.toNat % 0x10
  | _ => first.toNat % 0x08

/-- What has been read so far of a sequence of several bytes. -/
structure Pending where
  left : Nat
  low : UInt8
  high : UInt8
  bits : Nat

def startByte (byte : UInt8) : Except Unit (Char ⊕ Pending) :=
  if byte < 0x80 then .ok (.inl (Char.ofNat byte.toNat))
  else
    match sequenceShape byte with
    | some (following, low, high) =>
      .ok (.inr ⟨following, low, high, leadBits following byte⟩)
    | none => .error ()

def decodeFrom (pending : Option Pending) : List UInt8 → List Char
  | [] => if pending.isSome then [replacement] else []
  | byte :: bytes =>
    let fresh (lead : List Char) : List Char :=
      match startByte byte with
      | .ok (.inl c) => lead ++ c :: decodeFrom none bytes
      | .ok (.inr next) => lead ++ decodeFrom (some next) bytes
      | .error _ => lead ++ replacement :: decodeFrom none bytes
    match pending with
    | none => fresh []
    | some p =>
      if p.low ≤ byte && byte ≤ p.high then
        let bits := p.bits * 0x40 + byte.toNat % 0x40
        if p.left ≤ 1 then Char.ofNat bits :: decodeFrom none bytes
        else decodeFrom (some ⟨p.left - 1, 0x80, 0xBF, bits⟩) bytes
      else fresh [replacement]

def decodeLossy (bytes : List UInt8) : String :=
  String.ofList (decodeFrom none bytes)

def decodeStrict (bytes : List UInt8) : Option String :=
  String.fromUTF8? (ByteArray.mk bytes.toArray)

end Signpost.Text
