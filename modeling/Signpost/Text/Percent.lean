import Signpost.Text.Digits
import Signpost.Text.Utf8

/-!
# Percent-encoding

A percent sign and two hexadecimal digits stand for one byte. Decoding is lenient: a percent sign
without two digits after it stands for itself, and bytes that are no UTF-8 become replacement
characters.
-/

namespace Signpost.Text

def hexByteValue (byte : UInt8) : Option UInt8 :=
  (hexValue (Char.ofNat byte.toNat)).map UInt8.ofNat

def percentDecodeBytes : List UInt8 → List UInt8
  | [] => []
  | byte :: high :: low :: rest =>
    if byte = 0x25 then
      match hexByteValue high, hexByteValue low with
      | some h, some l => (h * 16 + l) :: percentDecodeBytes rest
      | _, _ => byte :: percentDecodeBytes (high :: low :: rest)
    else byte :: percentDecodeBytes (high :: low :: rest)
  | byte :: rest => byte :: percentDecodeBytes rest

def percentDecode (s : String) : String :=
  decodeLossy (percentDecodeBytes (encodeUtf8 s))

end Signpost.Text
