import Signpost.Text.Cut
import Signpost.Text.Digits

/-!
# Sets of characters

A large set of characters is kept as ranges of code points. It is written as the gaps between the
ranges and the lengths of these, in hexadecimal digits.
-/

namespace Signpost.Text

/-- The ranges of a set from pairs of a gap and a length, after the code point `last`. -/
def rangesFrom (last : Nat) : List String → List (Nat × Nat)
  | [] => []
  | pair :: pairs =>
    match (cut ',' pair).map fun digits => digits? 16 digits.toList with
    | [some gap, some length] =>
      (last + gap, last + gap + length) :: rangesFrom (last + gap + length) pairs
    | _ => []

def inRanges (ranges : List (Nat × Nat)) (c : Char) : Bool :=
  ranges.any fun r => r.1 ≤ c.toNat && c.toNat ≤ r.2

end Signpost.Text
