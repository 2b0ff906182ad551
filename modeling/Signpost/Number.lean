/-!
# Numbers of a data file

A number is a whole number or a decimal fraction, kept exactly as it was written. A fraction whose
value no double can hold counts as out of range.
-/

namespace Signpost

inductive Number where
  | int (value : Int)
  /-- The fraction `digits * 10 ^ exponent` with a sign; zero has one as well. -/
  | decimal (negative : Bool) (digits : Nat) (exponent : Int)
deriving DecidableEq, Repr

namespace Number

/-- The least magnitude that rounds to no finite double: half a step above the greatest one. -/
def overflowBound : Nat :=
  Nat.pow 2 1024 - Nat.pow 2 970

def digitCount (n : Nat) : Nat :=
  if n = 0 then 0 else Nat.log2 n * 30103 / 100000 + 1

def fitsDouble (digits : Nat) (exponent : Int) : Bool :=
  if digits = 0 then true
  else
    match exponent with
    | .ofNat e => e ≤ 400 && digits * Nat.pow 10 e < overflowBound
    | .negSucc e =>
      let e := e + 1
      if digitCount digits + 2 < e then true
      else digits < overflowBound * Nat.pow 10 e

def minInt64 : Int := -Int.pow 2 63

def maxUInt64 : Int := Int.pow 2 64 - 1

end Number

end Signpost
