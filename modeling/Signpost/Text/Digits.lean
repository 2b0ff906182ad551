/-!
# Digits

Runs of digits as numbers, in any base up to sixteen, and the signs before them.
-/

namespace Signpost.Text

def hexValue (c : Char) : Option Nat :=
  if '0' ≤ c && c ≤ '9' then some (c.toNat - '0'.toNat)
  else if 'a' ≤ c && c ≤ 'f' then some (c.toNat - 'a'.toNat + 10)
  else if 'A' ≤ c && c ≤ 'F' then some (c.toNat - 'A'.toNat + 10)
  else none

def decimalValue (cs : List Char) : Nat :=
  cs.foldl (fun n c => n * 10 + (c.toNat - '0'.toNat)) 0

def appendDigit (base : Nat) (n : Option Nat) (c : Char) : Option Nat :=
  match n, hexValue c with
  | some n, some d => if d < base then some (n * base + d) else none
  | _, _ => none

/-- The number that a run of digits stands for, if there are any and all of them are of the base. -/
def digits? (base : Nat) (cs : List Char) : Option Nat :=
  if cs.isEmpty then none else cs.foldl (appendDigit base) (some 0)

def takeSign : List Char → Bool × List Char
  | '-' :: cs => (true, cs)
  | '+' :: cs => (false, cs)
  | cs => (false, cs)

def signed (negative : Bool) (n : Nat) : Int :=
  if negative then -n else n

end Signpost.Text
