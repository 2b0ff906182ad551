import Signpost.Toml.Moment
import Signpost.Toml.Value

/-!
# Values without quotes

Truth values, numbers and moments. Single underscores may stand between the digits of a number,
and a decimal number has no needless zero before it. Numbers that no 128 bits or no double can hold
are refused.
-/

namespace Signpost.Toml

def digitRun? (isDigit : Char → Bool) : List Char → Option (List Char)
  | [] => none
  | [c] => if isDigit c then some [c] else none
  | c :: '_' :: rest => if isDigit c then (digitRun? isDigit rest).map (c :: ·) else none
  | c :: rest => if isDigit c then (digitRun? isDigit rest).map (c :: ·) else none

def wholeDigits? (cs : List Char) : Option (List Char) :=
  match digitRun? Char.isDigit cs with
  | some ('0' :: _ :: _) => none
  | found => found

def inBase? (base : Nat) (cs : List Char) : Option Nat := do
  Text.digits? base (← digitRun? (fun c => (Text.hexValue c).any (· < base)) cs)

def marked? : List Char → Option Nat
  | '0' :: 'x' :: rest => inBase? 16 rest
  | '0' :: 'o' :: rest => inBase? 8 rest
  | '0' :: 'b' :: rest => inBase? 2 rest
  | _ => none

def whole? (cs : List Char) : Option Int :=
  match marked? cs with
  | some n => some n
  | none => do
    let (negative, cs) := Text.takeSign cs
    return Text.signed negative (Text.decimalValue (← wholeDigits? cs))

def exponentValue? (cs : List Char) : Option Int := do
  let (negative, cs) := Text.takeSign cs
  return Text.signed negative (Text.decimalValue (← digitRun? Char.isDigit cs))

def isExponentMark (c : Char) : Bool :=
  c = 'e' || c = 'E'

def fraction? (cs : List Char) : Option Number := do
  let (negative, cs) := Text.takeSign cs
  let mantissa := cs.takeWhile (!isExponentMark ·)
  let afterMantissa := cs.dropWhile (!isExponentMark ·)
  let exponent ← if afterMantissa.isEmpty then some 0 else exponentValue? (afterMantissa.drop 1)
  let whole ← wholeDigits? (mantissa.takeWhile (· ≠ '.'))
  let afterWhole := mantissa.dropWhile (· ≠ '.')
  let places ← if afterWhole.isEmpty then some [] else digitRun? Char.isDigit (afterWhole.drop 1)
  let digits := Text.decimalValue (whole ++ places)
  let power := exponent - places.length
  if Number.fitsDouble digits power then return .decimal negative digits power else none

def isSpecial (cs : List Char) : Bool :=
  let s := String.ofList (Text.takeSign cs).2
  s = "inf" || s = "nan"

def scalar? (cs : List Char) : Option Value :=
  let s := String.ofList cs
  if s = "true" then some (.bool true)
  else if s = "false" then some (.bool false)
  else if isSpecial cs then some (.number none)
  else
    match whole? cs with
    | some n => if -Int.pow 2 127 ≤ n && n < Int.pow 2 128 then some (.number (some (.int n))) else none
    | none =>
      match fraction? cs with
      | some n => some (.number (some n))
      | none => if isMoment cs then some (.moment s) else none

end Signpost.Toml
