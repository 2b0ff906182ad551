import Signpost.Number
import Signpost.Text.Cut
import Signpost.Text.Digits

/-!
# What plain scalars mean

A scalar without quotes and without a tag may be no value, a truth value or a number; any other one
is a text. Digits with a zero before them are a text.
-/

namespace Signpost.Yaml

def isNull (s : String) : Bool :=
  s = "null" || s = "Null" || s = "NULL" || s = "~"

def bool? (s : String) : Option Bool :=
  if s = "true" || s = "True" || s = "TRUE" then some true
  else if s = "false" || s = "False" || s = "FALSE" then some false
  else none

/-- Whether a scalar is a run of digits, with or without a sign, that begins with a needless
zero. -/
def hasNeedlessZero (cs : List Char) : Bool :=
  match (Text.takeSign cs).2 with
  | '0' :: rest => !rest.isEmpty && rest.all Char.isDigit
  | _ => false

def magnitude? (cs : List Char) : Option Nat :=
  match cs with
  | '0' :: 'x' :: rest => Text.digits? 16 rest
  | '0' :: 'o' :: rest => Text.digits? 8 rest
  | '0' :: 'b' :: rest => Text.digits? 2 rest
  | _ => Text.digits? 10 cs

def wholeNumber? (cs : List Char) : Option Int :=
  if hasNeedlessZero cs then none
  else
    let (negative, cs) := Text.takeSign cs
    (magnitude? cs).map (Text.signed negative)

inductive Whole where
  | fits (value : Int)
  | tooLarge
  | other

def wholeOf (cs : List Char) : Whole :=
  match wholeNumber? cs with
  | none => .other
  | some n =>
    if Number.minInt64 ≤ n && n ≤ Number.maxUInt64 then .fits n
    else if -Int.pow 2 127 ≤ n && n < Int.pow 2 128 then .tooLarge
    else .other

/-- The exponent that ends a fraction; without one it is zero. -/
def exponent? (cs : List Char) : Option Int :=
  match cs with
  | [] => some 0
  | e :: rest =>
    if e = 'e' || e = 'E' then
      let (negative, digits) := Text.takeSign rest
      if digits.isEmpty || !digits.all Char.isDigit then none
      else some (Text.signed negative (Text.decimalValue digits))
    else none

def fraction? (cs : List Char) : Option Number := do
  let (negative, cs) := Text.takeSign cs
  let whole := cs.takeWhile Char.isDigit
  let afterWhole := cs.dropWhile Char.isDigit
  let (places, afterPlaces) :=
    match afterWhole with
    | '.' :: rest => (rest.takeWhile Char.isDigit, rest.dropWhile Char.isDigit)
    | _ => ([], afterWhole)
  if whole.isEmpty && places.isEmpty then none
  else
    let exponent ← exponent? afterPlaces
    let digits := Text.decimalValue (whole ++ places)
    let power := exponent - places.length
    if Number.fitsDouble digits power then return .decimal negative digits power else none

/-- What a scalar says as a fraction; the special values are no numbers. -/
def float? (s : String) : Option (Option Number) :=
  if [".inf", ".Inf", ".INF", "+.inf", "+.Inf", "+.INF", "-.inf", "-.Inf", "-.INF", ".nan", ".NaN",
      ".NAN"].contains s then some none
  else (fraction? s.toList).map some

end Signpost.Yaml
