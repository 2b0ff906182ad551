import Signpost.Text.Ranges

/-!
# Upper and lower case

Characters outside ASCII change their case by ranges: the characters of a range stand a fixed step
apart and change by the same amount. A few characters become several in upper case, and one does in
lower case. Apart from the sigma at the end of a word, a text changes character by character.
-/

namespace Signpost.Text

structure CaseRange where
  first : Nat
  others : Nat
  step : Nat
  change : Int

def signedHex (digits : List Char) : Option Int :=
  match digits with
  | '-' :: digits => (digits? 16 digits).map fun n => -(n : Int)
  | _ => (digits? 16 digits).map Int.ofNat

/-- The ranges that are written as a distance from the range before, which begins at `last`, a
length, a step and a change. -/
def caseRangesFrom (last : Nat) : List String → List CaseRange
  | [] => []
  | word :: words =>
    match (cut ',' word).map fun digits => signedHex digits.toList with
    | [some gap, some others, some step, some change] =>
      let first := last + gap.toNat
      ⟨first, others.toNat, step.toNat, change⟩ :: caseRangesFrom first words
    | _ => []

def lowerRanges : List CaseRange :=
  caseRangesFrom 0 ([
    "c0,16,1,20 18,6,1,20 28,17,2,1 32,2,2,1 7,7,2,1 11,16,2,1 2e,0,1,-79 1,2,2,1 8,0,1,d2",
    "1,1,2,1 4,0,1,ce 1,0,1,1 2,1,1,cd 2,0,1,1 3,0,1,4f 1,0,1,ca 1,0,1,cb 1,0,1,1 2,0,1,cd",
    "1,0,1,cf 2,0,1,d3 1,0,1,d1 1,0,1,1 4,0,1,d3 1,0,1,d5 2,0,1,d6 1,2,2,1 6,0,1,da 1,0,1,1",
    "2,0,1,da 3,0,1,1 2,0,1,da 1,0,1,1 2,1,1,d9 2,1,2,1 4,0,1,db 1,0,1,1 4,0,1,1 8,0,1,2 1,0,1,1",
    "2,0,1,2 1,0,1,1 2,0,1,2 1,8,2,1 13,8,2,1 13,0,1,2 1,1,2,1 4,0,1,-61 1,0,1,-38 1,13,2,1",
    "28,0,1,-82 2,8,2,1 18,0,1,2a2b 1,0,1,1 2,0,1,-a3 1,0,1,2a28 3,0,1,1 2,0,1,-c3 1,0,1,45",
    "1,0,1,47 1,4,2,1 12a,1,2,1 6,0,1,1 9,0,1,74 7,0,1,26 2,2,1,25 4,0,1,40 2,1,1,3f 3,10,1,20",
    "12,8,1,20 2c,0,1,8 9,b,2,1 1c,0,1,-3c 3,0,1,1 2,0,1,-7 1,0,1,1 3,2,1,-82 3,f,1,50 10,1f,1,20",
    "50,10,2,1 2a,1a,2,1 36,0,1,f 1,6,2,1 f,2f,2,1 61,25,1,30 b6f,25,1,1c60 27,0,1,1c60",
    "6,0,1,1c60 2d3,4f,1,97d0 50,5,1,8 8a0,2a,1,-bc0 2d,2,1,-bc0 143,4a,2,1 9e,0,1,-1dbf 2,2f,2,1",
    "68,7,1,-8 10,5,1,-8 10,7,1,-8 10,7,1,-8 10,5,1,-8 11,3,2,-8 f,7,1,-8 20,7,1,-8 10,7,1,-8",
    "10,7,1,-8 10,1,1,-8 2,1,1,-4a 2,0,1,-9 c,3,1,-56 4,0,1,-9 c,1,1,-8 2,1,1,-64 e,1,1,-8",
    "2,1,1,-70 2,0,1,-7 c,1,1,-80 2,1,1,-7e 2,0,1,-9 12a,0,1,-1d5d 4,0,1,-20bf 1,0,1,-2046",
    "7,0,1,1c 2e,f,1,10 23,0,1,1 333,19,1,1a 74a,2f,1,30 60,0,1,1 2,0,1,-29f7 1,0,1,-ee6",
    "1,0,1,-29e7 3,2,2,1 6,0,1,-2a1c 1,0,1,-29fd 1,0,1,-2a1f 1,0,1,-2a1e 2,0,1,1 3,0,1,1",
    "9,1,1,-2a3f 2,31,2,1 6b,1,2,1 7,0,1,1 794e,16,2,1 40,d,2,1 a2,6,2,1 10,1e,2,1 47,1,2,1",
    "4,0,1,-8a04 1,4,2,1 d,0,1,1 2,0,1,-a528 3,1,2,1 6,9,2,1 14,0,1,-a544 1,0,1,-a54f 1,0,1,-a54b",
    "1,0,1,-a541 1,0,1,-a544 2,0,1,-a512 1,0,1,-a52a 1,0,1,-a515 1,0,1,3a0 1,7,2,1 10,0,1,-30",
    "1,0,1,-a543 1,0,1,-8a38 1,1,2,1 9,0,1,1 6,1,2,1 1f,0,1,1 572c,19,1,20 4df,27,1,28 b0,23,1,28",
    "c0,12,2,27 1,4,2,27 c,6,2,27 10,2,2,27 8,0,1,27 6eb,32,1,40 c20,1f,1,20 55a0,1f,1,20",
    "7ac0,21,1,22"].flatMap (cut ' '))

def upperRanges : List CaseRange :=
  caseRangesFrom 0 ([
    "b5,0,1,2e7 2b,16,1,-20 18,6,1,-20 7,0,1,79 2,17,2,-1 30,0,1,-e8 2,2,2,-1 7,7,2,-1 11,16,2,-1",
    "2f,2,2,-1 5,0,1,-12c 1,0,1,c3 3,1,2,-1 5,0,1,-1 4,0,1,-1 6,0,1,-1 3,0,1,61 4,0,1,-1 1,0,1,a3",
    "4,0,1,82 3,2,2,-1 7,0,1,-1 5,0,1,-1 3,0,1,-1 4,1,2,-1 5,0,1,-1 4,0,1,-1 2,0,1,38 6,0,1,-1",
    "1,0,1,-2 2,0,1,-1 1,0,1,-2 2,0,1,-1 1,0,1,-2 2,7,2,-1 f,0,1,-4f 2,8,2,-1 13,0,1,-1 1,0,1,-2",
    "2,0,1,-1 4,13,2,-1 2a,8,2,-1 19,0,1,-1 3,1,1,2a3f 3,0,1,-1 5,4,2,-1 9,0,1,2a1f 1,0,1,2a1c",
    "1,0,1,2a1e 1,0,1,-d2 1,0,1,-ce 2,1,1,-cd 3,0,1,-ca 2,0,1,-cb 1,0,1,a54f 4,0,1,-cd 1,0,1,a54b",
    "2,0,1,-cf 2,0,1,a528 1,0,1,a544 2,0,1,-d1 1,0,1,-d3 1,0,1,a544 1,0,1,29f7 1,0,1,a541",
    "3,0,1,-d3 2,0,1,29fd 1,0,1,-d5 3,0,1,-d6 8,0,1,29e7 3,0,1,-da 2,0,1,a543 1,0,1,-da",
    "4,0,1,a52a 1,0,1,-da 1,0,1,-45 1,1,1,-d9 2,0,1,-47 6,0,1,-db b,0,1,a515 1,0,1,a512 a7,0,1,54",
    "2c,1,2,-1 6,0,1,-1 4,2,1,82 31,0,1,-26 1,2,1,-25 4,10,1,-20 11,0,1,-1f 1,8,1,-20 9,0,1,-40",
    "1,1,1,-3f 3,0,1,-3e 1,0,1,-39 4,0,1,-2f 1,0,1,-36 1,0,1,-8 2,b,2,-1 17,0,1,-56 1,0,1,-50",
    "1,0,1,7 1,0,1,-74 2,0,1,-60 3,0,1,-1 3,0,1,-1 35,1f,1,-20 20,f,1,-50 11,10,2,-1 2a,1a,2,-1",
    "37,6,2,-1 d,0,1,-f 2,2f,2,-1 90,25,1,-30 b6f,2a,1,bc0 2d,2,1,bc0 2fb,5,1,-8 888,0,1,-186e",
    "1,0,1,-186d 1,0,1,-1864 1,1,1,-1862 2,0,1,-1863 1,0,1,-185c 1,0,1,-1825 1,0,1,89c2",
    "f1,0,1,8a04 4,0,1,ee6 11,0,1,8a38 73,4a,2,-1 9a,0,1,-3b 6,2f,2,-1 5f,7,1,8 10,5,1,8 10,7,1,8",
    "10,7,1,8 10,5,1,8 11,3,2,8 f,7,1,8 10,1,1,4a 2,3,1,56 4,1,1,64 2,1,1,80 2,1,1,70 2,1,1,7e",
    "34,1,1,8 e,0,1,-1c25 12,1,1,8 10,1,1,8 5,0,1,7 169,0,1,-1c 22,f,1,-10 14,0,1,-1 34c,19,1,-1a",
    "760,2f,1,-30 31,0,1,-1 4,0,1,-2a2b 1,0,1,-2a28 2,2,2,-1 b,0,1,-1 3,0,1,-1 b,31,2,-1",
    "6b,1,2,-1 7,0,1,-1 d,25,1,-1c60 27,0,1,-1c60 6,0,1,-1c60 7914,16,2,-1 40,d,2,-1 a2,6,2,-1",
    "10,1e,2,-1 47,1,2,-1 5,4,2,-1 d,0,1,-1 5,1,2,-1 3,0,1,30 3,9,2,-1 1e,7,2,-1 13,1,2,-1",
    "9,0,1,-1 6,1,2,-1 1f,0,1,-1 35d,0,1,-3a0 1d,4f,1,-97d0 53d1,19,1,-20 4e7,27,1,-28",
    "b0,23,1,-28 bf,12,2,-27 1,4,2,-27 c,6,2,-27 10,2,2,-27 8,0,1,-27 704,32,1,-40 c00,1f,1,-20",
    "55a0,1f,1,-20 7ac2,21,1,-22"].flatMap (cut ' '))

def upperExpansions : List (List (Option Nat)) :=
  let words := [
    "df,53,53 149,2bc,4e 1f0,4a,30c 390,399,308,301 3b0,3a5,308,301 587,535,552 1e96,48,331",
    "1e97,54,308 1e98,57,30a 1e99,59,30a 1e9a,41,2be 1f50,3a5,313 1f52,3a5,313,300",
    "1f54,3a5,313,301 1f56,3a5,313,342 1f80,1f08,399 1f81,1f09,399 1f82,1f0a,399 1f83,1f0b,399",
    "1f84,1f0c,399 1f85,1f0d,399 1f86,1f0e,399 1f87,1f0f,399 1f88,1f08,399 1f89,1f09,399",
    "1f8a,1f0a,399 1f8b,1f0b,399 1f8c,1f0c,399 1f8d,1f0d,399 1f8e,1f0e,399 1f8f,1f0f,399",
    "1f90,1f28,399 1f91,1f29,399 1f92,1f2a,399 1f93,1f2b,399 1f94,1f2c,399 1f95,1f2d,399",
    "1f96,1f2e,399 1f97,1f2f,399 1f98,1f28,399 1f99,1f29,399 1f9a,1f2a,399 1f9b,1f2b,399",
    "1f9c,1f2c,399 1f9d,1f2d,399 1f9e,1f2e,399 1f9f,1f2f,399 1fa0,1f68,399 1fa1,1f69,399",
    "1fa2,1f6a,399 1fa3,1f6b,399 1fa4,1f6c,399 1fa5,1f6d,399 1fa6,1f6e,399 1fa7,1f6f,399",
    "1fa8,1f68,399 1fa9,1f69,399 1faa,1f6a,399 1fab,1f6b,399 1fac,1f6c,399 1fad,1f6d,399",
    "1fae,1f6e,399 1faf,1f6f,399 1fb2,1fba,399 1fb3,391,399 1fb4,386,399 1fb6,391,342",
    "1fb7,391,342,399 1fbc,391,399 1fc2,1fca,399 1fc3,397,399 1fc4,389,399 1fc6,397,342",
    "1fc7,397,342,399 1fcc,397,399 1fd2,399,308,300 1fd3,399,308,301 1fd6,399,342",
    "1fd7,399,308,342 1fe2,3a5,308,300 1fe3,3a5,308,301 1fe4,3a1,313 1fe6,3a5,342",
    "1fe7,3a5,308,342 1ff2,1ffa,399 1ff3,3a9,399 1ff4,38f,399 1ff6,3a9,342 1ff7,3a9,342,399",
    "1ffc,3a9,399 fb00,46,46 fb01,46,49 fb02,46,4c fb03,46,46,49 fb04,46,46,4c fb05,53,54",
    "fb06,53,54 fb13,544,546 fb14,544,535 fb15,544,53b fb16,54e,546 fb17,544,53d"].flatMap (cut ' ')
  words.map fun word => (cut ',' word).map fun digits => digits? 16 digits.toList

def changeBy (ranges : List CaseRange) (n : Nat) : Nat :=
  let found := ranges.find? fun r =>
    r.first ≤ n && n ≤ r.first + r.others * r.step && (n - r.first) % r.step == 0
  match found with
  | some r => (n + r.change).toNat
  | none => n

def lowerChar (c : Char) : List Char :=
  if c.toNat < 0x80 then [c.toLower]
  else if c = '\u0130' then ['i', '\u0307']
  else [Char.ofNat (changeBy lowerRanges c.toNat)]

def upperChar (c : Char) : List Char :=
  if c.toNat < 0x80 then [c.toUpper]
  else
    match upperExpansions.find? fun word => word.head? == some (some c.toNat) with
    | some word => (word.drop 1).map fun n => Char.ofNat (n.getD 0)
    | none => [Char.ofNat (changeBy upperRanges c.toNat)]

def casedRanges : List (Nat × Nat) :=
  rangesFrom 0 ([
    "41,19 7,19 30,0 b,0 5,0 6,16 2,1e 2,c2 2,3 5,cf 2,23 8,1 1f,4 61,0 2b,3 3,1 3,3 2,0 7,0 2,2",
    "2,0 2,13 2,52 2,8a 9,a5 2,25 a,28 b18,25 2,0 6,0 3,2a 2,3 2a1,55 3,5 883,8 8,2a 3,2 41,bf",
    "41,115 3,5 3,25 3,5 3,7 2,0 2,0 2,0 2,1e 3,34 2,6 2,0 4,2 2,6 4,3 3,5 5,c 6,2 2,6 75,0 e,0",
    "11,c 66,0 5,0 3,9 2,0 4,4 7,0 2,0 2,0 2,3 2,5 5,0 3,3 6,4 5,0 12,1f 4,1 332,33 717,e4 7,3",
    "4,1 d,25 2,0 6,0 7913,2d 13,1d 85,65 4,3 2,3a 6,1 2,0 2,4 19,4 2,2 336,2a 2,d 7,4f 4f41,6",
    "d,4 40a,19 7,19 4a6,4f 61,23 5,23 75,a 2,e 2,6 2,1 2,a 2,e 2,6 2,1 1c4,0 3,2 2,29 2,8 4c6,32",
    "e,32 bae,3f 5561,3f 6581,54 2,46 2,1 3,0 3,1 3,3 2,b 2,0 2,6 2,40 2,3 3,7 2,6 2,1b 2,3 2,4",
    "2,0 4,6 2,153 3,18 2,18 2,1e 2,18 2,1e 2,18 2,1e 2,18 2,1e 2,18 2,7 735,9 2,13 7,5 106,3d",
    "893,43 7ed,19 7,19 7,19"].flatMap (cut ' '))

def caseIgnorableRanges : List (Nat × Nat) :=
  rangesFrom 0 ([
    "27,0 7,0 c,0 24,0 2,0 48,0 5,0 2,0 5,0 3,1 1f8,bf 5,1 5,0 a,1 2,0 fc,6 d0,0 6,0 32,2c 2,0",
    "2,1 2,1 2,0 2d,0 c,5 b,a 2,0 24,0 b,14 11,0 66,7 2,9 2,3 22,0 2,0 1f,1a 5c,a 3b,a 5,0 3,0",
    "19,17 2c,2 2d,0 8,1 7,7 2a,39 38,0 2,0 5,7 5,0 4,6 b,1 e,0 10,0 3b,0 5,3 9,0 15,1 1b,0 3,1",
    "3a,0 5,1 5,1 3,2 4,0 1f,1 4,0 c,1 3a,0 5,4 2,1 5,0 15,1 17,5 2,0 3b,0 3,0 2,3 9,0 8,1 c,1",
    "1f,0 3e,0 d,0 33,0 4,0 38,0 2,2 6,2 2,3 8,1 c,1 1e,0 3b,0 3,0 7,0 6,1 15,1 1d,1 3a,1 5,3 9,0",
    "15,1 1e,0 49,0 8,2 2,0 5b,0 3,6 c,8 63,0 3,8 a,0 2,6 4a,1 1c,0 2,0 2,0 38,d 2,4 2,1 6,a 2,23",
    "a,0 67,3 2,5 2,1 3,1 1a,1 5,2 11,3 e,0 3,1 7,0 10,0 5f,0 261,2 3b3,2 1e,1 1f,1 1f,1 41,1 2,6",
    "9,0 3,a 4,0 6,0 2e,4 34,0 42,1 23,0 77,2 5,1 a,0 7,2 dc,1 3,0 3b,0 2,6 2,0 2,0 3,7 7,9 3,0",
    "28,0 9,1e 32,3 31,0 2,4 2,0 6,0 29,8 d,1 21,3 3,1 2,2 39,0 2,1 4,0 2,2 3b,7 3,1 41,5 53,2",
    "2,c 2,6 5,0 7,0 4,1 33,3e e,0 23,64 1be,0 2,2 c,2 e,2 e,2 e,1 d,4 9,1 b,0 3,0 3,4 32,4 2,9",
    "2,0 e,0 11,c 34,20 b8c,1 72,2 7e,0 10,0 61,1f 30,0 1d6,0 25,3 4,4 6,0 5e,5 5e,2 6f17,0 4e3,5",
    "10f,0 63,3 2,9 2,0 1d,3 51,1 f,21 4f,0 18,2 68,2 4,1 9,0 4,0 5,0 1a,1 6,0 98,1 1b,11 e,0",
    "27,7 1a,a 2f,2 31,0 3,3 3,1 12,0 16,1 43,5 3,1 3,1 d,0 9,0 24,0 c,0 34,0 2,2 3,1 6,1 2,0",
    "1c,0 f,1 6,1 2,0 65,4 a,2 7a,0 3,0 5,0 4f31,0 94,10 23e,f 4,0 d,f 23,0 3,0 aa,0 8,0 7,0 c,0",
    "24,0 2,0 30,0 2e,1 44,0 16,2 202,0 e3,0 96,4 406,5 2,29 2,8 247,2 2,1 6,3 29,2 5,0 a6,1",
    "23e,3 184,1 51,2 47,a 32,3 7c,0 37,e 2a,0 3,1 b,2 32,3 3,1 3,0 5,0 b,0 33,2 25,4 2,7 3f,0",
    "d,1 35,8 b,3 3,0 60,2 3,0 2,1 7,0 3,0 9e,0 4,7 16,1 3a,1 4,0 26,6 4,4 c4,7 3,2 2,0 18,0 55,5",
    "2,0 5,1 2,1 ef,3 7,1 2,1 1c,1 56,7 3,0 2,1 6b,0 2,0 3,5 2,0 66,2 3,3 2,4 104,8 2,1 101,1 2,0",
    "5,0 91,3 3,1 5,0 21,9 29,5 3,3 9,0 a,5 3,2 2f,c 2,1 197,6 2,5 2,0 53,15 3,6 2,1 2,1 7b,5 4,0",
    "2,1 2,6 2,0 49,1 4,0 2,0 15c,1 c,1 35,4 6,0 2,0 14ee,10 7,e 369b,4 3c,6 a,3 40c,0 40,10 41,1",
    "2,1 400c,3 2,6 2,1 c9f,1 2,3 125d,2d 3,16 221,2 a,f 3,6 1f,3 95,2 7bc,36 5,31 9,0 f,0 17,4",
    "2,e 551,6 2,10 3,6 2,1 2,4 6,3d 22,0 a1,d 171,0 3e,3 1fc,4 3e1,6 6e,7 ab0,4 c0c02,0 1f,5f",
    "81,ef"].flatMap (cut ' '))

def beginsCased (cs : List Char) : Bool :=
  match cs.dropWhile (inRanges caseIgnorableRanges) with
  | c :: _ => inRanges casedRanges c
  | [] => false

/-- Characters in lower case; `before` are those in front of them, last one first. A capital sigma
at the end of a word has a form of its own. -/
def lowerChars (before : List Char) : List Char → List Char
  | [] => []
  | c :: cs =>
    let lower :=
      if c = 'Σ' then (if beginsCased before && !beginsCased cs then ['ς'] else ['σ'])
      else lowerChar c
    lower ++ lowerChars (c :: before) cs

def toLower (s : String) : String :=
  String.ofList (lowerChars [] s.toList)

def isCherokee (c : Char) : Bool :=
  let n := c.toNat
  (0x13A0 ≤ n && n ≤ 0x13FD) || (0xAB70 ≤ n && n ≤ 0xABBF)

def foldChar (c : Char) : List Char :=
  if c = 'ı' then [c]
  else if isCherokee c then upperChar c
  else ((lowerChar c).flatMap upperChar).flatMap lowerChar

def foldChars (cs : List Char) : List Char :=
  cs.flatMap foldChar

end Signpost.Text
