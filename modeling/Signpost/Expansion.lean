import Signpost.Text.Alphanumeric

/-!
# References to the environment

A value may refer to variables of the environment by names in braces after a dollar sign. A
reference ends at the first closing brace, so no reference holds another one. Behind the name a
default may be given; without one the variable has to be set. Names without braces are replaced too,
but only in a value that has an opening dollar sign and brace somewhere, and only if they are set.
-/

namespace Signpost

namespace Expansion

def closeBrace : List Char → Option (List Char × List Char)
  | [] => none
  | c :: cs =>
    if c = '\x7d' then some ([], cs)
    else (closeBrace cs).map fun (inner, after) => (c :: inner, after)

def opensBrace : List Char → Bool
  | '$' :: '\x7b' :: _ => true
  | _ :: cs => opensBrace cs
  | [] => false

/-- The texts in the braces of the closed references from left to right; `inner` is what was read
of an open reference, last character first. -/
def referencesFrom (inner : Option (List Char)) : List Char → List (List Char)
  | [] => []
  | c :: cs =>
    match inner with
    | some inner =>
      if c = '\x7d' then inner.reverse :: referencesFrom none cs
      else referencesFrom (some (c :: inner)) cs
    | none =>
      match c, cs with
      | '$', '\x7b' :: cs => referencesFrom (some []) cs
      | _, cs => referencesFrom none cs

def references (s : String) : List (List Char) :=
  referencesFrom none s.toList

/-- What stands before and after the first mark between a name and a default. -/
def cutDefault : List Char → Option (List Char × List Char)
  | ':' :: '-' :: cs => some ([], cs)
  | c :: cs => (cutDefault cs).map fun (name, value) => (c :: name, value)
  | [] => none

/-- The name of a reference, and its default if it has one. A mark before which there is no name
belongs to the name. -/
def nameAndDefault (inner : List Char) : List Char × Option (List Char) :=
  match cutDefault inner with
  | some ([], _) | none => (inner, none)
  | some (name, value) => (name, some value)

def isNameChar (c : Char) : Bool :=
  c = '_' || Text.isAlphanumeric c

theorem length_closeBrace {cs inner after : List Char} (h : closeBrace cs = some (inner, after)) :
    after.length < cs.length := by
  induction cs generalizing inner with
  | nil => cases h
  | cons c cs ih =>
    unfold closeBrace at h
    split at h
    · simp only [Option.some.injEq, Prod.mk.injEq] at h
      simp [← h.2]
    · obtain ⟨⟨i, a⟩, hcs, heq⟩ := Option.map_eq_some_iff.1 h
      simp only [Prod.mk.injEq] at heq
      obtain ⟨-, rfl⟩ := heq
      exact Nat.lt_succ_of_lt (ih hcs)

/-- The text that a closed reference stands for; it stays as it is if the variable is not set and
there is no default. -/
def valueOf (lookup : String → Option String) (inner : List Char) : List Char :=
  let (name, value) := nameAndDefault inner
  match lookup (String.ofList name), value with
  | some set, _ => set.toList
  | none, some value => value
  | none, none => '$' :: '\x7b' :: inner ++ ['\x7d']

/-- The text that a name without braces stands for; it stays as it is if the variable is not set. -/
def bareValueOf (lookup : String → Option String) (name : List Char) : List Char :=
  match lookup (String.ofList name) with
  | some set => set.toList
  | none => '$' :: name

/-- A text with all references replaced. Two dollar signs stand for one. -/
def replaceChars (lookup : String → Option String) (cs : List Char) : List Char :=
  match cs with
  | [] => []
  | '$' :: '\x7b' :: rest =>
    match h : closeBrace rest with
    | some (inner, after) =>
      have := length_closeBrace h
      valueOf lookup inner ++ replaceChars lookup after
    | none => '$' :: '\x7b' :: replaceChars lookup rest
  | '$' :: '$' :: rest => '$' :: replaceChars lookup rest
  | '$' :: rest =>
    let name := rest.takeWhile isNameChar
    let after := rest.dropWhile isNameChar
    have : (rest.dropWhile isNameChar).length ≤ rest.length :=
      (List.dropWhile_suffix isNameChar).length_le
    if name.isEmpty then '$' :: replaceChars lookup rest
    else bareValueOf lookup name ++ replaceChars lookup after
  | c :: rest => c :: replaceChars lookup rest
termination_by cs.length

end Expansion

inductive ExpansionFault where
  | nested (inner : String)
  | unset (name : String)
deriving DecidableEq, Repr

def ExpansionFault.message : ExpansionFault → String
  | .nested inner => "nested reference in '$\x7b" ++ inner ++ "\x7d' is not supported"
  | .unset name => "$\x7b" ++ name ++ "\x7d not set"

open Expansion in
/-- A value with its references replaced. A nested reference counts before one that is not set. -/
def expand (lookup : String → Option String) (value : String) : Except ExpansionFault String :=
  if !opensBrace value.toList then .ok value
  else
    let found := references value
    match found.find? opensBrace with
    | some inner => .error (.nested (String.ofList inner))
    | none =>
      let isUnset (inner : List Char) : Bool :=
        (cutDefault inner).isNone && (lookup (String.ofList inner)).isNone
      match found.find? isUnset with
      | some inner => .error (.unset (String.ofList inner))
      | none => .ok (String.ofList (replaceChars lookup value.toList))

end Signpost
