import Signpost.Reference

/-!
# Policies for unresolved references

Unresolved references are collected first and judged together. A policy drops them, reports each of
them, or fails with all of them.
-/

namespace Signpost

inductive Policy where
  | ignore
  | warn
  | throw
deriving DecidableEq, Repr, Inhabited

namespace Policy

def name : Policy → String
  | .ignore => "ignore"
  | .warn => "warn"
  | .throw => "throw"

def ofName? : String → Option Policy
  | "ignore" => some .ignore
  | "warn" => some .warn
  | "throw" => some .throw
  | _ => none

def default : Policy := .warn

theorem ofName?_name (p : Policy) : ofName? p.name = some p := by
  cases p <;> rfl

end Policy

structure Fatal where
  unresolved : List Unresolved
deriving DecidableEq, Repr

namespace Fatal

def ids (f : Fatal) : List DocumentId :=
  f.unresolved.map (·.id)

def message (f : Fatal) : String :=
  toString f.unresolved.length ++ " unresolved document reference(s): " ++ Text.join ", " f.ids

end Fatal

/-- What an operation came to, and the references that have been reported by the end of it. -/
structure Reported (ε α : Type) where
  result : Except ε α
  reports : List Unresolved

def Policy.judge (p : Policy) (unresolved reports : List Unresolved) : Reported Fatal Unit :=
  if unresolved.isEmpty then ⟨.ok (), reports⟩
  else
    match p with
    | .ignore => ⟨.ok (), reports⟩
    | .warn => ⟨.ok (), reports ++ unresolved⟩
    | .throw => ⟨.error ⟨unresolved⟩, reports⟩

end Signpost
