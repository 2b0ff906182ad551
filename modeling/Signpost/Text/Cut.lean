/-!
# Cutting text at a character

A text is cut at every occurrence of a separator, or once at the last one. Joining the pieces with
the separator gives the text back.
-/

namespace Signpost.Text

/-- The pieces between the occurrences of `sep`; there is always at least one. -/
def cutChars (sep : Char) : List Char → List (List Char)
  | [] => [[]]
  | c :: cs =>
    if c = sep then [] :: cutChars sep cs
    else
      match cutChars sep cs with
      | [] => [[c]]
      | piece :: pieces => (c :: piece) :: pieces

def cut (sep : Char) (s : String) : List String :=
  (cutChars sep s.toList).map String.ofList

def cutLastChars (sep : Char) : List Char → Option (List Char × List Char)
  | [] => none
  | c :: cs =>
    match cutLastChars sep cs with
    | some (before, after) => some (c :: before, after)
    | none => if c = sep then some ([], cs) else none

def cutLast (sep : Char) (s : String) : Option (String × String) :=
  (cutLastChars sep s.toList).map fun (before, after) => (String.ofList before, String.ofList after)

/-- Texts one after the other, with `sep` between two of them. -/
def join (sep : String) : List String → String
  | [] => ""
  | [s] => s
  | s :: t :: rest => s ++ sep ++ join sep (t :: rest)

/-- Names between commas, or the word `none` if there are no names. -/
def nameList (names : List String) : String :=
  if names.isEmpty then "none" else join ", " names

def dropLead : (lead cs : List Char) → Option (List Char)
  | [], cs => some cs
  | _ :: _, [] => none
  | l :: lead, c :: cs => if l = c then dropLead lead cs else none

def dropTail (tail s : String) : Option String :=
  (dropLead tail.toList.reverse s.toList.reverse).map fun cs => String.ofList cs.reverse

def beginsWith (s lead : String) : Bool :=
  (dropLead lead.toList s.toList).isSome

def endsWith (s tail : String) : Bool :=
  (dropTail tail s).isSome

theorem cutChars_ne_nil (sep : Char) (cs : List Char) : cutChars sep cs ≠ [] := by
  cases cs with
  | nil => simp [cutChars]
  | cons c cs =>
    unfold cutChars
    split
    · simp
    · split <;> simp

theorem dropLead_eq_some_iff {lead cs rest : List Char} :
    dropLead lead cs = some rest ↔ cs = lead ++ rest := by
  induction lead generalizing cs with
  | nil => simp [dropLead]
  | cons l lead ih =>
    cases cs with
    | nil => simp [dropLead]
    | cons c cs =>
      by_cases h : l = c
      · simp [dropLead, h, ih]
      · simp [dropLead, h, Ne.symm h]

theorem cutLastChars_eq_none_iff {sep : Char} {cs : List Char} :
    cutLastChars sep cs = none ↔ sep ∉ cs := by
  induction cs with
  | nil => simp [cutLastChars]
  | cons c cs ih =>
    cases h : cutLastChars sep cs with
    | some pair =>
      have : sep ∈ cs := by
        by_cases hm : sep ∈ cs
        · exact hm
        · rw [ih.2 hm] at h
          cases h
      simp [cutLastChars, h, this]
    | none =>
      have := ih.1 h
      by_cases hc : c = sep
      · simp [cutLastChars, h, hc]
      · simp [cutLastChars, h, hc, this, Ne.symm hc]

theorem cutLastChars_eq_some_iff {sep : Char} {cs before after : List Char} :
    cutLastChars sep cs = some (before, after) ↔
      cs = before ++ sep :: after ∧ sep ∉ after := by
  induction cs generalizing before after with
  | nil => simp [cutLastChars]
  | cons c cs ih =>
    cases h : cutLastChars sep cs with
    | some pair =>
      obtain ⟨b, a⟩ := pair
      have hcs := ih.1 h
      constructor
      · intro heq
        simp only [cutLastChars, h, Option.some.injEq, Prod.mk.injEq] at heq
        obtain ⟨rfl, rfl⟩ := heq
        exact ⟨by rw [hcs.1]; rfl, hcs.2⟩
      · rintro ⟨heq, hnot⟩
        cases before with
        | nil =>
          simp only [List.nil_append, List.cons.injEq] at heq
          rw [← heq.2, hcs.1] at hnot
          simp at hnot
        | cons b' before =>
          simp only [List.cons_append, List.cons.injEq] at heq
          have := ih.2 ⟨heq.2, hnot⟩
          rw [h] at this
          simp only [Option.some.injEq, Prod.mk.injEq] at this
          simp [cutLastChars, h, heq.1, this.1, this.2]
    | none =>
      have hnone := cutLastChars_eq_none_iff.1 h
      constructor
      · intro heq
        simp only [cutLastChars, h] at heq
        split at heq
        · simp only [Option.some.injEq, Prod.mk.injEq] at heq
          obtain ⟨rfl, rfl⟩ := heq
          subst c
          exact ⟨rfl, hnone⟩
        · cases heq
      · rintro ⟨heq, _⟩
        cases before with
        | nil =>
          simp only [List.nil_append, List.cons.injEq] at heq
          obtain ⟨rfl, rfl⟩ := heq
          simp [cutLastChars, h]
        | cons b' before =>
          simp only [List.cons_append, List.cons.injEq] at heq
          rw [heq.2] at hnone
          simp at hnone

end Signpost.Text
