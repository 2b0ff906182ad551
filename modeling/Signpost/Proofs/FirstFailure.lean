import Mathlib.Data.List.Forall2

/-!
# Actions that can fail

One action after another succeeds if both do, and otherwise the first failure is that of the whole.
-/

namespace Signpost

variable {ε α β : Type}

theorem bind_eq_ok_iff {action : Except ε α} {next : α → Except ε β} {b : β} :
    action >>= next = .ok b ↔ ∃ a, action = .ok a ∧ next a = .ok b := by
  cases action <;> simp [bind, Except.bind]

theorem bind_eq_error_iff {action : Except ε α} {next : α → Except ε β} {cause : ε} :
    action >>= next = .error cause ↔
      action = .error cause ∨ ∃ a, action = .ok a ∧ next a = .error cause := by
  cases action <;> simp [bind, Except.bind]

theorem mapError_eq_ok_iff {δ : Type} {action : Except ε α} {change : ε → δ} {a : α} :
    action.mapError change = .ok a ↔ action = .ok a := by
  cases action with
  | error e =>
      constructor
      · intro hok
        cases hok
      · intro hok
        cases hok
  | ok b =>
      change Except.ok b = Except.ok a ↔ _
      rw [Except.ok.injEq, Except.ok.injEq]

theorem mapM_congr {f g : α → Except ε β} {inputs : List α}
    (hsame : ∀ a ∈ inputs, f a = g a) : inputs.mapM f = inputs.mapM g := by
  induction inputs with
  | nil => rfl
  | cons a inputs ih =>
      obtain ⟨hfirst, hrest⟩ := List.forall_mem_cons.mp hsame
      rw [List.mapM_cons, List.mapM_cons, hfirst, ih hrest]

theorem mapM_eq_ok_iff {f : α → Except ε β} {inputs : List α} {results : List β} :
    inputs.mapM f = .ok results ↔ List.Forall₂ (fun a b => f a = .ok b) inputs results := by
  induction inputs generalizing results with
  | nil =>
      rw [List.mapM_nil, List.forall₂_nil_left_iff]
      constructor
      · rintro ⟨⟩
        rfl
      · rintro rfl
        rfl
  | cons a inputs ih =>
      rw [List.mapM_cons, bind_eq_ok_iff, List.forall₂_cons_left_iff]
      constructor
      · rintro ⟨first, hfirst, hrest⟩
        obtain ⟨others, hothers, hcons⟩ := bind_eq_ok_iff.mp hrest
        cases hcons
        exact ⟨first, others, hfirst, ih.mp hothers, rfl⟩
      · rintro ⟨first, others, hfirst, hothers, rfl⟩
        exact ⟨first, hfirst, bind_eq_ok_iff.mpr ⟨others, ih.mpr hothers, rfl⟩⟩

/-- The first failure is that of the whole. -/
theorem mapM_eq_error_iff {f : α → Except ε β} {inputs : List α} {cause : ε} :
    inputs.mapM f = .error cause ↔
      ∃ front a back, inputs = front ++ a :: back ∧ (∀ b ∈ front, ∃ c, f b = .ok c) ∧
        f a = .error cause := by
  constructor
  · intro hfails
    induction inputs with
    | nil => cases hfails
    | cons first inputs ih =>
        rw [List.mapM_cons, bind_eq_error_iff] at hfails
        rcases hfails with hfirst | ⟨value, hvalue, hrest⟩
        · exact ⟨[], first, inputs, rfl, by simp, hfirst⟩
        · rcases bind_eq_error_iff.mp hrest with hlater | ⟨_, _, hpure⟩
          · obtain ⟨front, a, back, rfl, hfront, ha⟩ := ih hlater
            have hall : ∀ b ∈ first :: front, ∃ c, f b = .ok c :=
              List.forall_mem_cons.mpr ⟨⟨value, hvalue⟩, hfront⟩
            exact ⟨first :: front, a, back, rfl, hall, ha⟩
          · cases hpure
  · rintro ⟨front, a, back, rfl, hfront, ha⟩
    induction front with
    | nil =>
        rw [List.nil_append, List.mapM_cons, bind_eq_error_iff]
        exact .inl ha
    | cons first front ih =>
        obtain ⟨⟨value, hvalue⟩, hrest⟩ := List.forall_mem_cons.mp hfront
        rw [List.cons_append, List.mapM_cons, bind_eq_error_iff]
        exact .inr ⟨value, hvalue, bind_eq_error_iff.mpr (.inl (ih hrest))⟩

theorem exists_of_mem_of_forall₂ {R : α → β → Prop} {inputs : List α}
    {results : List β} (hall : List.Forall₂ R inputs results) {b : β} (hb : b ∈ results) :
    ∃ a ∈ inputs, R a b := by
  induction hall with
  | nil => cases hb
  | @cons a first inputs results hfirst _ ih =>
      rcases List.mem_cons.mp hb with rfl | hb
      · exact ⟨a, List.mem_cons_self, hfirst⟩
      · obtain ⟨other, hother, hrelated⟩ := ih hb
        exact ⟨other, List.mem_cons_of_mem a hother, hrelated⟩

end Signpost
