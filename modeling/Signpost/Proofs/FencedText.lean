import Signpost.FrontMatter
import Signpost.Proofs.CutAndJoin
import Mathlib.Data.List.TakeWhile

/-!
# Front matter between its fences

A text with front matter is put together from a fence, lines that are no fences, another fence and a
body. Splitting takes it apart again. It takes apart no other texts, and of those it gives back every
character: the first line after the opening that can be a fence is the one that closes.
-/

namespace Signpost

namespace FrontMatter

/-- Three hyphens, and only white space after them. -/
def IsFence (line : String) : Prop :=
  ∃ space : List Char, (∀ c ∈ space, Text.isSpace c = true) ∧ line.toList = fence.toList ++ space

/-- What a text with front matter is put together from. -/
structure Fenced where
  /-- The end of the first line. -/
  ending : String
  lines : List String
  /-- What stands behind the closing fence in its line. -/
  space : String
  /-- What stands after the line of the closing fence, if this line has an end. -/
  body? : Option String
  ending_eq : ending = "\n" ∨ ending = "\r\n"
  newline_notMem : ∀ line ∈ lines, '\n' ∉ line.toList
  not_isFence : ∀ line ∈ lines, ¬IsFence line
  isSpace_eq : ∀ c ∈ space.toList, Text.isSpace c = true ∧ c ≠ '\n'

namespace Fenced

def inside (f : Fenced) : String :=
  String.join (f.lines.map (· ++ "\n"))

def body (f : Fenced) : String :=
  f.body?.getD ""

def text (f : Fenced) : String :=
  fence ++ f.ending ++ f.inside ++ fence ++ f.space ++ (f.body?.map ("\n" ++ ·)).getD ""

end Fenced

/-! ### Fences -/

/-- A line is a fence if it is one after white space at its end is taken away. -/
theorem trimEndChars_eq_fence_iff {line : String} :
    Text.trimEndChars line.toList = fence.toList ↔ IsFence line := by
  unfold Text.trimEndChars
  constructor
  · intro htrim
    refine ⟨(line.toList.reverse.takeWhile Text.isSpace).reverse, fun c hc => ?_, ?_⟩
    · exact List.mem_takeWhile_imp (List.mem_reverse.mp hc)
    · rw [← htrim, ← List.reverse_append, List.takeWhile_append_dropWhile, List.reverse_reverse]
  · rintro ⟨space, hspace, hline⟩
    have hdrop : ∀ c ∈ space.reverse, Text.isSpace c = true :=
      fun c hc => hspace c (List.mem_reverse.mp hc)
    have hfence : fence.toList.reverse.dropWhile Text.isSpace = fence.toList.reverse := by decide
    rw [hline, List.reverse_append, List.dropWhile_append_of_pos hdrop, hfence, List.reverse_reverse]

theorem cutAtFence_eq_some_iff {lines before after : List String} :
    cutAtFence lines = some (before, after) ↔
      ∃ closing, lines = before ++ closing :: after ∧ IsFence closing ∧
        ∀ line ∈ before, ¬IsFence line := by
  induction lines generalizing before with
  | nil => simp [cutAtFence]
  | cons line lines ih =>
      rw [cutAtFence]
      by_cases hline : IsFence line
      · rw [if_pos (trimEndChars_eq_fence_iff.mpr hline)]
        constructor
        · rintro ⟨⟩
          exact ⟨line, rfl, hline, by simp⟩
        · rintro ⟨closing, hlines, -, hbefore⟩
          cases before with
          | nil =>
              cases hlines
              rfl
          | cons first before =>
              cases hlines
              exact absurd hline (hbefore line List.mem_cons_self)
      · rw [if_neg (mt trimEndChars_eq_fence_iff.mp hline), Option.map_eq_some_iff]
        constructor
        · rintro ⟨⟨front, back⟩, hcut, ⟨⟩⟩
          obtain ⟨closing, rfl, hclosing, hfront⟩ := ih.mp hcut
          exact ⟨closing, rfl, hclosing, List.forall_mem_cons.mpr ⟨hline, hfront⟩⟩
        · rintro ⟨closing, hlines, hclosing, hbefore⟩
          cases before with
          | nil =>
              cases hlines
              exact absurd hclosing hline
          | cons first front =>
              cases hlines
              have hfront := (List.forall_mem_cons.mp hbefore).2
              exact ⟨(front, after), ih.mpr ⟨closing, rfl, hclosing, hfront⟩, rfl⟩

/-! ### Lines that have ended -/

theorem ended_eq_join (lines : List String) : ended lines = String.join (lines.map (· ++ "\n")) := by
  induction lines with
  | nil => rfl
  | cons line lines ih => rw [ended, ih, List.map_cons, String.join_cons]

theorem cut_ended_append {lines : List String} (hlines : ∀ line ∈ lines, '\n' ∉ line.toList)
    (rest : String) : Text.cut '\n' (ended lines ++ rest) = lines ++ Text.cut '\n' rest := by
  induction lines with
  | nil => rw [ended, String.empty_append, List.nil_append]
  | cons line lines ih =>
      obtain ⟨hline, hothers⟩ := List.forall_mem_cons.mp hlines
      have hcut := Text.cut_append_singleton '\n' line (ended lines ++ rest)
      rw [Text.cut_of_notMem hline, ih hothers, ← String.append_assoc] at hcut
      exact hcut

theorem join_append_cons (before : List String) (closing : String) (after : List String) :
    Text.join "\n" (before ++ closing :: after) =
      ended before ++ closing ++
        (if after = [] then "" else "\n" ++ Text.join "\n" after) := by
  induction before with
  | nil =>
      rw [List.nil_append, ended, String.empty_append]
      split
      · rename_i hafter
        rw [hafter, Text.join, String.append_empty]
      · rename_i hafter
        rw [Text.join_cons_of_ne_nil "\n" closing hafter, String.append_assoc]
  | cons line before ih =>
      rw [List.cons_append, Text.join_cons_of_ne_nil "\n" line (by simp), ih, ended]
      simp only [String.append_assoc]

/-! ### Splitting -/

/-- Lines that begin with an opening fence are split at the next fence. -/
theorem split_eq_some_iff {text inside body : String} :
    split text = (some inside, body) ↔
      ∃ first before closing after, Text.cut '\n' text = first :: (before ++ closing :: after) ∧
        (first = fence ∨ first = fence ++ "\r") ∧ (∀ line ∈ before, ¬IsFence line) ∧
        IsFence closing ∧ inside = ended before ∧ body = Text.join "\n" after := by
  unfold split
  cases hcut : Text.cut '\n' text with
  | nil => simp
  | cons first lines =>
      dsimp only
      constructor
      · intro hsplit
        split at hsplit
        · rename_i before after hinside
          cases hsplit
          split at hinside
          · rename_i hfirst
            obtain ⟨closing, rfl, hclosing, hbefore⟩ := cutAtFence_eq_some_iff.mp hinside
            exact ⟨first, before, closing, after, rfl, by simpa using hfirst, hbefore, hclosing, rfl,
              rfl⟩
          · cases hinside
        · cases hsplit
      · rintro ⟨_, before, closing, after, ⟨⟩, hfirst, hbefore, hclosing, rfl, rfl⟩
        have hinside : cutAtFence (before ++ closing :: after) = some (before, after) :=
          cutAtFence_eq_some_iff.mpr ⟨closing, rfl, hclosing, hbefore⟩
        rw [if_pos (by simpa using hfirst), hinside]

theorem eq_of_split_eq_none {text body : String} (hsplit : split text = (none, body)) :
    body = text := by
  unfold split at hsplit
  split at hsplit
  · dsimp only at hsplit
    split at hsplit
    · cases hsplit
    · cases hsplit
      rfl
  · cases hsplit
    rfl

theorem Fenced.isFence_closing (f : Fenced) : IsFence (fence ++ f.space) :=
  ⟨f.space.toList, fun c hc => (f.isSpace_eq c hc).1, String.toList_append⟩

theorem Fenced.newline_notMem_closing (f : Fenced) : '\n' ∉ (fence ++ f.space).toList := by
  rw [String.toList_append, List.mem_append, not_or]
  exact ⟨by decide, fun hmem => (f.isSpace_eq '\n' hmem).2 rfl⟩

/-- The lines of a text with front matter. -/
theorem Fenced.cut_text (f : Fenced) :
    ∃ first, (first = fence ∨ first = fence ++ "\r") ∧
      Text.cut '\n' f.text = first :: (f.lines ++ (fence ++ f.space) ::
        (f.body?.map (Text.cut '\n')).getD []) := by
  obtain ⟨first, hfirst, hending⟩ : ∃ first, (first = fence ∨ first = fence ++ "\r") ∧
      fence ++ f.ending = first ++ String.singleton '\n' := by
    rcases f.ending_eq with hlf | hcrlf
    · exact ⟨fence, .inl rfl, by rw [hlf]; rfl⟩
    · exact ⟨fence ++ "\r", .inr rfl, by rw [hcrlf]; rfl⟩
  have hfree : '\n' ∉ first.toList := by
    rcases hfirst with rfl | rfl <;> decide
  have hrest : Text.cut '\n' (fence ++ f.space ++ (f.body?.map ("\n" ++ ·)).getD "") =
      (fence ++ f.space) :: (f.body?.map (Text.cut '\n')).getD [] := by
    cases f.body? with
    | none => simpa using Text.cut_of_notMem f.newline_notMem_closing
    | some body =>
        have hcut := Text.cut_append_singleton '\n' (fence ++ f.space) body
        rw [Text.cut_of_notMem f.newline_notMem_closing, String.append_assoc] at hcut
        exact hcut
  refine ⟨first, hfirst, ?_⟩
  calc Text.cut '\n' f.text
      = Text.cut '\n' (first ++ String.singleton '\n' ++ (ended f.lines ++
          (fence ++ f.space ++ (f.body?.map ("\n" ++ ·)).getD ""))) := by
        rw [text, hending, inside, ended_eq_join]
        simp only [String.append_assoc]
    _ = Text.cut '\n' first ++ Text.cut '\n' (ended f.lines ++
          (fence ++ f.space ++ (f.body?.map ("\n" ++ ·)).getD "")) :=
        Text.cut_append_singleton '\n' first _
    _ = first :: (f.lines ++ (fence ++ f.space) :: (f.body?.map (Text.cut '\n')).getD []) := by
        rw [Text.cut_of_notMem hfree, cut_ended_append f.newline_notMem, hrest, List.singleton_append]

theorem split_text (f : Fenced) : split f.text = (some f.inside, f.body) := by
  obtain ⟨first, hfirst, hcut⟩ := f.cut_text
  rw [split_eq_some_iff]
  refine ⟨first, f.lines, fence ++ f.space, _, hcut, hfirst, f.not_isFence, f.isFence_closing,
    (ended_eq_join f.lines).symm, ?_⟩
  unfold Fenced.body
  cases f.body? with
  | none => rfl
  | some body => exact (Text.join_cut '\n' body).symm

/-- What is taken apart was put together. -/
theorem exists_fenced_of_split {text inside body : String}
    (hsplit : split text = (some inside, body)) :
    ∃ f : Fenced, f.text = text ∧ f.inside = inside ∧ f.body = body := by
  obtain ⟨first, before, closing, after, hcut, hfirst, hbefore, ⟨space, hspace, hclosing⟩, rfl,
    rfl⟩ := split_eq_some_iff.mp hsplit
  have hfree : ∀ line ∈ first :: (before ++ closing :: after), '\n' ∉ line.toList := by
    rw [← hcut]
    exact fun line hline => Text.notMem_of_mem_cut hline
  have hclosingFree : '\n' ∉ closing.toList := hfree closing (by simp)
  have hline : closing = fence ++ String.ofList space := by
    rw [← String.toList_inj, hclosing, String.toList_append, String.toList_ofList]
  obtain ⟨ending, hending, hopening⟩ : ∃ ending, (ending = "\n" ∨ ending = "\r\n") ∧
      first ++ "\n" = fence ++ ending := by
    rcases hfirst with rfl | rfl
    · exact ⟨"\n", .inl rfl, rfl⟩
    · exact ⟨"\r\n", .inr rfl, rfl⟩
  have hspaceFree : ∀ c ∈ (String.ofList space).toList, Text.isSpace c = true ∧ c ≠ '\n' := by
    intro c hc
    rw [String.toList_ofList] at hc
    refine ⟨hspace c hc, ?_⟩
    rintro rfl
    exact hclosingFree (hclosing ▸ List.mem_append_right _ hc)
  have htext : text = fence ++ ending ++ ended before ++ (fence ++ String.ofList space) ++
      (if after = [] then "" else "\n" ++ Text.join "\n" after) :=
    calc text = Text.join "\n" (Text.cut '\n' text) := (Text.join_cut '\n' text).symm
      _ = first ++ "\n" ++ (ended before ++ closing ++
            (if after = [] then "" else "\n" ++ Text.join "\n" after)) := by
          rw [hcut, Text.join_cons_of_ne_nil "\n" first (by simp), join_append_cons]
      _ = _ := by
          rw [hopening, hline]
          simp only [String.append_assoc]
  refine ⟨⟨ending, before, String.ofList space,
    if after = [] then none else some (Text.join "\n" after), hending,
    fun line hmem => hfree line (by simp [hmem]), hbefore, hspaceFree⟩, ?_,
    (ended_eq_join before).symm, ?_⟩
  · rw [htext, Fenced.text, Fenced.inside, ← ended_eq_join]
    by_cases hafter : after = [] <;> simp [hafter, String.append_assoc]
  · by_cases hafter : after = [] <;> simp [Fenced.body, hafter, Text.join]

/-- **Splitting undoes fencing and loses nothing.** A text that is put together from front matter
and a body is split into these. A text that is split was put together from what it is split into.
Every other text is left as it is, and has no front matter. -/
theorem split_fenced :
    (∀ f : Fenced, split f.text = (some f.inside, f.body)) ∧
    (∀ text inside body, split text = (some inside, body) →
      ∃ f : Fenced, f.text = text ∧ f.inside = inside ∧ f.body = body) ∧
    ∀ text, (∀ f : Fenced, f.text ≠ text) → split text = (none, text) := by
  refine ⟨split_text, fun text inside body => exists_fenced_of_split, fun text hother => ?_⟩
  cases hsplit : split text with
  | mk front body =>
      cases front with
      | none => rw [eq_of_split_eq_none hsplit]
      | some inside =>
          obtain ⟨f, htext, -⟩ := exists_fenced_of_split hsplit
          exact absurd htext (hother f)

/-- Front matter with lines that are almost fences, before a body that begins with a fence. -/
def almostFenced : Fenced where
  ending := "\r\n"
  lines := ["id: a\r", " ---", "---x"]
  space := " \t\r"
  body? := some "---\n# A"
  ending_eq := .inr rfl
  newline_notMem := by decide
  not_isFence := by
    simp only [← trimEndChars_eq_fence_iff]
    decide
  isSpace_eq := by
    have hall : " \t\r".toList.all (fun c => Text.isSpace c && c != '\n') = true := by decide
    simpa using hall

/-- The third text has an opening fence, but no closing one. -/
theorem split_fenced_sample :
    split "---\r\nid: a\r\n ---\n---x\n--- \t\r\n---\n# A" =
        (some "id: a\r\n ---\n---x\n", "---\n# A") ∧
      split "---\n---" = (some "", "") ∧
      (∃ f : Fenced, f.text = "---\n---" ∧ f.inside = "" ∧ f.body = "") ∧
      (∀ f : Fenced, f.text ≠ "---\nid: a\n ---") ∧
      split "---\nid: a\n ---" = (none, "---\nid: a\n ---") := by
  obtain ⟨hfenced, hsplit, hother⟩ := split_fenced
  have hshort : split "---\n---" = (some "", "") := by decide
  have hunclosed : ∀ f : Fenced, f.text ≠ "---\nid: a\n ---" := by
    intro f htext
    have hnone : (split "---\nid: a\n ---").1 = none := by decide
    rw [← htext, hfenced f] at hnone
    cases hnone
  exact ⟨hfenced almostFenced, hshort, hsplit _ _ _ hshort, hunclosed, hother _ hunclosed⟩

end FrontMatter

end Signpost
