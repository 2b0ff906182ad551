import Signpost.Link
import Mathlib.Data.List.Basic
import Mathlib.Data.List.Induction
import Mathlib.Logic.Relation

/-!
# Folding paths

A piece of a path that is empty or a single dot changes nothing, and neither does a name with the
step up right after it. Such pieces can be taken out, in any order, until some steps up are left and
names after them. There is one such rest, and walking along the pieces finds it.
-/

namespace Signpost.Link

/-- A piece that leads one level down. -/
structure IsDown (piece : String) : Prop where
  isIdle_eq : Path.isIdle piece = false
  ne_up : piece ≠ ".."

instance : DecidablePred IsDown := fun piece =>
  decidable_of_iff (Path.isIdle piece = false ∧ piece ≠ "..")
    ⟨fun hpiece => ⟨hpiece.1, hpiece.2⟩, fun hpiece => ⟨hpiece.isIdle_eq, hpiece.ne_up⟩⟩

/-- One piece that changes nothing is taken out, or a name and the step up after it. -/
inductive FoldStep : List String → List String → Prop where
  | idle {front back : List String} {piece : String} :
      Path.isIdle piece = true → FoldStep (front ++ piece :: back) (front ++ back)
  | up {front back : List String} {name : String} :
      IsDown name → FoldStep (front ++ name :: ".." :: back) (front ++ back)

/-- Steps up, and names after them. -/
def IsFolded (pieces : List String) : Prop :=
  ∃ count names, pieces = List.replicate count ".." ++ names ∧ ∀ name ∈ names, IsDown name

/-- The folded path that is left of the pieces. -/
structure Folds (pieces route : List String) : Prop where
  steps : Relation.ReflTransGen FoldStep pieces route
  isFolded : IsFolded route

/-! ### The steps of a walk -/

theorem walkStep_of_isIdle {piece : String} (hpiece : Path.isIdle piece = true)
    (segments : List String) : walkStep segments piece = segments := by
  have hidle : piece = "" ∨ piece = "." := by simpa [Path.isIdle] using hpiece
  rcases hidle with rfl | rfl <;> rfl

theorem walkStep_of_isDown {name : String} (hname : IsDown name) (segments : List String) :
    walkStep segments name = segments ++ [name] := by
  have hidle : name ≠ "" ∧ name ≠ "." := by simpa [Path.isIdle] using hname.isIdle_eq
  simp [walkStep, hidle, hname.ne_up]

/-- A step up takes off the name before it. -/
theorem walkStep_up_of_isDown {name : String} (hname : IsDown name) (segments : List String) :
    walkStep (segments ++ [name]) ".." = segments := by
  simp [walkStep, hname.ne_up]

theorem walkStep_up_of_up (segments : List String) :
    walkStep (segments ++ [".."]) ".." = segments ++ [".."] ++ [".."] := by
  simp [walkStep]

/-- A step up is kept, or takes off what is before it. -/
theorem walkStep_up_eq (segments : List String) :
    walkStep segments ".." = segments ++ [".."] ∨ walkStep segments ".." = segments.dropLast := by
  rcases List.eq_nil_or_concat' segments with rfl | ⟨front, last, rfl⟩
  · exact .inl rfl
  · by_cases hlast : last = ".."
    · subst hlast
      exact .inl (walkStep_up_of_up front)
    · right
      simp [walkStep, hlast]

/-- Where nothing but steps up is left, a step up is kept. -/
theorem walkStep_up_replicate (count : Nat) :
    walkStep (List.replicate count "..") ".." = List.replicate (count + 1) ".." := by
  cases count with
  | zero => rfl
  | succ count =>
      rw [List.replicate_succ', walkStep_up_of_up, ← List.replicate_succ', ← List.replicate_succ']

theorem foldl_walkStep_of_isDown {names : List String} (hnames : ∀ name ∈ names, IsDown name)
    (segments : List String) : names.foldl walkStep segments = segments ++ names := by
  induction names generalizing segments with
  | nil => simp
  | cons name names ih =>
      rw [List.forall_mem_cons] at hnames
      rw [List.foldl_cons, walkStep_of_isDown hnames.1, ih hnames.2, List.append_assoc,
        List.singleton_append]

/-- Going up once for each name takes the names off, the last one first. -/
theorem foldl_walkStep_up {names : List String} (hnames : ∀ name ∈ names, IsDown name)
    (segments : List String) :
    (List.replicate names.length "..").foldl walkStep (segments ++ names) = segments := by
  induction names using List.reverseRecOn with
  | nil => simp
  | append_singleton front last ih =>
      have hfront : ∀ name ∈ front, IsDown name :=
        fun name hname => hnames name (List.mem_append_left [last] hname)
      have hlast : IsDown last := hnames last (List.mem_append_right front List.mem_cons_self)
      rw [List.length_append, List.length_singleton, List.replicate_succ, List.foldl_cons,
        ← List.append_assoc, walkStep_up_of_isDown hlast, ih hfront]

theorem foldl_walkStep_replicate (count : Nat) :
    (List.replicate count "..").foldl walkStep [] = List.replicate count ".." := by
  induction count with
  | zero => rfl
  | succ count ih =>
      rw [List.replicate_succ', List.foldl_append, ih, List.foldl_cons, List.foldl_nil,
        walkStep_up_replicate, List.replicate_succ']

/-! ### Folding keeps the end of a walk -/

theorem foldl_walkStep_of_foldStep {pieces rest : List String} (hstep : FoldStep pieces rest)
    (segments : List String) : pieces.foldl walkStep segments = rest.foldl walkStep segments := by
  cases hstep with
  | idle hpiece =>
      rw [List.foldl_append, List.foldl_append, List.foldl_cons, walkStep_of_isIdle hpiece]
  | up hname =>
      rw [List.foldl_append, List.foldl_append, List.foldl_cons, List.foldl_cons,
        walkStep_of_isDown hname, walkStep_up_of_isDown hname]

theorem foldl_walkStep_of_isFolded {route : List String} (hroute : IsFolded route) :
    route.foldl walkStep [] = route := by
  obtain ⟨count, names, rfl, hnames⟩ := hroute
  rw [List.foldl_append, foldl_walkStep_replicate, foldl_walkStep_of_isDown hnames]

/-- The folded path is where a walk along the pieces ends. -/
theorem Folds.foldl_walkStep_eq {pieces route : List String} (hfolds : Folds pieces route) :
    pieces.foldl walkStep [] = route := by
  obtain ⟨hsteps, hroute⟩ := hfolds
  induction hsteps using Relation.ReflTransGen.head_induction_on with
  | refl => exact foldl_walkStep_of_isFolded hroute
  | head hstep _ ih => rw [foldl_walkStep_of_foldStep hstep, ih]

/-! ### A walk folds -/

theorem isFolded_of_isDown {names : List String} (hnames : ∀ name ∈ names, IsDown name) :
    IsFolded names :=
  ⟨0, names, rfl, hnames⟩

/-- One step of a walk keeps the segments folded, and is a folding of the segments with the piece
behind them. -/
theorem folds_walkStep {segments : List String} (hsegments : IsFolded segments) (piece : String) :
    Folds (segments ++ [piece]) (walkStep segments piece) := by
  by_cases hidle : Path.isIdle piece = true
  · have hstep : FoldStep (segments ++ [piece]) (segments ++ []) := .idle hidle
    rw [walkStep_of_isIdle hidle]
    rw [List.append_nil] at hstep
    exact ⟨.single hstep, hsegments⟩
  · obtain ⟨count, names, rfl, hnames⟩ := hsegments
    by_cases hup : piece = ".."
    · subst hup
      induction names using List.reverseRecOn with
      | nil =>
          rw [List.append_nil, walkStep_up_replicate, List.replicate_succ']
          exact ⟨.refl, count + 1, [], by simp [List.replicate_succ'], by simp⟩
      | append_singleton names last _ =>
          have hlast : IsDown last := hnames last (by simp)
          have hfront : ∀ name ∈ names, IsDown name := fun name hname =>
            hnames name (List.mem_append_left [last] hname)
          have hstep : FoldStep (List.replicate count ".." ++ names ++ last :: ".." :: [])
              (List.replicate count ".." ++ names ++ []) := .up hlast
          rw [List.append_nil] at hstep
          rw [← List.append_assoc, walkStep_up_of_isDown hlast, List.append_assoc _ [last] _]
          exact ⟨.single hstep, count, names, rfl, hfront⟩
    · have hdown : IsDown piece := ⟨by simpa using hidle, hup⟩
      rw [walkStep_of_isDown hdown]
      refine ⟨.refl, count, names ++ [piece], by rw [List.append_assoc], ?_⟩
      intro name hname
      rcases List.mem_append.mp hname with hmem | hmem
      · exact hnames name hmem
      · rw [List.mem_singleton.mp hmem]
        exact hdown

theorem FoldStep.append {pieces rest : List String} (hstep : FoldStep pieces rest)
    (more : List String) : FoldStep (pieces ++ more) (rest ++ more) := by
  cases hstep with
  | idle hpiece =>
      rw [List.append_assoc, List.append_assoc, List.cons_append]
      exact .idle hpiece
  | up hname =>
      rw [List.append_assoc, List.append_assoc, List.cons_append, List.cons_append]
      exact .up hname

theorem folds_foldl_walkStep {segments : List String} (hsegments : IsFolded segments)
    (pieces : List String) : Folds (segments ++ pieces) (pieces.foldl walkStep segments) := by
  induction pieces generalizing segments with
  | nil =>
      rw [List.append_nil]
      exact ⟨.refl, hsegments⟩
  | cons piece pieces ih =>
      have hfirst := folds_walkStep hsegments piece
      have hrest := ih hfirst.isFolded
      have hlifted : Relation.ReflTransGen FoldStep (segments ++ [piece] ++ pieces)
          (walkStep segments piece ++ pieces) :=
        hfirst.steps.lift (· ++ pieces) fun _ _ hstep => hstep.append pieces
      rw [List.append_assoc, List.singleton_append] at hlifted
      exact ⟨hlifted.trans hrest.steps, hrest.isFolded⟩

/-- **Folding has one result**, and it is found by walking along the pieces, from any place that is
folded itself. -/
theorem folds_iff {segments : List String} (hsegments : IsFolded segments)
    {pieces route : List String} :
    Folds (segments ++ pieces) route ↔ pieces.foldl walkStep segments = route := by
  constructor
  · intro hfolds
    have hend := hfolds.foldl_walkStep_eq
    rwa [List.foldl_append, foldl_walkStep_of_isFolded hsegments] at hend
  · rintro rfl
    exact folds_foldl_walkStep hsegments pieces

end Signpost.Link
