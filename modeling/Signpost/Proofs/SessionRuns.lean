import Signpost.Commands

/-!
# What a session shows, writes and gives

A session never looks at the lines that have been shown before it; it only adds its own. So a
session that writes nothing is known by its result and by the lines it adds, and those of a sequence
of sessions are put together from those of its parts. A value that is written after such a session
goes to the outlet as one text with the end of its line, and the outlet decides how the run ends.
-/

namespace Signpost

namespace Outlet

variable {outlet : Outlet} {text cause : String}

theorem taken_eq_self (hnone : outlet.refusal? text = none) : outlet.taken text = text := by
  cases outlet with
  | unbounded => rfl
  | bounded room refusal =>
      have hroom : text.length ≤ room := by simpa [refusal?] using hnone
      rw [taken, List.take_of_length_le (by rwa [String.length_toList]), String.ofList_toList]

/-- After something is refused nothing more is taken. -/
theorem refusal?_append (hsome : outlet.refusal? text = some cause) (more : String) :
    outlet.refusal? (text ++ more) = some cause ∧
      outlet.taken (text ++ more) = outlet.taken text := by
  cases outlet with
  | unbounded => cases hsome
  | bounded room refusal =>
      obtain ⟨hroom, hcause⟩ : room < text.length ∧ refusal = cause := by
        simpa [refusal?] using hsome
      have hlength : room ≤ text.toList.length := by
        rw [String.length_toList]
        exact Nat.le_of_lt hroom
      constructor
      · simp [refusal?, hcause, Nat.lt_add_right more.length hroom]
      · rw [taken, taken, String.toList_append, List.take_append_of_le_length hlength]

end Outlet

namespace Session

variable {α β : Type} {s : Session α} {next : α → Session β} {a : α} {cause : CommandError}
  {result : Except CommandError β} {lines more : List String}

/-- What has been written and shown, with more lines. -/
def showing (t : Transcript) (lines : List String) : Transcript :=
  { t with messages := t.messages ++ lines }

@[simp]
theorem showing_nil (t : Transcript) : showing t [] = t := by
  simp [showing]

theorem showing_append (t : Transcript) (lines more : List String) :
    showing t (lines ++ more) = showing (showing t lines) more := by
  simp [showing]

/-- From any state on, the session ends with this result after showing these lines, and it writes
nothing. -/
def Gives (s : Session α) (result : Except CommandError α) (lines : List String) : Prop :=
  ∀ t, s.run.run t = (result, showing t lines)

theorem gives_pure (a : α) : Gives (pure a) (.ok a) [] := by
  intro t
  rw [showing_nil]
  rfl

theorem gives_throw (cause : CommandError) : Gives (throw cause : Session α) (.error cause) [] := by
  intro t
  rw [showing_nil]
  rfl

theorem gives_lift (action : Except CommandError α) : Gives (liftM action) action [] := by
  intro t
  rw [showing_nil]
  cases action <;> rfl

theorem gives_lift_of_eq {action : Except CommandError α} (haction : action = .ok a) :
    Gives (liftM action) (.ok a) [] :=
  haction ▸ gives_lift action

theorem gives_lift_of_eq_error {action : Except CommandError α} (haction : action = .error cause) :
    Gives (liftM action) (.error cause) [] :=
  haction ▸ gives_lift action

theorem gives_tell (lines : List String) : Gives (tell lines) (.ok ()) lines :=
  fun _ => rfl

theorem gives_say (line : String) : Gives (say line) (.ok ()) [line] :=
  gives_tell [line]

/-- The line that is shown for a reference that is only warned of. -/
def warning (u : Unresolved) : String :=
  "Warning: " ++ u.message

theorem gives_warn (reports : List Unresolved) :
    Gives (warn reports) (.ok ()) (reports.map warning) :=
  gives_tell (reports.map warning)

theorem Gives.congr {result : Except CommandError α} (hs : Gives s result lines)
    (hlines : lines = more) : Gives s result more :=
  hlines ▸ hs

theorem run_bind (t : Transcript) :
    (s >>= next).run.run t =
      match s.run.run t with
      | (.ok a, later) => (next a).run.run later
      | (.error cause, later) => (.error cause, later) := by
  rw [ExceptT.run_bind, StateT.run_bind]
  generalize s.run.run t = outcome
  obtain ⟨first | first, later⟩ := outcome <;> rfl

theorem Gives.bind (hfirst : Gives s (.ok a) lines) (hnext : Gives (next a) result more) :
    Gives (s >>= next) result (lines ++ more) := by
  intro t
  rw [run_bind, hfirst t]
  dsimp only
  rw [hnext (showing t lines), showing_append]

/-- A value is put into another form and nothing more is shown. -/
theorem Gives.bind_pure {f : α → β} (hs : Gives s (.ok a) lines) :
    Gives (s >>= fun a => pure (f a)) (.ok (f a)) lines := by
  rw [← List.append_nil lines]
  exact hs.bind (gives_pure (f a))

theorem Gives.bind_error (hfirst : Gives s (.error cause) lines) :
    Gives (s >>= next) (.error cause) lines := by
  intro t
  rw [run_bind, hfirst t]

/-- The session fails, whatever it shows before. -/
def Fails (s : Session α) : Prop :=
  ∃ cause lines, s.Gives (.error cause) lines

theorem fails_lift_of_eq {action : Except CommandError α} (haction : action = .error cause) :
    Fails (liftM action) :=
  ⟨cause, [], gives_lift_of_eq_error haction⟩

theorem Fails.bind (hs : Fails s) : Fails (s >>= next) := by
  obtain ⟨cause, lines, hfirst⟩ := hs
  exact ⟨cause, lines, hfirst.bind_error⟩

/-- What fails also fails after something that does not. -/
theorem Gives.bind_fails (hfirst : Gives s (.ok a) lines) (hnext : Fails (next a)) :
    Fails (s >>= next) := by
  obtain ⟨cause, more, hlater⟩ := hnext
  exact ⟨cause, lines ++ more, hfirst.bind hlater⟩

/-- What is written goes behind what was written before, as far as the outlet takes it. -/
theorem run_write (outlet : Outlet) (failure : String → CommandError) (text : String)
    (t : Transcript) :
    (write outlet failure text).run.run t =
      ((outlet.refusal? (t.output ++ text)).elim (.ok ()) fun cause => .error (failure cause),
        { t with output := outlet.taken (t.output ++ text) }) := by
  have hread : (get : Session Transcript).run.run t = (.ok t, t) := rfl
  rw [write, run_bind, hread]
  dsimp only
  cases outlet.refusal? (t.output ++ text) <;> rfl

end Session

namespace Commands

open Session

/-- The text of a value with the end of its line. -/
def written (o : Options) (value : Json) : String :=
  textOf o value ++ "\n"

/-- The value is written with the end of its line, or what refuses it makes the session fail. -/
theorem exists_run_writeJson (outlet : Outlet) (o : Options) (value : Json) (lines : List String) :
    ∃ result, (writeJson outlet o value).run.run ⟨"", lines⟩ =
        (result, ⟨outlet.taken (written o value), lines⟩) ∧
      match outlet.refusal? (written o value) with
      | none => result = .ok ()
      | some cause => ∃ e, result = .error e ∧ e.message = cause := by
  cases htext : outlet.refusal? (textOf o value) with
  | some cause =>
      obtain ⟨hrefusal, htaken⟩ := Outlet.refusal?_append htext "\n"
      refine ⟨.error (.json cause), ?_, ?_⟩
      · rw [writeJson, run_bind, run_write, String.empty_append, htext, written, htaken]
        rfl
      · rw [written, hrefusal]
        exact ⟨_, rfl, rfl⟩
  | none =>
      refine ⟨(outlet.refusal? (written o value)).elim (.ok ()) fun cause => .error (.io cause),
        ?_, ?_⟩
      · rw [writeJson, run_bind, run_write, String.empty_append, htext,
          Outlet.taken_eq_self htext]
        dsimp only [Option.elim]
        rw [run_write]
        rfl
      · cases outlet.refusal? (written o value) with
        | none => rfl
        | some cause => exact ⟨_, rfl, rfl⟩

end Commands

namespace Run

open Session Commands

variable {s : Session Unit} {cause : CommandError} {lines : List String}

theorem ofSession_of_gives (hs : s.Gives (.ok ()) lines) :
    ofSession s = { status := 0, messages := lines } := by
  rw [ofSession, hs {}]
  rfl

theorem ofSession_of_gives_error (hs : s.Gives (.error cause) lines) :
    ofSession s = { status := 1, messages := lines ++ ["Error: " ++ cause.message] } := by
  rw [ofSession, hs {}]
  rfl

/-- A value that is written at the end leaves its text, as far as the outlet takes it. -/
theorem ofSession_bind_writeJson {source : Session Json} {value : Json}
    (hsource : source.Gives (.ok value) lines) (outlet : Outlet) (o : Options) :
    ofSession (source >>= writeJson outlet o) =
      { status := if outlet.refusal? (written o value) = none then 0 else 1
        output := outlet.taken (written o value)
        messages := lines ++
          ((outlet.refusal? (written o value)).map fun cause => "Error: " ++ cause).toList } := by
  obtain ⟨result, hrun, hresult⟩ := exists_run_writeJson outlet o value lines
  have hshown : showing {} lines = ⟨"", lines⟩ := by simp [showing]
  rw [ofSession, run_bind, hsource {}, hshown]
  dsimp only
  rw [hrun]
  cases hrefusal : outlet.refusal? (written o value) with
  | none =>
      rw [hrefusal] at hresult
      subst hresult
      simp
  | some cause =>
      rw [hrefusal] at hresult
      obtain ⟨e, rfl, rfl⟩ := hresult
      simp

theorem status_of_fails (hs : s.Fails) : (ofSession s).status = 1 := by
  obtain ⟨cause, lines, hgives⟩ := hs
  rw [ofSession_of_gives_error hgives]

end Run

end Signpost
