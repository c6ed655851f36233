import QueryCursor.Proofs.Progress

/-!
# The bounds of a cursor

A cursor stands before its limit or at it, unless it has none.  At its limit it has
given up the rest, and so it has once it is closed.
-/

namespace QueryCursor

namespace Cursor

variable {σ ρ τ : Type}

/-- The cursor is not past its limit, and has given up the rest where it has to. -/
structure Bounded (scene : Scene (Cursor σ ρ τ)) : Prop where
  start_le : -1 ≤ scene.state.position
  limit : scene.state.limit = -1 ∨ scene.state.position ≤ scene.state.limit
  exhausted_of_limit : 0 ≤ scene.state.limit → scene.state.position = scene.state.limit →
    scene.state.ahead.stage = .exhausted
  exhausted_of_closed : scene.state.isOpen = false → scene.state.ahead.stage = .exhausted

namespace Bounded

variable {scene after : Scene (Cursor σ ρ τ)}

theorem ofSource (keys : List Value) (source : σ) (summary : σ → τ) (clock : Clock)
    (journal : List Message) :
    Bounded (⟨Cursor.ofSource keys source summary, clock, journal⟩ : Scene (Cursor σ ρ τ)) :=
  ⟨Int.le_refl _, .inl rfl, nofun, nofun⟩

/-- Where nothing is left, only the position is to be bounded. -/
theorem ofExhausted (start_le : -1 ≤ scene.state.position)
    (limit : scene.state.limit = -1 ∨ scene.state.position ≤ scene.state.limit)
    (exhausted : scene.state.ahead.stage = .exhausted) : Bounded scene :=
  ⟨start_le, limit, fun _ _ => exhausted, fun _ => exhausted⟩

/-- A cursor that stays where it was is bounded as before. -/
theorem stay (bounded : Bounded scene) (position : after.state.position = scene.state.position)
    (limit : after.state.limit = scene.state.limit)
    (isOpen : after.state.isOpen = false → after.state.ahead.stage = .exhausted)
    (exhausted : scene.state.ahead.stage = .exhausted → after.state.ahead.stage = .exhausted) :
    Bounded after where
  start_le := by
    rw [position]
    exact bounded.start_le
  limit := by
    rw [position, limit]
    exact bounded.limit
  exhausted_of_limit := by
    rw [position, limit]
    exact fun set reached => exhausted (bounded.exhausted_of_limit set reached)
  exhausted_of_closed := isOpen

variable [Source σ (Option ρ)]

theorem discard (start_le : -1 ≤ scene.state.position)
    (limit : scene.state.limit = -1 ∨ scene.state.position ≤ scene.state.limit) :
    Bounded (Cursor.discard.run scene).2 := by
  apply ofExhausted
  · rw [toPlace_of_discard]
    exact start_le
  · rw [toPlace_of_discard]
    exact limit
  · exact exhausted_of_run_discard scene

/-- A step from a scene where a record is held goes to the limit at most, and then gives
up the rest. -/
theorem step (bounded : Bounded scene) (isOpen : scene.state.isOpen = true) {record : Option ρ}
    (held : scene.state.ahead.stage = .holding record) : Bounded (Cursor.step.run scene).2 := by
  have start_le := bounded.start_le
  have notExhausted : ¬scene.state.ahead.stage = .exhausted := by simp [held]
  have notAtLimit : 0 ≤ scene.state.limit → scene.state.position ≠ scene.state.limit :=
    fun set reached => notExhausted (bounded.exhausted_of_limit set reached)
  have within : scene.state.limit = -1 ∨ scene.state.position + 1 ≤ scene.state.limit := by
    rcases bounded.limit with none | below
    · exact .inl none
    · by_cases set : 0 ≤ scene.state.limit
      · have notReached := notAtLimit set
        omega
      · omega
  have start_le' : -1 ≤ scene.state.position + 1 := by omega
  rw [run_step_of_holding held]
  split
  · exact discard start_le' within
  · next beyond =>
    exact ⟨start_le', within, fun _ reached => absurd reached beyond,
      fun closed => nomatch isOpen.symm.trans closed⟩

theorem move (move : Move) (scene : Scene (Cursor σ ρ τ)) (allowed : move.Allowed scene.state)
    (bounded : Bounded scene) : Bounded (move.action.run scene).2 := by
  have progress := Progress.move move scene allowed
  have stillExhausted : scene.state.ahead.stage = .exhausted →
      (move.action.run scene).2.state.ahead.stage = .exhausted := by
    intro exhausted
    rw [progress.ahead_eq exhausted]
    exact exhausted
  cases move with
  | look =>
      exact bounded.stay rfl rfl
        (fun closed => stillExhausted (bounded.exhausted_of_closed closed)) stillExhausted
  | clear =>
      exact bounded.stay rfl rfl
        (fun closed => stillExhausted (bounded.exhausted_of_closed closed)) stillExhausted
  | shut => exact bounded.stay rfl rfl (fun _ => allowed.2) stillExhausted
  | discard => exact discard bounded.start_le bounded.limit
  | step =>
      obtain ⟨isOpen, record, held⟩ := allowed
      exact bounded.step isOpen held
  | cap records =>
      obtain ⟨isOpen, notNegative⟩ := allowed
      have within : scene.state.position ≤ scene.state.position + records := by omega
      rw [run_cap]
      split
      · exact discard bounded.start_le (.inr within)
      · next some =>
        refine ⟨bounded.start_le, .inr within, ?_, fun closed => nomatch isOpen.symm.trans closed⟩
        intro _ (reached : scene.state.position = scene.state.position + records)
        exact absurd (show records = 0 by omega) some

theorem passes {start scene : Scene (Cursor σ ρ τ)} (bounded : Bounded start)
    (passes : Passes start scene) : Bounded scene :=
  passes.keeps move bounded

theorem sceneAfter {σ τ : Type} [Source σ (Option Record)] {scene : Scene (Cursor σ Record τ)}
    (bounded : Bounded scene) (operations : List CursorOperation) :
    Bounded (Cursor.sceneAfter operations scene) :=
  keeps_sceneAfter move operations bounded

end Bounded

end Cursor

end QueryCursor
