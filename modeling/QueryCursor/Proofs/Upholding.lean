import QueryCursor.Proofs.Prospect
import QueryCursor.Proofs.Trail

/-!
# What a cursor upholds

A cursor works on its look-ahead in three ways: it fetches an item, takes one that is
held, and gives up the rest.  What each of these keeps, of the look-ahead and of the
clock, every operation of a cursor keeps.
-/

namespace QueryCursor

namespace LookAhead

variable {σ α : Type} [Source σ α]

/-- What holds of a look-ahead at a clock goes on to hold. -/
structure Upholds (good : LookAhead σ α → Clock → Prop) : Prop where
  fetch : ∀ scene : Scene (LookAhead σ α), good scene.state scene.clock →
    good (fetch.run scene).2.state (fetch.run scene).2.clock
  take : ∀ (source : σ) (item : α) (clock : Clock),
    good ⟨source, .holding item⟩ clock → good ⟨source, .empty⟩ clock
  discard : ∀ scene : Scene (LookAhead σ α), good scene.state scene.clock →
    good (discard.run scene).2.state (discard.run scene).2.clock

/-- What holds of the clock alone is kept if asking the source and releasing it keep it. -/
theorem Upholds.ofClock {good : Clock → Prop}
    (pull : ∀ scene : Scene σ, good scene.clock → good (Source.pull.run scene).2.clock)
    (release : ∀ scene : Scene σ, good scene.clock → good (Source.release.run scene).2.clock) :
    Upholds fun (_ : LookAhead σ α) clock => good clock := by
  have discarded (scene : Scene (LookAhead σ α)) (before : good scene.clock) :
      good (LookAhead.discard.run scene).2.clock := by
    obtain ⟨⟨source, stage⟩, clock, journal⟩ := scene
    cases stage with
    | exhausted => exact before
    | empty =>
        rw [run_discard clock journal rfl]
        exact release ⟨source, clock, journal⟩ before
    | holding =>
        rw [run_discard clock journal rfl]
        exact release ⟨source, clock, journal⟩ before
  refine ⟨?_, fun _ _ _ before => before, discarded⟩
  rintro ⟨⟨source, stage⟩, clock, journal⟩ before
  cases stage with
  | exhausted => exact before
  | holding => exact before
  | empty =>
      have pulled := pull ⟨source, clock, journal⟩ before
      rw [run_fetch_empty, run_refill]
      rcases ran : Source.pull.run (⟨source, clock, journal⟩ : Scene σ) with ⟨fault | item, after⟩
      · rw [ran] at pulled
        simp only
        split
        · exact discarded _ pulled
        · exact pulled
      · rw [ran] at pulled
        exact pulled

end LookAhead

namespace Cursor

variable {σ ρ τ : Type} [Source σ (Option ρ)] {good : LookAhead σ (Option ρ) → Clock → Prop}

theorem upholds_discard (upholds : LookAhead.Upholds good) (scene : Scene (Cursor σ ρ τ))
    (before : good scene.state.ahead scene.clock) :
    good (discard.run scene).2.state.ahead (discard.run scene).2.clock := by
  obtain ⟨journal, ran⟩ := run_discard scene
  rw [ran]
  exact upholds.discard ⟨scene.state.ahead, scene.clock, journal⟩ before

theorem upholds_move (upholds : LookAhead.Upholds good) (move : Move)
    (scene : Scene (Cursor σ ρ τ)) (allowed : move.Allowed scene.state) (before : good scene.state.ahead scene.clock) :
    good (move.action.run scene).2.state.ahead (move.action.run scene).2.clock := by
  cases move with
  | look => exact upholds.fetch (scene.withState scene.state.ahead) before
  | clear => exact before
  | shut => exact before
  | discard => exact upholds_discard upholds scene before
  | cap records =>
      rw [run_cap]
      split
      · exact upholds_discard upholds (limitedTo records scene) before
      · exact before
  | step =>
      obtain ⟨_, record, held⟩ := allowed
      have taken : good (stepped scene record).state.ahead scene.clock := by
        apply upholds.take scene.state.ahead.source record
        rw [← held]
        exact before
      rw [Move.action, run_step_of_holding held]
      split
      · exact upholds_discard upholds (stepped scene record) taken
      · exact taken

theorem keys_of_move (move : Move) (scene : Scene (Cursor σ ρ τ))
    (allowed : move.Allowed scene.state) :
    (move.action.run scene).2.state.keys = scene.state.keys := by
  have discarded (scene : Scene (Cursor σ ρ τ)) :
      (Cursor.discard.run scene).2.state.keys = scene.state.keys :=
    congrArg Place.keys (toPlace_of_discard scene)
  cases move with
  | look => rfl
  | clear => rfl
  | shut => rfl
  | discard => exact discarded scene
  | cap records =>
      rw [run_cap]
      split
      · exact discarded (limitedTo records scene)
      · rfl
  | step =>
      obtain ⟨_, record, held⟩ := allowed
      rw [Move.action, run_step_of_holding held]
      split
      · exact discarded (stepped scene record)
      · rfl

theorem upholds_perform {σ τ : Type} [Source σ (Option Record)]
    {good : LookAhead σ (Option Record) → Clock → Prop} (upholds : LookAhead.Upholds good)
    (operation : CursorOperation) (scene : Scene (Cursor σ Record τ))
    (before : good scene.state.ahead scene.clock) :
    good ((perform operation).run scene).2.state.ahead
      ((perform operation).run scene).2.clock := by
  have kept : ∀ (move : Move) (scene : Scene (Cursor σ Record τ)), move.Allowed scene.state →
      good scene.state.ahead scene.clock →
        good (move.action.run scene).2.state.ahead (move.action.run scene).2.clock :=
    upholds_move upholds
  exact (trail_of_perform operation scene).keeps kept before

end Cursor

end QueryCursor
