import QueryCursor.Proofs.Prospect
import QueryCursor.Proofs.Trail

/-!
# What a cursor cannot take back

A cursor only moves forward.  Once it has given up the rest, nothing is left to it: it
stays where it is, and no longer turns to its source.  Once it is closed it stays
closed, and refuses every operation that needs an open cursor.
-/

namespace QueryCursor

namespace Cursor

variable {σ ρ τ : Type}

/-- What does not change any more, or only in one direction, from one scene of a cursor
to a later one. -/
structure Progress (before after : Scene (Cursor σ ρ τ)) : Prop where
  summary_eq : after.state.summary = before.state.summary
  position_le : before.state.position ≤ after.state.position
  isOpen_of : after.state.isOpen = true → before.state.isOpen = true
  ahead_eq : before.state.ahead.stage = .exhausted → after.state.ahead = before.state.ahead
  position_eq : before.state.ahead.stage = .exhausted →
    after.state.position = before.state.position
  current_eq : before.state.ahead.stage = .exhausted →
    after.state.current = before.state.current ∨ after.state.current = none

namespace Progress

variable {scene before between after : Scene (Cursor σ ρ τ)}

theorem refl (scene : Scene (Cursor σ ρ τ)) : Progress scene scene where
  summary_eq := rfl
  position_le := Int.le_refl _
  isOpen_of := id
  ahead_eq _ := rfl
  position_eq _ := rfl
  current_eq _ := .inl rfl

theorem trans (first : Progress before between) (second : Progress between after) :
    Progress before after where
  summary_eq := second.summary_eq.trans first.summary_eq
  position_le := Int.le_trans first.position_le second.position_le
  isOpen_of isOpen := first.isOpen_of (second.isOpen_of isOpen)
  ahead_eq exhausted := by
    have same := first.ahead_eq exhausted
    exact (second.ahead_eq (same ▸ exhausted)).trans same
  position_eq exhausted := by
    have same := first.ahead_eq exhausted
    exact (second.position_eq (same ▸ exhausted)).trans (first.position_eq exhausted)
  current_eq exhausted := by
    have same := first.ahead_eq exhausted
    rcases second.current_eq (same ▸ exhausted) with kept | cleared
    · rw [kept]
      exact first.current_eq exhausted
    · exact .inr cleared

/-- Where nothing is fetched or given up, the place is to go forward. -/
theorem ofPlace (summary : after.state.summary = before.state.summary)
    (ahead : after.state.ahead = before.state.ahead)
    (position : after.state.position = before.state.position)
    (isOpen : after.state.isOpen = true → before.state.isOpen = true)
    (current : after.state.current = before.state.current ∨ after.state.current = none) :
    Progress before after where
  summary_eq := summary
  position_le := Int.le_of_eq position.symm
  isOpen_of := isOpen
  ahead_eq _ := ahead
  position_eq _ := position
  current_eq _ := current

theorem stepped {record : Option ρ} (held : scene.state.ahead.stage = .holding record) :
    Progress scene (Cursor.stepped scene record) where
  summary_eq := rfl
  position_le := Int.le_add_one (Int.le_refl _)
  isOpen_of := id
  ahead_eq exhausted := nomatch held.symm.trans exhausted
  position_eq exhausted := nomatch held.symm.trans exhausted
  current_eq exhausted := nomatch held.symm.trans exhausted

variable [Source σ (Option ρ)]

theorem discard (scene : Scene (Cursor σ ρ τ)) : Progress scene (Cursor.discard.run scene).2 := by
  by_cases exhausted : scene.state.ahead.stage = .exhausted
  · rw [run_discard_of_exhausted exhausted]
    exact refl scene
  · rw [run_discard_of_left exhausted]
    exact ⟨rfl, Int.le_refl _, id, fun ended => absurd ended exhausted, fun _ => rfl,
      fun _ => .inl rfl⟩

theorem fetch (scene : Scene (Cursor σ ρ τ)) :
    Progress scene ((onAhead LookAhead.fetch).run scene).2 := by
  refine ⟨rfl, Int.le_refl _, id, ?_, fun _ => rfl, fun _ => .inl rfl⟩
  intro exhausted
  rw [run_fetch_of_exhausted exhausted]

theorem move (move : Move) (scene : Scene (Cursor σ ρ τ)) (allowed : move.Allowed scene.state) :
    Progress scene (move.action.run scene).2 := by
  cases move with
  | look => exact fetch scene
  | clear => exact ofPlace rfl rfl rfl id (.inr rfl)
  | discard => exact discard scene
  | shut => exact ofPlace rfl rfl rfl (fun isOpen => nomatch isOpen) (.inl rfl)
  | cap records =>
      have limited : Progress scene (limitedTo records scene) :=
        ofPlace rfl rfl rfl id (.inl rfl)
      rw [run_cap]
      split
      · exact limited.trans (discard _)
      · exact limited
  | step =>
      obtain ⟨_, record, held⟩ := allowed
      rw [Move.action, run_step_of_holding held]
      split
      · exact (stepped held).trans (discard _)
      · exact stepped held

theorem sceneAfter {σ τ : Type} [Source σ (Option Record)] (operations : List CursorOperation)
    (scene : Scene (Cursor σ Record τ)) : Progress scene (Cursor.sceneAfter operations scene) :=
  keeps_sceneAfter (fun next between allowed before => before.trans (move next between allowed))
    operations (refl scene)

end Progress

end Cursor

end QueryCursor
