import QueryCursor.Proofs.Refusal
import QueryCursor.Proofs.Release
import QueryCursor.Proofs.Whereabouts

/-!
# The first record and the only one

The record that a cursor gives as the first one is the first one of its source, however the
cursor was used before, and the cursor stands on it then.  What it gives as the only record has
none after it, now or later.  Where it refuses to do so because there is a second one, that
record is before it.
-/

namespace QueryCursor

namespace Cursor

section Moves

variable {σ ρ τ : Type} [Source σ (Option ρ)] {scene : Scene (Cursor σ ρ τ)}
  {course : Course (Option ρ)}

/-! ## On the first record -/

/-- The cursor is open and stands on a record as the first one. -/
structure OnFirst (record : ρ) (scene : Scene (Cursor σ ρ τ)) : Prop where
  isOpen : scene.state.isOpen = true
  position_eq : scene.state.position = 0
  current_eq : scene.state.current = some record

variable {between after : Scene (Cursor σ ρ τ)} {record : ρ}

namespace OnFirst

theorem hasNext {more : Bool} (onFirst : OnFirst record scene)
    (looked : (onAhead LookAhead.hasNext).run scene = (.ok more, after)) :
    OnFirst record after := by
  have same := toPlace_of_hasNext looked
  refine ⟨?_, ?_, ?_⟩
  · rw [same]
    exact onFirst.isOpen
  · rw [same]
    exact onFirst.position_eq
  · rw [same]
    exact onFirst.current_eq

end OnFirst

/-! ## The only record -/

end Moves

section Operations

variable {σ τ : Type} {scene after : Scene (Cursor σ Record τ)} {course : Course (Option Record)}
  {action : Action (Cursor σ Record τ) Record} {record : Record} {key : Option Value}
  {value : Value} {answer : CursorAnswer τ}

/-! ## Values of records -/

variable [Source σ (Option Record)]

/-- Whatever is done next, no other record is reached than the one the cursor stands on, which
says that nothing is left as long as it is open, and the source is not contacted. -/
structure OnLast (record : Record) (scene : Scene (Cursor σ Record τ)) : Prop where
  calls_eq : ∀ later, callsDuring later scene = []
  position_eq : ∀ later, (sceneAfter later scene).state.position = scene.state.position
  current_eq : ∀ later, (sceneAfter later scene).state.current = some record ∨
    (sceneAfter later scene).state.current = none
  spent : ∀ later, (sceneAfter later scene).state.isOpen = true →
    Spent scene.state.summary (sceneAfter later scene)

theorem OnLast.of_exhausted (exhausted : scene.state.ahead.stage = .exhausted)
    (current : scene.state.current = some record) : OnLast record scene where
  calls_eq := callsDuring_of_exhausted exhausted
  position_eq later := (Progress.sceneAfter later scene).position_eq exhausted
  current_eq later := by
    rw [← current]
    exact (Progress.sceneAfter later scene).current_eq exhausted
  spent later isOpen := by
    have progress := Progress.sceneAfter later scene
    rw [← progress.summary_eq]
    exact .of_exhausted isOpen (progress.ahead_eq exhausted ▸ exhausted)

end Operations

end Cursor

end QueryCursor
