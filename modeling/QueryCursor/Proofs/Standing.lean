import QueryCursor.Proofs.Heritage

/-!
# How a cursor stands

Where a cursor has got to tells whether it has a current record.
-/

namespace QueryCursor

namespace Cursor

variable {σ ρ τ : Type}

/-- A cursor that has not moved has no current record, and one that has moved has
one unless nothing is left. -/
structure CurrentInvariant (scene : Scene (Cursor σ ρ τ)) : Prop where
  start_le : -1 ≤ scene.state.position
  unmoved : scene.state.position = -1 → scene.state.current = none
  exhausted : scene.state.current = none →
    scene.state.position = -1 ∨ scene.state.ahead.stage = .exhausted

theorem CurrentInvariant.ofSource (keys : List Value) (source : σ) (summary : σ → τ) (clock : Clock)
    (journal : List Message) :
    CurrentInvariant
      (⟨Cursor.ofSource keys source summary, clock, journal⟩ : Scene (Cursor σ ρ τ)) :=
  ⟨Int.le_refl _, fun _ => rfl, fun _ => .inl rfl⟩

variable [Source σ (Option ρ)] {scene : Scene (Cursor σ ρ τ)}

/-- No record that is still to come is missing, and the source is released
without stop signals. -/
abbrev RecordsOnly (scene : Scene (Cursor σ ρ τ)) : Prop :=
  Awaits (fun record => record.isSome) (fun fault => fault.isStop = false)
    (fun fault => fault.isStop = false) scene

theorem CurrentInvariant.fetch (invariant : CurrentInvariant scene) :
    CurrentInvariant ((onAhead LookAhead.fetch).run scene).2 := by
  refine ⟨invariant.start_le, invariant.unmoved, ?_⟩
  intro noRecord
  rcases invariant.exhausted noRecord with unmoved | exhausted
  · exact .inl unmoved
  · right
    rw [run_fetch_of_exhausted exhausted]
    exact exhausted

theorem CurrentInvariant.discard (invariant : CurrentInvariant scene) :
    CurrentInvariant (Cursor.discard.run scene).2 := by
  have same := toPlace_of_discard scene
  refine ⟨?_, ?_, fun _ => .inr (exhausted_of_run_discard scene)⟩
  · rw [same]
    exact invariant.start_le
  · rw [same]
    exact invariant.unmoved

theorem CurrentInvariant.move {failures closings : Fault → Prop} (move : Move)
    (scene : Scene (Cursor σ ρ τ)) (allowed : move.Allowed scene.state)
    (before : Awaits (fun record => record.isSome) failures closings scene ∧
      CurrentInvariant scene) :
    Awaits (fun record => record.isSome) failures closings (move.action.run scene).2 ∧
      CurrentInvariant (move.action.run scene).2 := by
  obtain ⟨awaits, invariant⟩ := before
  refine ⟨awaits.move move scene allowed, ?_⟩
  cases move with
  | look => exact invariant.fetch
  | clear => exact ⟨invariant.start_le, fun _ => rfl, fun _ => .inr allowed.2⟩
  | discard => exact invariant.discard
  | shut => exact ⟨invariant.start_le, invariant.unmoved, invariant.exhausted⟩
  | cap records =>
      rw [run_cap]
      split
      · exact CurrentInvariant.discard ⟨invariant.start_le, invariant.unmoved, invariant.exhausted⟩
      · exact ⟨invariant.start_le, invariant.unmoved, invariant.exhausted⟩
  | step =>
      obtain ⟨_, record, held⟩ := allowed
      obtain ⟨place, course, hasCourse, obeys⟩ := awaits
      obtain ⟨rest, rfl⟩ := hasCourse.item_of_holding held
      have present : record.isSome := (Course.obeys_item.mp obeys).2.1
      have moved : (Cursor.step.run scene).2.state.toPlace = place.onto record := by
        rw [hasCourse.step.2.place_eq, advanceOf]
        split <;> rfl
      have start := invariant.start_le
      rw [hasCourse.place_eq] at start
      show CurrentInvariant (Cursor.step.run scene).2
      refine ⟨?_, ?_, ?_⟩
      · rw [moved, Place.position_onto]
        omega
      · rw [moved, Place.position_onto]
        omega
      · rw [moved, Place.current_onto]
        intro noRecord
        rw [noRecord] at present
        cases present

end Cursor

end QueryCursor
