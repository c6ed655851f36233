import QueryCursor.Proofs.Heritage

/-!
# Where a cursor is on its course

However a cursor is used, its current record is the item of its course at its position, and the
items after that one are still before it until the rest is given up.
-/

namespace QueryCursor

namespace Course

variable {α : Type}

@[simp] theorem items_look (course : Course α) : course.look.2.items = course.items := by
  cases course <;> rfl

end Course

namespace Cursor

variable {σ ρ τ : Type} [Source σ (Option ρ)] {scene : Scene (Cursor σ ρ τ)}
  {course : Course (Option ρ)}

/-- The current record is the one at the position of the cursor, and the items after that
position are before it, unless the rest has been given up. -/
structure CourseInvariant (course : Course (Option ρ)) (scene : Scene (Cursor σ ρ τ)) : Prop where
  start_le : -1 ≤ scene.state.position
  current : ∀ record, scene.state.current = some record →
    0 ≤ scene.state.position ∧ course.items[scene.state.position.toNat]? = some (some record)
  left : scene.state.ahead.stage ≠ .exhausted → ∃ rest,
    HasCourse scene scene.state.toPlace rest ∧
      rest.items = course.items.drop (scene.state.position + 1).toNat

namespace CourseInvariant

theorem ofSource {keys : List Value} {source : σ} {summary : σ → τ} {clock : Clock}
    (journal : List Message) (follows : Source.Follows source clock course) :
    CourseInvariant course ⟨Cursor.ofSource keys source summary, clock, journal⟩ where
  start_le := Int.le_refl _
  current := nofun
  left _ := ⟨course, .ofSource journal follows, rfl⟩

theorem discard (invariant : CourseInvariant course scene) :
    CourseInvariant course (Cursor.discard.run scene).2 := by
  have same := toPlace_of_discard scene
  refine ⟨?_, ?_, fun left => absurd (exhausted_of_run_discard scene) left⟩
  · rw [same]
    exact invariant.start_le
  · rw [same]
    exact invariant.current

theorem fetch (invariant : CourseInvariant course scene) :
    CourseInvariant course ((onAhead LookAhead.fetch).run scene).2 := by
  refine ⟨invariant.start_le, invariant.current, ?_⟩
  intro left
  have leftBefore : scene.state.ahead.stage ≠ .exhausted := by
    intro exhausted
    rw [run_fetch_of_exhausted exhausted] at left
    exact left exhausted
  obtain ⟨rest, hasCourse, items⟩ := invariant.left leftBefore
  exact ⟨rest.look.2, hasCourse.fetch, rest.items_look.trans items⟩

theorem item_of_holding (invariant : CourseInvariant course scene) {record : Option ρ}
    (held : scene.state.ahead.stage = .holding record) :
    course.items[(scene.state.position + 1).toNat]? = some record ∧ ∃ rest,
      HasCourse scene scene.state.toPlace (.item rest.closing record rest) ∧
        rest.items = course.items.drop ((scene.state.position + 1).toNat + 1) := by
  obtain ⟨left, hasCourse, items⟩ := invariant.left (by simp [held])
  obtain ⟨rest, rfl⟩ := hasCourse.item_of_holding held
  rw [Course.items_item] at items
  refine ⟨?_, rest, hasCourse, ?_⟩
  · rw [← List.head?_drop, ← items]
    rfl
  · rw [← List.tail_drop, ← items]
    rfl

theorem step (invariant : CourseInvariant course scene) {record : Option ρ}
    (held : scene.state.ahead.stage = .holding record) :
    CourseInvariant course (Cursor.step.run scene).2 := by
  have start_le := invariant.start_le
  obtain ⟨found, rest, hasCourse, items⟩ := invariant.item_of_holding held
  obtain ⟨_, after⟩ := hasCourse.step
  have stands : (Cursor.step.run scene).2.state.toPlace = scene.state.toPlace.onto record := by
    rw [after.place_eq, advanceOf]
    split <;> rfl
  have further : (scene.state.position + 1 + 1).toNat =
      (scene.state.position + 1).toNat + 1 := by omega
  refine ⟨?_, ?_, ?_⟩
  · rw [stands, Place.position_onto]
    omega
  · rw [stands, Place.position_onto, Place.current_onto]
    rintro became rfl
    exact ⟨by omega, found⟩
  · intro left
    by_cases atLimit : scene.state.position + 1 = scene.state.limit
    · rw [run_step_of_holding held, if_pos atLimit] at left
      exact absurd (exhausted_of_run_discard _) left
    · rw [advanceOf, if_neg atLimit] at after
      refine ⟨rest, ⟨rfl, after.leaves⟩, ?_⟩
      rw [stands, Place.position_onto, further]
      exact items

theorem move (move : Move) (scene : Scene (Cursor σ ρ τ)) (allowed : move.Allowed scene.state)
    (invariant : CourseInvariant course scene) :
    CourseInvariant course (move.action.run scene).2 := by
  cases move with
  | look => exact invariant.fetch
  | discard => exact invariant.discard
  | clear => exact ⟨invariant.start_le, nofun, fun left => absurd allowed.2 left⟩
  | shut => exact ⟨invariant.start_le, invariant.current, fun left => absurd allowed.2 left⟩
  | step =>
      obtain ⟨_, record, held⟩ := allowed
      exact invariant.step held
  | cap records =>
      have limited : CourseInvariant course (limitedTo records scene) := by
        refine ⟨invariant.start_le, invariant.current, ?_⟩
        intro left
        obtain ⟨rest, hasCourse, items⟩ := invariant.left left
        exact ⟨rest, ⟨rfl, hasCourse.leaves⟩, items⟩
      rw [run_cap]
      split
      · exact limited.discard
      · exact limited

end CourseInvariant

end Cursor

end QueryCursor
