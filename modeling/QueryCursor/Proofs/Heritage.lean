import QueryCursor.Proofs.Prospect
import QueryCursor.Proofs.Trail

/-!
# What a course passes on

The course before a cursor only ever gets shorter.  What holds of all that is in
it, such as that no record is missing, goes on to hold while the cursor is used.
-/

namespace QueryCursor

/-! ## One course -/

theorem Source.Closes.unique {σ α : Type} [Source σ α] {source : σ} {clock : Clock}
    {closing closing' : Except Fault Unit} (closes : Closes source clock closing)
    (closes' : Closes source clock closing') : closing = closing' :=
  (closes []).symm.trans (closes' [])

theorem Action.Ends.unique {σ α : Type} {action : Action σ α} {state : σ} {clock : Clock}
    {outcome outcome' : Except Fault α} {after after' : σ} {clock' clock'' : Clock}
    (ends : action.Ends state clock outcome after clock')
    (ends' : action.Ends state clock outcome' after' clock'') :
    outcome = outcome' ∧ after = after' ∧ clock' = clock'' := by
  obtain ⟨_, ran⟩ := ends []
  obtain ⟨_, ran'⟩ := ends' []
  cases ran.symm.trans ran'
  exact ⟨rfl, rfl, rfl⟩

theorem Source.Follows.unique {σ α : Type} [Source σ α] {source : σ} {clock : Clock}
    {course course' : Course α} (follows : Follows source clock course)
    (follows' : Follows source clock course') : course = course' := by
  induction follows generalizing course' with
  | ended closes pulled closed =>
      cases follows' with
      | ended closes' pulled' closed' =>
          obtain ⟨_, rfl, rfl⟩ := pulled.unique pulled'
          rw [closes.unique closes', closed.unique closed']
      | item _ pulled' => cases (pulled.unique pulled').1
      | failure _ pulled' goesOn =>
          cases (pulled.unique pulled').1
          cases goesOn
  | item closes pulled _ ih =>
      cases follows' with
      | ended _ pulled' => cases (pulled.unique pulled').1
      | item closes' pulled' follows' =>
          obtain ⟨⟨⟩, rfl, rfl⟩ := pulled.unique pulled'
          rw [ih follows', closes.unique closes']
      | failure _ pulled' => cases (pulled.unique pulled').1
  | failure closes pulled goesOn _ ih =>
      cases follows' with
      | ended _ pulled' =>
          cases (pulled.unique pulled').1
          cases goesOn
      | item _ pulled' => cases (pulled.unique pulled').1
      | failure closes' pulled' _ follows' =>
          obtain ⟨⟨⟩, rfl, rfl⟩ := pulled.unique pulled'
          rw [ih follows', closes.unique closes']

/-- A property of courses that goes over to what is left of them. -/
structure Course.Hereditary {α : Type} (holds : Course α → Prop) : Prop where
  spent : holds Course.spent
  look : ∀ {course}, holds course → holds course.look.2
  rest : ∀ {closing value rest}, holds (.item closing value rest) → holds rest

theorem Course.hereditary_obeys {α : Type} {items : α → Prop} {failures closings : Fault → Prop} :
    Hereditary (Obeys items failures closings) where
  spent := .spent
  look := Obeys.look
  rest obeys := (obeys_item.mp obeys).2.2

namespace Cursor

variable {σ ρ τ : Type} [Source σ (Option ρ)] {scene : Scene (Cursor σ ρ τ)} {place : Place ρ}
  {course : Course (Option ρ)}

theorem HasCourse.unique {place' : Place ρ} {course' : Course (Option ρ)}
    (hasCourse : HasCourse scene place course) (hasCourse' : HasCourse scene place' course') :
    course = course' := by
  have leaves := hasCourse.leaves
  have leaves' := hasCourse'.leaves
  obtain ⟨⟨_, ⟨source, stage⟩, _⟩, clock, journal⟩ := scene
  cases leaves with
  | exhausted => cases leaves' with | exhausted => rfl
  | empty follows => cases leaves' with | empty follows' => exact follows.unique follows'
  | holding closes follows =>
      cases leaves' with
      | holding closes' follows' =>
          cases Source.Follows.unique follows follows'
          rw [← closes, ← closes']

/-! ## Moves -/

theorem HasCourse.fetch (hasCourse : HasCourse scene place course) :
    HasCourse ((onAhead LookAhead.fetch).run scene).2 place course.look.2 := by
  have looked := hasCourse.hasNext.2
  rw [onAhead_hasNext, Action.run_bind] at looked
  rcases ran : (onAhead LookAhead.fetch).run scene with ⟨fault | _, after⟩
  · rw [ran] at looked
    exact looked
  · rw [ran] at looked
    exact looked

theorem HasCourse.item_of_holding (hasCourse : HasCourse scene place course) {record : Option ρ}
    (held : scene.state.ahead.stage = .holding record) :
    ∃ rest, course = .item rest.closing record rest := by
  have leaves := hasCourse.leaves
  obtain ⟨⟨_, ⟨source, stage⟩, _⟩, clock, journal⟩ := scene
  cases held
  cases leaves with
  | holding closes =>
      subst closes
      exact ⟨_, rfl⟩

/-- A course with the property is before the cursor. -/
def HasCourseWith (holds : Course (Option ρ) → Prop) (scene : Scene (Cursor σ ρ τ)) : Prop :=
  ∃ place course, HasCourse scene place course ∧ holds course

/-- Every move passes on what holds of the course before it, or gives that course up. -/
theorem HasCourseWith.move {holds : Course (Option ρ) → Prop} (hereditary : Course.Hereditary holds)
    (move : Move) (scene : Scene (Cursor σ ρ τ)) (allowed : move.Allowed scene.state)
    (hasCourseWith : HasCourseWith holds scene) :
    HasCourseWith holds (move.action.run scene).2 := by
  obtain ⟨place, course, hasCourse, given⟩ := hasCourseWith
  cases move with
  | look => exact ⟨place, _, hasCourse.fetch, hereditary.look given⟩
  | clear => exact ⟨_, course, hasCourse.move Place.cleared, given⟩
  | discard => exact ⟨place, _, hasCourse.discard.2, hereditary.spent⟩
  | shut =>
      have shut := hasCourse.move fun place => { place with isOpen := false }
      exact ⟨_, course, ⟨shut.place_eq, shut.leaves⟩, given⟩
  | cap records =>
      have moved := hasCourse.move fun place => { place with limit := place.position + records }
      rw [run_cap]
      split
      · exact ⟨_, _, HasCourse.discard moved |>.2, hereditary.spent⟩
      · exact ⟨_, course, moved, given⟩
  | step =>
      obtain ⟨_, record, held⟩ := allowed
      obtain ⟨rest, rfl⟩ := hasCourse.item_of_holding held
      refine ⟨_, _, hasCourse.step.2, ?_⟩
      rw [advanceOf]
      split
      · exact hereditary.spent
      · exact hereditary.rest given

/-- Every operation passes on what holds of the course before it, or gives that course up. -/
theorem HasCourseWith.perform {σ τ : Type} [Source σ (Option Record)]
    {scene : Scene (Cursor σ Record τ)}
    {holds : Course (Option Record) → Prop} (hereditary : Course.Hereditary holds)
    (hasCourseWith : HasCourseWith holds scene) (operation : CursorOperation) :
    HasCourseWith holds ((Cursor.perform operation).run scene).2 :=
  (trail_of_perform operation scene).keeps (HasCourseWith.move hereditary) hasCourseWith

variable {items : Option ρ → Prop} {failures closings : Fault → Prop}

/-- All that is before the cursor is of a kind. -/
def Awaits (items : Option ρ → Prop) (failures closings : Fault → Prop) :
    Scene (Cursor σ ρ τ) → Prop :=
  HasCourseWith (Course.Obeys items failures closings)

namespace Awaits

theorem obeys (awaits : Awaits items failures closings scene)
    (hasCourse : HasCourse scene place course) : Course.Obeys items failures closings course := by
  obtain ⟨place', course', hasCourse', obeys⟩ := awaits
  rw [hasCourse.unique hasCourse']
  exact obeys

theorem move (move : Move) (scene : Scene (Cursor σ ρ τ)) (allowed : move.Allowed scene.state)
    (awaits : Awaits items failures closings scene) :
    Awaits items failures closings (move.action.run scene).2 :=
  HasCourseWith.move Course.hereditary_obeys move scene allowed awaits

theorem perform {σ τ : Type} [Source σ (Option Record)] {items : Option Record → Prop}
    {scene : Scene (Cursor σ Record τ)} (awaits : Awaits items failures closings scene)
    (operation : CursorOperation) :
    Awaits items failures closings ((Cursor.perform operation).run scene).2 :=
  HasCourseWith.perform Course.hereditary_obeys awaits operation

end Awaits

end Cursor

end QueryCursor
