import QueryCursor.Proofs.Advance
import QueryCursor.Proofs.Course

/-!
# Prospects

A cursor is known by the place where it stands and by the course that is still
before it.  What it has looked at in advance does not show in them.  `advanceOf`
says how an advance changes both, and `Cursor.HasCourse.next` that the cursor
advances in this way, whatever it holds.
-/

namespace QueryCursor

namespace Place

variable {ρ : Type}

/-- The place after one more record became current. -/
def onto (place : Place ρ) (record : Option ρ) : Place ρ :=
  { place with current := record, position := place.position + 1 }

/-- The place without a current record. -/
def cleared (place : Place ρ) : Place ρ := { place with current := none }

@[simp] theorem position_onto (place : Place ρ) (record : Option ρ) :
    (place.onto record).position = place.position + 1 := rfl

@[simp] theorem limit_onto (place : Place ρ) (record : Option ρ) :
    (place.onto record).limit = place.limit := rfl

@[simp] theorem current_onto (place : Place ρ) (record : Option ρ) :
    (place.onto record).current = record := rfl

theorem position_ne_of_onto {place after : Place ρ} {record : Option ρ}
    (stepped : after = place.onto record) : after.position ≠ place.position := by
  rw [stepped, position_onto]
  omega

end Place

/-- How an advance ends, where it leads, and what is still to come then.  At the
limit the rest is given up. -/
def advanceOf {ρ : Type} (place : Place ρ) :
    Course (Option ρ) → Except Fault Bool × Place ρ × Course (Option ρ)
  | .ended _ (.ok ()) => (.ok false, place.cleared, Course.spent)
  | .ended _ (.error fault) => (.error fault, place, Course.spent)
  | .failure _ fault rest => (.error fault, place, rest)
  | .item _ record rest =>
      if place.position + 1 = place.limit then
        (rest.closing.map fun _ => true, place.onto record, Course.spent)
      else (.ok true, place.onto record, rest)

namespace Cursor

variable {σ ρ τ α : Type} [Source σ (Option ρ)]

/-- A step makes the record that was taken current, and gives up the rest at the
limit. -/
theorem run_step {scene between : Scene (Cursor σ ρ τ)} {record : Option ρ}
    (taken : (onAhead LookAhead.next).run scene = (.ok record, between)) :
    step.run scene =
      if between.state.position + 1 = between.state.limit then
        discard.run (between.withState
          { between.state with toPlace := between.state.toPlace.onto record })
      else
        (.ok (), between.withState
          { between.state with toPlace := between.state.toPlace.onto record }) := by
  simp only [step, Action.run_bind, taken, run_move, Action.run_present, Scene.state_withState]
  split <;> rfl

theorem run_next_of_holding {scene : Scene (Cursor σ ρ τ)} {record : Option ρ}
    (held : scene.state.ahead.stage = .holding record) :
    (onAhead LookAhead.next).run scene =
      (.ok record, scene.withState
        { scene.state with ahead := { scene.state.ahead with stage := .empty } }) := by
  obtain ⟨⟨place, ⟨source, stage⟩, summary⟩, clock, journal⟩ := scene
  cases held
  rfl

/-- The scene after a record that was held became current. -/
def stepped (scene : Scene (Cursor σ ρ τ)) (record : Option ρ) : Scene (Cursor σ ρ τ) :=
  scene.withState
    { scene.state with
      toPlace := scene.state.toPlace.onto record
      ahead := { scene.state.ahead with stage := .empty } }

theorem run_step_of_holding {scene : Scene (Cursor σ ρ τ)} {record : Option ρ}
    (held : scene.state.ahead.stage = .holding record) :
    step.run scene =
      if scene.state.position + 1 = scene.state.limit then discard.run (stepped scene record)
      else (.ok (), stepped scene record) :=
  run_step (run_next_of_holding held)

theorem toPlace_of_next_false {scene after : Scene (Cursor σ ρ τ)}
    (ended : next.run scene = (.ok false, after)) :
    after.state.toPlace = scene.state.toPlace.cleared := by
  obtain ⟨_, between, looked, rfl⟩ := hasNext_of_next ended
  show between.state.toPlace.cleared = _
  rw [toPlace_of_hasNext looked]

theorem toPlace_of_next_true {scene after : Scene (Cursor σ ρ τ)}
    (moved : next.run scene = (.ok true, after)) :
    ∃ record, after.state.toPlace = scene.state.toPlace.onto record := by
  obtain ⟨_, between, looked, stepped⟩ := hasNext_of_next moved
  obtain ⟨record, held⟩ := stage_of_hasNext looked
  refine ⟨record, ?_⟩
  rw [← toPlace_of_hasNext looked]
  simp only [if_true, run_step_of_holding held] at stepped
  split at stepped
  · have same := toPlace_of_discard (Cursor.stepped between record)
    rw [stepped] at same
    exact same
  · cases stepped
    rfl

/-- The cursor stands at a place, and a course is still before it. -/
structure HasCourse (scene : Scene (Cursor σ ρ τ)) (place : Place ρ) (course : Course (Option ρ)) :
    Prop where
  place_eq : scene.state.toPlace = place
  leaves : LookAhead.Leaves (scene.withState scene.state.ahead) course

namespace HasCourse

variable {scene : Scene (Cursor σ ρ τ)} {place : Place ρ} {course : Course (Option ρ)}

theorem ofSource {keys : List Value} {source : σ} {summary : σ → τ} {clock : Clock}
    (journal : List Message) (follows : Source.Follows source clock course) :
    HasCourse ⟨Cursor.ofSource keys source summary, clock, journal⟩ { keys } course :=
  ⟨rfl, .empty follows⟩

theorem isOpen_eq (hasCourse : HasCourse scene place course) : scene.state.isOpen = place.isOpen :=
  congrArg Place.isOpen hasCourse.place_eq

theorem move (hasCourse : HasCourse scene place course) (step : Place ρ → Place ρ) :
    HasCourse ((Cursor.move step).run scene).2 (step place) course := by
  refine ⟨?_, hasCourse.leaves⟩
  rw [← hasCourse.place_eq]
  rfl

theorem hasNext (hasCourse : HasCourse scene place course) :
    ((onAhead LookAhead.hasNext).run scene).1 = course.look.1 ∧
      HasCourse ((onAhead LookAhead.hasNext).run scene).2 place course.look.2 := by
  obtain ⟨answer, leaves⟩ := LookAhead.hasNext_of_leaves hasCourse.leaves
  exact ⟨answer, hasCourse.place_eq, leaves⟩

theorem aheadPeek (hasCourse : HasCourse scene place course) :
    ((onAhead LookAhead.peek).run scene).1 = course.take.1 ∧
      HasCourse ((onAhead LookAhead.peek).run scene).2 place course.look.2 := by
  obtain ⟨answer, leaves⟩ := LookAhead.peek_of_leaves hasCourse.leaves
  exact ⟨answer, hasCourse.place_eq, leaves⟩

theorem take (hasCourse : HasCourse scene place course) :
    ((onAhead LookAhead.next).run scene).1 = course.take.1 ∧
      HasCourse ((onAhead LookAhead.next).run scene).2 place course.take.2 := by
  obtain ⟨answer, leaves⟩ := LookAhead.next_of_leaves hasCourse.leaves
  exact ⟨answer, hasCourse.place_eq, leaves⟩

theorem discard (hasCourse : HasCourse scene place course) :
    (Cursor.discard.run scene).1 = course.closing ∧
      HasCourse (Cursor.discard.run scene).2 place Course.spent := by
  obtain ⟨journal, ran⟩ := run_discard scene
  have leaves : LookAhead.Leaves ⟨scene.state.ahead, scene.clock, journal⟩ course :=
    hasCourse.leaves
  constructor
  · rw [ran]
    exact LookAhead.discard_of_leaves leaves
  · refine ⟨?_, LookAhead.leaves_of_exhausted (exhausted_of_run_discard scene)⟩
    rw [toPlace_of_discard]
    exact hasCourse.place_eq

theorem atEnd (hasCourse : HasCourse scene place course) (isOpen : place.isOpen = true) :
    (Cursor.atEnd.run scene).1 = course.look.1.map (!·) ∧
      HasCourse (Cursor.atEnd.run scene).2 place course.look.2 := by
  obtain ⟨answer, after⟩ := hasCourse.hasNext
  rw [Cursor.atEnd, run_requireOpen_of_open (hasCourse.isOpen_eq.trans isOpen), Action.run_bind]
  rcases ran : (onAhead LookAhead.hasNext).run scene with ⟨fault | more, last⟩
  · rw [ran] at answer after
    rw [← answer]
    exact ⟨rfl, after⟩
  · rw [ran] at answer after
    rw [← answer]
    exact ⟨rfl, after⟩

/-- The end shows as an absent record to one who looks at the next one. -/
theorem peek (hasCourse : HasCourse scene place course) (isOpen : place.isOpen = true) :
    (Cursor.peek.run scene).1 = course.peeked ∧
      HasCourse (Cursor.peek.run scene).2 place course.look.2 := by
  obtain ⟨answer, after⟩ := hasCourse.aheadPeek
  rw [Cursor.peek, run_requireOpen_of_open (hasCourse.isOpen_eq.trans isOpen)]
  simp only [Action.recover]
  rcases ran : (onAhead LookAhead.peek).run scene with ⟨fault | record, last⟩
  · rw [ran] at answer after
    rw [Course.peeked, ← answer]
    exact ⟨rfl, after⟩
  · rw [ran] at answer after
    rw [Course.peeked, ← answer]
    exact ⟨rfl, after⟩

theorem step {closing : Except Fault Unit} {record : Option ρ} {rest : Course (Option ρ)}
    (hasCourse : HasCourse scene place (.item closing record rest)) :
    (Cursor.step.run scene).1.map (fun _ => true) =
        (advanceOf place (.item closing record rest)).1 ∧
      HasCourse (Cursor.step.run scene).2 (advanceOf place (.item closing record rest)).2.1
        (advanceOf place (.item closing record rest)).2.2 := by
  obtain ⟨taken, after⟩ := hasCourse.take
  rcases ran : (onAhead LookAhead.next).run scene with ⟨outcome, between⟩
  rw [ran] at taken after
  simp only [Course.take] at taken after
  subst taken
  have moved := after.move fun place => place.onto record
  have position : between.state.position = place.position :=
    congrArg Place.position after.place_eq
  have limit : between.state.limit = place.limit := congrArg Place.limit after.place_eq
  rw [run_step ran, advanceOf, position, limit]
  by_cases atLimit : place.position + 1 = place.limit
  · rw [if_pos atLimit, if_pos atLimit]
    obtain ⟨closed, after⟩ := moved.discard
    exact ⟨congrArg _ closed, after⟩
  · rw [if_neg atLimit, if_neg atLimit]
    exact ⟨rfl, moved⟩

theorem next (hasCourse : HasCourse scene place course) (isOpen : place.isOpen = true) :
    (Cursor.next.run scene).1 = (advanceOf place course).1 ∧
      HasCourse (Cursor.next.run scene).2 (advanceOf place course).2.1
        (advanceOf place course).2.2 := by
  rw [run_next_of_open (hasCourse.isOpen_eq.trans isOpen)]
  obtain ⟨looked, after⟩ := hasCourse.hasNext
  rcases ran : (onAhead LookAhead.hasNext).run scene with ⟨outcome, between⟩
  rw [ran] at looked after
  cases course with
  | item closing record rest =>
      cases looked
      exact after.step
  | failure closing fault rest =>
      cases looked
      exact ⟨rfl, after⟩
  | ended closing last =>
      cases last with
      | error fault =>
          cases looked
          exact ⟨rfl, after⟩
      | ok =>
          cases looked
          exact ⟨rfl, after.move Place.cleared⟩

end HasCourse

end Cursor

end QueryCursor
