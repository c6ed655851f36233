import QueryCursor.Proofs.Counterparts
import QueryCursor.Proofs.Course.Script
import QueryCursor.Proofs.Prospect
import QueryCursor.Proofs.Wrapping

/-!
# Interchangeable sources

Whether the items of a script are handed over directly or awaited does not show in what
looks ahead into it.  Nor does it show whether a source is looked into directly, or through
a look-ahead or a cursor over it, as long as it is released without a failure.
-/

namespace QueryCursor

/-! ## Scripts in either mode -/

namespace Script

variable {α : Type}

/-- The same script, played in the given mode. -/
def inMode (mode : Mode) (script : Script α) : Script α := { script with mode }

/-- No failure of the script is a stop signal. -/
def GoesOn (script : Script α) : Prop := ∀ fault, .failure fault ∈ script.pending → fault.isStop = false

theorem leaving_of_goesOn {fault : Fault} (goesOn : fault.isStop = false) (form : Form)
    (mode : Mode) : form.leaving mode fault = fault := by
  cases fault with
  | stop => cases goesOn
  | _ => rfl

theorem isStop_endOf (mode : Mode) : (endOf mode).isStop = true := by
  cases mode <;> rfl

theorem drop_inMode (mode : Mode) (script : Script α) :
    (script.inMode mode).drop = (script.drop.1, script.drop.2.inMode mode) := by
  obtain ⟨_, form, pending, produced, finished, releases⟩ := script
  cases form <;> rfl

/-- The second script is the first one in the given mode. -/
def InMode (mode : Mode) (left right : Scene (Script α)) : Prop :=
  left.state.GoesOn ∧ right = left.withState (left.state.inMode mode)

/-- A script is played alike in every mode, but for the signal of its end. -/
theorem pull_inMode {mode : Mode} {left right : Scene (Script α)} (inMode : InMode mode left right) :
    Source.PulledAlike (InMode mode) (InMode mode) (Source.pull.run left) (Source.pull.run right) := by
  obtain ⟨goesOn, rfl⟩ := inMode
  obtain ⟨script, clock, journal⟩ := left
  obtain ⟨_, form, pending, produced, finished, releases⟩ := script
  cases finished with
  | true => exact .stop (isStop_endOf _) (isStop_endOf _) ⟨goesOn, rfl⟩
  | false =>
      cases pending with
      | nil => exact .stop (isStop_endOf _) (isStop_endOf _) ⟨goesOn, rfl⟩
      | cons event rest =>
          have others : ∀ fault, .failure fault ∈ rest → fault.isStop = false :=
            fun fault member => goesOn fault (.tail _ member)
          cases event with
          | item value => exact .item value ⟨others, rfl⟩
          | finish => exact .stop (isStop_endOf _) (isStop_endOf _) ⟨others, rfl⟩
          | failure fault =>
              have plain := goesOn fault (.head _)
              show Source.PulledAlike _ _ (.error (form.leaving _ fault), _)
                (.error (form.leaving mode fault), _)
              rw [leaving_of_goesOn plain, leaving_of_goesOn plain]
              exact .failure plain ⟨others, rfl⟩

/-- Scripts in the one mode and in the other are counterparts. -/
theorem counterparts_inMode (mode : Mode) :
    Source.Counterparts (InMode (α := α) mode) (InMode mode) (InMode mode) where
  pull := pull_inMode
  release {left right} alike := by
    obtain ⟨goesOn, rfl⟩ : InMode mode left right := alike.elim id id
    have dropped := drop_inMode mode left.state
    have pending : left.state.drop.2.pending = left.state.pending := by
      rw [drop]
      cases left.state.form <;> rfl
    show Agree Eq left.state.drop.1 (left.state.inMode mode).drop.1 ∧
      InMode mode (left.withState left.state.drop.2)
        (left.withState (left.state.inMode mode).drop.2)
    rw [dropped]
    refine ⟨.of_eq rfl, ?_, rfl⟩
    rw [GoesOn, Scene.state_withState, pending]
    exact goesOn
  note {left right} message := by
    have noted (inMode : InMode mode left right) :
        InMode mode (left.noting message) (right.noting message) := by
      obtain ⟨goesOn, rfl⟩ := inMode
      exact ⟨goesOn, rfl⟩
    exact ⟨noted, noted⟩

end Script

/-! ## Sources with a course -/

section Courses

variable {σ σ' α : Type}

/-- How a source with a course before it is asked for an item. -/
inductive Course.Played [Source σ α] (hasCourse : Scene σ → Course α → Prop) :
    Course α → Except Fault α × Scene σ → Prop where
  | ended {closing last : Except Fault Unit} {after : Scene σ} {fault : Fault} :
      fault.isStop = true → (Source.release.run after).1 = .ok () →
      Played hasCourse (.ended closing last) (.error fault, after)
  | item {closing : Except Fault Unit} {value : α} {rest : Course α} {after : Scene σ} :
      hasCourse after rest → Played hasCourse (.item closing value rest) (.ok value, after)
  | failure {closing : Except Fault Unit} {fault : Fault} {rest : Course α} {after : Scene σ} :
      fault.isStop = false → hasCourse after rest →
      Played hasCourse (.failure closing fault rest) (.error fault, after)

/-- Whatever course is before the source it plays, and it is released without a failure. -/
structure Source.Plays [Source σ α] (hasCourse : Scene σ → Course α → Prop) : Prop where
  pull : ∀ {scene course}, hasCourse scene course →
    Course.Played hasCourse course (Source.pull.run scene)
  release : ∀ {scene course}, hasCourse scene course → (Source.release.run scene).1 = .ok ()
  note : ∀ {scene course} message, hasCourse scene course → hasCourse (scene.noting message) course

variable [Source σ α] [Source σ' α] {hasCourse : Scene σ → Course α → Prop}
  {hasCourse' : Scene σ' → Course α → Prop}

/-- Sources that play the same course are counterparts. -/
theorem Source.Plays.counterparts (plays : Source.Plays hasCourse)
    (plays' : Source.Plays hasCourse') :
    Source.Counterparts (fun left right => ∃ course,
      hasCourse left course ∧ hasCourse' right course)
      (fun left right => (Source.release.run left).1 = .ok () ∧
        (Source.release.run right).1 = .ok ())
      fun _ _ => True where
  pull {left right} alike := by
    obtain ⟨course, before, before'⟩ := alike
    have played := plays.pull before
    have played' := plays'.pull before'
    generalize Source.pull.run left = ran at played
    generalize Source.pull.run right = ran' at played'
    cases played with
    | ended stop closed =>
        cases played' with
        | ended stop' closed' => exact .stop stop stop' ⟨closed, closed'⟩
    | item after =>
        cases played' with
        | item after' => exact .item _ ⟨_, after, after'⟩
    | failure goesOn after =>
        cases played' with
        | failure _ after' => exact .failure goesOn ⟨_, after, after'⟩
  release {left right} alike := by
    have closed : (Source.release.run left).1 = .ok () ∧ (Source.release.run right).1 = .ok () := by
      rcases alike with ⟨course, before, before'⟩ | closed
      · exact ⟨plays.release before, plays'.release before'⟩
      · exact closed
    exact ⟨.of_eq (closed.1.trans closed.2.symm), trivial⟩
  note {left right} message := by
    refine ⟨?_, fun _ => trivial⟩
    rintro ⟨course, before, before'⟩
    exact ⟨course, plays.note message before, plays'.note message before'⟩

/-- No release along the course fails. -/
abbrev Course.Releasable (course : Course α) : Prop :=
  course.Obeys (fun _ => True) (fun _ => True) fun _ => False

omit [Source σ α] [Source σ' α] in
theorem Course.closing_of_releasable {course : Course α} (releasable : course.Releasable) :
    course.closing = .ok () := by
  cases closing : course.closing with
  | ok => rfl
  | error fault => exact (releasable.ofClosing closing).elim

omit [Source σ α] [Source σ' α] in
theorem Course.last_of_releasable {closing last : Except Fault Unit}
    (releasable : (ended closing last : Course α).Releasable) : last = .ok () := by
  cases last with
  | ok => rfl
  | error fault => exact ((obeys_ended.mp releasable).2 fault rfl).elim

omit [Source σ' α] in
/-- A source plays the course that it follows. -/
theorem Source.follows_plays : Source.Plays fun (scene : Scene σ) (course : Course α) =>
    Source.Follows scene.state scene.clock course ∧ course.Releasable where
  pull {scene course} before := by
    obtain ⟨follows, releasable⟩ := before
    obtain ⟨source, clock, journal⟩ := scene
    cases follows with
    | ended _ pulled closed =>
        obtain ⟨journal', pulled⟩ := pulled journal
        rw [pulled]
        exact .ended rfl ((closed journal').trans (Course.last_of_releasable releasable))
    | item _ pulled follows =>
        obtain ⟨journal', pulled⟩ := pulled journal
        rw [pulled]
        exact .item ⟨follows, (Course.obeys_item.mp releasable).2.2⟩
    | failure _ pulled goesOn follows =>
        obtain ⟨journal', pulled⟩ := pulled journal
        rw [pulled]
        exact .failure goesOn ⟨follows, (Course.obeys_failure.mp releasable).2.2⟩
  release {scene course} before :=
    (before.1.closes scene.journal).trans (Course.closing_of_releasable before.2)
  note _ before := before

omit [Source σ' α] in
/-- A look-ahead plays the course that it expects. -/
theorem LookAhead.leaves_plays : Source.Plays fun (scene : Scene (LookAhead σ α)) course =>
    LookAhead.Leaves scene course ∧ course.Releasable where
  pull {scene course} before := by
    obtain ⟨leaves, releasable⟩ := before
    obtain ⟨answer, after⟩ := LookAhead.next_of_leaves leaves
    show Course.Played _ _ (LookAhead.next.run scene)
    rcases ran : LookAhead.next.run scene with ⟨outcome, last⟩
    rw [ran] at answer after
    cases course with
    | item closing value rest =>
        cases answer
        exact .item ⟨after, (Course.obeys_item.mp releasable).2.2⟩
    | failure closing fault rest =>
        cases answer
        have goesOn := LookAhead.isStop_of_leaves leaves (.head _)
        exact .failure goesOn ⟨after, (Course.obeys_failure.mp releasable).2.2⟩
    | ended closing last =>
        have closed : last = .ok () := Course.last_of_releasable releasable
        subst closed
        cases answer
        exact .ended rfl rfl
  release _ := rfl
  note _ before := before

end Courses

namespace Cursor

variable {σ ρ τ : Type} [Source σ (Option ρ)]

/-- The cursor is open without a limit, and nothing before it fails to be released. -/
def Unbounded (scene : Scene (Cursor σ ρ τ)) (course : Course (Option ρ)) : Prop :=
  ∃ place, HasCourse scene place course ∧ place.isOpen = true ∧ place.limit = -1 ∧
    -1 ≤ place.position ∧ course.Releasable

/-- A cursor without a limit plays the course before it. -/
theorem unbounded_plays : Source.Plays (Unbounded (σ := σ) (ρ := ρ) (τ := τ)) where
  pull {scene course} before := by
    obtain ⟨place, hasCourse, isOpen, noLimit, start_le, releasable⟩ := before
    obtain ⟨answer, after⟩ := hasCourse.next isOpen
    show Course.Played _ _ (advance.run scene)
    rw [advance, Action.run_bind]
    rcases ran : Cursor.next.run scene with ⟨outcome, last⟩
    rw [ran] at answer after
    cases course with
    | item closing record rest =>
        have beyond : ¬place.position + 1 = place.limit := by omega
        simp only [advanceOf, if_neg beyond] at answer after
        cases answer
        have current : last.state.current = record := congrArg Place.current after.place_eq
        simp only [if_true, Action.run_bind, Action.run_present, Action.run_pure, current]
        have further : -1 ≤ (place.onto record).position := by
          rw [Place.position_onto]
          omega
        exact .item ⟨_, after, isOpen, noLimit, further, (Course.obeys_item.mp releasable).2.2⟩
    | failure closing fault rest =>
        cases answer
        have goesOn := LookAhead.isStop_of_leaves hasCourse.leaves (.head _)
        exact .failure goesOn
          ⟨place, after, isOpen, noLimit, start_le, (Course.obeys_failure.mp releasable).2.2⟩
    | ended closing last =>
        have closed : last = .ok () := Course.last_of_releasable releasable
        subst closed
        cases answer
        exact .ended rfl rfl
  release _ := rfl
  note _ before := by
    obtain ⟨place, hasCourse, unbounded⟩ := before
    exact ⟨place, ⟨hasCourse.place_eq, hasCourse.leaves⟩, unbounded⟩

end Cursor

/-! ## What is seen -/

namespace LookAhead

variable {σ σ' α β : Type}

/-- A new look-ahead over a source. -/
def atop (scene : Scene σ) : Scene (LookAhead σ α) := scene.withState { source := scene.state }

/-- What is seen of an operation: its outcome, and what the look-ahead has of its source
then. -/
def observe (performed : Except Fault β × Scene (LookAhead σ α)) : Except Fault β × Stage α :=
  (performed.1, performed.2.state.stage)

/-- Look-aheads over the two sources are seen to run the same. -/
def SeenAlike [Source σ α] [Source σ' α] (left : Scene σ) (right : Scene σ') : Prop :=
  ∀ operations : List LookAheadOperation,
    (Action.runAll (operations.map perform) (atop left)).map observe =
      (Action.runAll (operations.map perform) (atop right)).map observe

theorem SeenAlike.of_counterparts [Source σ α] [Source σ' α]
    {held ended released : Scene σ → Scene σ' → Prop}
    (counterparts : Source.Counterparts held ended released) {left : Scene σ} {right : Scene σ'}
    (alike : held left right) : SeenAlike left right := by
  intro operations
  have together : Together held released (atop (α := α) left) (atop right) := .ofHeld alike nofun
  apply Action.runAll_eq ?_ together
  intro operation _ left right together
  obtain ⟨agree, after⟩ := Together.perform counterparts operation left right together
  exact ⟨Prod.ext agree.eq after.stage_eq, after⟩

/-- Giving up the rest leaves every source of the kind as it is. -/
def Retains (σ α : Type) [Source σ α] : Prop :=
  ∀ scene : Scene (LookAhead σ α), (discard.run scene).2.state.source = scene.state.source

/-- Nothing happens to a source that has nothing to release. -/
theorem retains [Source σ α] (nothing : ∀ scene : Scene σ, (Source.release.run scene).2 = scene) :
    Retains σ α := by
  rintro ⟨⟨source, stage⟩, clock, journal⟩
  cases stage with
  | exhausted => rfl
  | _ =>
      rw [run_discard clock journal rfl]
      simp only [Scene.withState, nothing]

end LookAhead

namespace Cursor

variable {σ σ' ρ τ υ : Type}

/-- A new cursor over a source. -/
def atop (keys : List Value) (summary : σ → τ) (scene : Scene σ) : Scene (Cursor σ ρ τ) :=
  scene.withState (ofSource keys scene.state summary)

/-- What is seen of an operation: its outcome, where it leaves the cursor, and what the
cursor has of its source then. -/
def observeAhead (view : τ → υ)
    (performed : Except Fault (CursorAnswer τ) × Scene (Cursor σ Record τ)) :
    (Except Fault (CursorAnswer υ) × Place Record) × Stage (Option Record) :=
  (observe view performed, performed.2.state.ahead.stage)

/-- Cursors over the two sources that are given the same summary are seen to run the same. -/
def SeenAlike [Source σ (Option Record)] [Source σ' (Option Record)] (left : Scene σ)
    (right : Scene σ') : Prop :=
  ∀ (τ : Type) (keys : List Value) (given : τ) (operations : List CursorOperation),
    (Action.runAll (operations.map perform) (atop keys (fun _ => given) left)).map
        (observeAhead id) =
      (Action.runAll (operations.map perform) (atop keys (fun _ => given) right)).map
        (observeAhead id)

theorem SeenAlike.of_counterparts [Source σ (Option Record)] [Source σ' (Option Record)]
    {held ended released : Scene σ → Scene σ' → Prop}
    (counterparts : Source.Counterparts held ended released) {left : Scene σ} {right : Scene σ'}
    (alike : held left right) : SeenAlike left right := by
  intro τ keys given operations
  have matched : Matched held released (fun _ => given) (fun _ => given)
      (atop (ρ := Record) keys (fun _ => given) left) (atop keys (fun _ => given) right) :=
    ⟨rfl, .ofHeld alike nofun, rfl, rfl⟩
  apply Action.runAll_eq ?_ matched
  intro operation _ left right matched
  have shows : ∀ left right, Matched (ρ := Record) held released (fun _ => given) (fun _ => given)
      left right → id left.state.summaryNow = id right.state.summaryNow := by
    intro left right matched
    simp only [summaryNow, matched.summary_eq, matched.summary_eq']
  obtain ⟨same, after⟩ := matched.perform counterparts shows operation
  exact ⟨Prod.ext same after.ahead.stage_eq, after⟩

/-- Giving up the rest leaves every source of the kind as it is. -/
def Retains (σ ρ τ : Type) [Source σ (Option ρ)] : Prop :=
  ∀ scene : Scene (Cursor σ ρ τ), (discard.run scene).2.state.ahead.source = scene.state.ahead.source

theorem retains [Source σ (Option ρ)]
    (nothing : ∀ scene : Scene σ, (Source.release.run scene).2 = scene) : Retains σ ρ τ := by
  intro scene
  obtain ⟨journal, ran⟩ := run_discard scene
  rw [ran]
  exact LookAhead.retains nothing _

end Cursor

/-! ## Modes -/

section Modes

variable {α τ : Type} {mode : Mode}

/-- The same scene with the script in the given mode. -/
def Script.inModeAt (mode : Mode) (scene : Scene (Script α)) : Scene (Script α) :=
  scene.withState (scene.state.inMode mode)

/-- The same outcome of an operation of a look-ahead, over the script in the given mode. -/
def LookAhead.inMode {β : Type} (mode : Mode)
    (performed : Except Fault β × Scene (LookAhead (Script α) α)) :
    Except Fault β × Scene (LookAhead (Script α) α) :=
  (performed.1, performed.2.withState (performed.2.state.unwrap (Script.inMode mode)))

/-- The same outcome of an operation of a cursor, over the script in the given mode. -/
def Cursor.inMode {ρ β : Type} (mode : Mode) (summary : Script (Option ρ) → τ)
    (performed : Except Fault β × Scene (Cursor (Script (Option ρ)) ρ τ)) :
    Except Fault β × Scene (Cursor (Script (Option ρ)) ρ τ) :=
  (performed.1, performed.2.withState (performed.2.state.unwrap (Script.inMode mode) summary))

/-- Look-aheads over a script in both modes have the same but for the mode. -/
theorem LookAhead.Together.inMode_eq {left right : Scene (LookAhead (Script α) α)}
    (together : Together (Script.InMode mode) (Script.InMode mode) left right) :
    right = left.withState (left.state.unwrap (Script.inMode mode)) := by
  obtain ⟨sameStage, isHeld, isReleased⟩ := together
  have inMode : Script.InMode mode (left.withState left.state.source)
      (right.withState right.state.source) := by
    by_cases exhausted : left.state.stage = .exhausted
    · exact isReleased exhausted
    · exact isHeld exhausted
  obtain ⟨⟨source, stage⟩, clock, journal⟩ := left
  obtain ⟨⟨source', stage'⟩, clock', journal'⟩ := right
  obtain ⟨_, same⟩ := inMode
  cases sameStage
  cases same
  rfl

theorem LookAhead.runAll_inMode (scene : Scene (Script α)) (goesOn : scene.state.GoesOn)
    (operations : List LookAheadOperation) :
    Action.runAll (operations.map perform) (atop (Script.inModeAt mode scene)) =
      (Action.runAll (operations.map perform) (atop scene)).map (LookAhead.inMode mode) := by
  have counterparts := Script.counterparts_inMode (α := α) mode
  have together : Together (α := α) (Script.InMode mode) (Script.InMode mode) (atop scene)
      (atop (Script.inModeAt mode scene)) := .ofHeld ⟨goesOn, rfl⟩ nofun
  rw [← List.map_id (Action.runAll _ (atop (Script.inModeAt mode scene)))]
  refine (Action.runAll_eq ?_ together).symm
  intro operation _ left right together
  obtain ⟨agree, after⟩ := Together.perform counterparts operation left right together
  exact ⟨Prod.ext agree.eq after.inMode_eq.symm, after⟩

theorem CursorAnswer.map_id (outcome : Except Fault (CursorAnswer τ)) :
    outcome.map (CursorAnswer.map id) = outcome := by
  rcases outcome with fault | answer | final <;> rfl

/-- Cursors over a script in both modes have the same but for the mode. -/
theorem Cursor.Matched.inMode_eq {ρ : Type} {summary summary' : Script (Option ρ) → τ}
    {left right : Scene (Cursor (Script (Option ρ)) ρ τ)}
    (matched : Matched (Script.InMode mode) (Script.InMode mode) summary summary' left right) :
    right = left.withState (left.state.unwrap (Script.inMode mode) summary') := by
  obtain ⟨samePlace, ahead, _, given⟩ := matched
  have same := ahead.inMode_eq
  obtain ⟨⟨place, source, _⟩, clock, journal⟩ := left
  obtain ⟨⟨place', source', _⟩, clock', journal'⟩ := right
  cases samePlace
  cases given
  cases same
  rfl

theorem Cursor.runAll_inMode (scene : Scene (Script (Option Record)))
    (goesOn : scene.state.GoesOn) (keys : List Value) (summary : Script (Option Record) → τ)
    (operations : List CursorOperation) :
    Action.runAll (operations.map perform) (atop keys summary (Script.inModeAt mode scene)) =
      (Action.runAll (operations.map perform)
        (atop keys (fun script => summary (script.inMode mode)) scene)).map
          (Cursor.inMode mode summary) := by
  have counterparts := Script.counterparts_inMode (α := Option Record) mode
  let atMode (script : Script (Option Record)) : τ := summary (script.inMode mode)
  have matched : Matched (ρ := Record) (Script.InMode mode) (Script.InMode mode) atMode summary
      (atop keys atMode scene) (atop keys summary (Script.inModeAt mode scene)) :=
    ⟨rfl, .ofHeld ⟨goesOn, rfl⟩ nofun, rfl, rfl⟩
  have shows : ∀ left right, Matched (ρ := Record) (Script.InMode mode) (Script.InMode mode) atMode
      summary left right → id left.state.summaryNow = id right.state.summaryNow := by
    intro left right matched
    rw [matched.inMode_eq, summaryNow, matched.summary_eq]
    rfl
  rw [← List.map_id (Action.runAll _ (atop keys summary (Script.inModeAt mode scene)))]
  refine (Action.runAll_eq ?_ matched).symm
  intro operation _ left right matched
  obtain ⟨same, after⟩ := matched.perform counterparts shows operation
  have sameOutcome := congrArg Prod.fst same
  simp only [observe, CursorAnswer.map_id] at sameOutcome
  exact ⟨Prod.ext sameOutcome after.inMode_eq.symm, after⟩

end Modes

/-! ## Nesting -/

section Nesting

variable {σ ρ τ α : Type}

/-- A look-ahead over a source is taken for the source. -/
theorem alike_under_lookAhead [Source σ α] {scene : Scene σ} {course : Course α}
    (follows : Source.Follows scene.state scene.clock course) (releasable : course.Releasable) :
    ∃ course : Course α, (Source.Follows scene.state scene.clock course ∧ course.Releasable) ∧
      LookAhead.Leaves (LookAhead.atop scene) course ∧ course.Releasable :=
  ⟨course, ⟨follows, releasable⟩, .empty follows, releasable⟩

/-- A cursor over a source is taken for the source. -/
theorem alike_under_cursor [Source σ (Option ρ)] {scene : Scene σ} {course : Course (Option ρ)}
    (follows : Source.Follows scene.state scene.clock course) (releasable : course.Releasable)
    (keys : List Value) (summary : σ → τ) :
    ∃ course : Course (Option ρ),
      (Source.Follows scene.state scene.clock course ∧ course.Releasable) ∧
        Cursor.Unbounded (Cursor.atop keys summary scene) course :=
  ⟨course, ⟨follows, releasable⟩, { keys }, ⟨rfl, .empty follows⟩, rfl, rfl, Int.le_refl _,
    releasable⟩

end Nesting

theorem Script.releasable_course {α : Type} {script : Script α}
    (released : script.drop.1 = .ok ()) :
    script.course.Releasable := by
  have releasable (form : Form) (mode : Mode) (pending : List (Event α)) :
      (courseOf form mode (.ok ()) pending).Releasable := by
    induction pending with
    | nil => exact .spent
    | cons event rest ih =>
        cases event with
        | item value => exact Course.obeys_item.mpr ⟨nofun, trivial, ih⟩
        | finish => exact .spent
        | failure fault =>
            refine Course.obeys_failure.mpr ⟨nofun, trivial, ?_⟩
            split
            · exact .spent
            · exact ih
  rw [course, released]
  split
  · exact .spent
  · exact releasable _ _ _

theorem Script.GoesOn.follows {α : Type} {script : Script α} (goesOn : script.GoesOn)
    (clock : Clock) : Source.Follows script clock script.course := by
  apply follows_course
  intro fault member
  rw [leaving_of_goesOn (goesOn fault member)]
  exact goesOn fault member

/-- The kind of a source does not show.  A script runs the same in either mode, and if it is
released without a failure it is seen to run the same under another look-ahead or cursor.
That one does not notice when the outer one gives up the rest, and the script is not
released then. -/
theorem kind_of_source_does_not_show (mode : Mode) :
    (∀ {α : Type} (scene : Scene (Script α)), scene.state.GoesOn →
      (∀ operations : List LookAheadOperation,
        Action.runAll (operations.map LookAhead.perform)
            (LookAhead.atop (Script.inModeAt mode scene)) =
          (Action.runAll (operations.map LookAhead.perform) (LookAhead.atop scene)).map
            (LookAhead.inMode mode)) ∧
      (scene.state.drop.1 = .ok () →
        LookAhead.SeenAlike (α := α) scene (LookAhead.atop (α := α) scene)) ∧
      LookAhead.Retains (LookAhead (Script α) α) α) ∧
    (∀ {ρ τ : Type} (scene : Scene (Script (Option ρ))) (keys : List Value)
        (summary : Script (Option ρ) → τ), scene.state.GoesOn →
      (scene.state.drop.1 = .ok () →
        LookAhead.SeenAlike scene (Cursor.atop (ρ := ρ) keys summary scene)) ∧
      LookAhead.Retains (Cursor (Script (Option ρ)) ρ τ) (Option ρ)) ∧
    (∀ {τ υ : Type} (scene : Scene (Script (Option Record))) (keys : List Value)
        (summary : Script (Option Record) → τ), scene.state.GoesOn →
      (∀ operations : List CursorOperation,
        Action.runAll (operations.map Cursor.perform)
            (Cursor.atop keys summary (Script.inModeAt mode scene)) =
          (Action.runAll (operations.map Cursor.perform)
            (Cursor.atop keys (fun script => summary (script.inMode mode)) scene)).map
              (Cursor.inMode mode summary)) ∧
      (scene.state.drop.1 = .ok () →
        Cursor.SeenAlike scene (LookAhead.atop (α := Option Record) scene) ∧
        Cursor.SeenAlike scene (Cursor.atop (ρ := Record) keys summary scene)) ∧
      Cursor.Retains (LookAhead (Script (Option Record)) (Option Record)) Record υ ∧
      Cursor.Retains (Cursor (Script (Option Record)) Record τ) Record υ) := by
  refine ⟨?_, ?_, ?_⟩
  · intro α scene goesOn
    refine ⟨LookAhead.runAll_inMode scene goesOn, ?_, LookAhead.retains fun _ => rfl⟩
    intro released
    exact .of_counterparts (Source.follows_plays.counterparts LookAhead.leaves_plays)
      (alike_under_lookAhead (goesOn.follows scene.clock) (Script.releasable_course released))
  · intro ρ τ scene keys summary goesOn
    refine ⟨?_, LookAhead.retains fun _ => rfl⟩
    intro released
    exact .of_counterparts (Source.follows_plays.counterparts Cursor.unbounded_plays)
      (alike_under_cursor (goesOn.follows scene.clock) (Script.releasable_course released) keys
        summary)
  · intro τ υ scene keys summary goesOn
    refine ⟨Cursor.runAll_inMode scene goesOn keys summary, ?_, Cursor.retains fun _ => rfl,
      Cursor.retains fun _ => rfl⟩
    intro released
    have follows := goesOn.follows scene.clock
    have releasable := Script.releasable_course released
    constructor
    · exact .of_counterparts (Source.follows_plays.counterparts LookAhead.leaves_plays)
        (alike_under_lookAhead follows releasable)
    · exact .of_counterparts (Source.follows_plays.counterparts Cursor.unbounded_plays)
        (alike_under_cursor follows releasable keys summary)

/-- A new awaited iterator that fails between two records and is released without failing. -/
def overStumbling : Scene (Script (Option Record)) :=
  ⟨{ Script.faltering with form := .iterator none }, {}, []⟩

theorem kind_of_stumbling_does_not_show :
    (∀ operations : List CursorOperation,
      Action.runAll (operations.map Cursor.perform)
          (Cursor.atop [] (fun _ => ()) (Script.inModeAt .plain overStumbling)) =
        (Action.runAll (operations.map Cursor.perform)
          (Cursor.atop [] (fun _ => ()) overStumbling)).map
            (Cursor.inMode .plain fun _ => ())) ∧
      Cursor.SeenAlike overStumbling (LookAhead.atop (α := Option Record) overStumbling) ∧
      Cursor.SeenAlike overStumbling (Cursor.atop (ρ := Record) [] (fun _ => ()) overStumbling) := by
  have goesOn : overStumbling.state.GoesOn := by
    intro fault member
    simp only [overStumbling, Script.faltering, List.mem_cons, reduceCtorEq, Event.failure.injEq,
      List.not_mem_nil, false_or, or_false] at member
    rw [member]
    rfl
  obtain ⟨modes, nesting, _⟩ := (kind_of_source_does_not_show .plain).2.2 (υ := Unit) overStumbling []
    (fun _ => ()) goesOn
  exact ⟨modes, nesting rfl⟩

end QueryCursor
