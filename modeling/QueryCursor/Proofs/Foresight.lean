import QueryCursor.Proofs.Alike
import QueryCursor.Proofs.Course.Script
import QueryCursor.Proofs.Heritage

/-!
# Foresight

Looking ahead does not change what a cursor does afterwards.  Glances at what
comes next can be put anywhere between the operations of a run: as long as they
raise no failure of the source, and do not change how the source would be released,
the operations give the same answers and leave the cursor at the same places.

The second condition is about sources that are released in another way once they
have produced the item that is looked at, such as a generator that runs a clause on
its way out only if it was started.
-/

namespace QueryCursor

/-- The operations that only look at what comes next. -/
inductive Glance where
  | atEnd
  | peek

/-- A glance as an operation. -/
def Glance.operation : Glance → CursorOperation
  | .atEnd => .atEnd
  | .peek => .peek

/-- An outcome that is no failure, except that no record is left to look at. -/
def Quiet {α : Type} (outcome : Except Fault α) : Prop :=
  ∀ fault, outcome = .error fault → fault = .absent .pastLast

/-- The source is released in one way at every point of the course. -/
def Course.ReleasedAlike {α : Type} (course : Course α) : Prop :=
  ∀ closing ∈ course.closings, closing = course.closing

namespace Course

variable {α : Type}

/-- Looking at such a course without a failure does not change how the source is released. -/
theorem ReleasedAlike.closing_look {course : Course α} (constant : course.ReleasedAlike)
    {more : Bool} (looked : course.look.1 = .ok more) :
    course.look.2.closing = course.closing := by
  cases course with
  | failure => cases looked
  | item closing value rest => exact constant _ (.tail _ rest.closing_mem_closings)
  | ended closing last =>
      cases last with
      | ok => exact constant _ (.tail _ (.head _))
      | error => cases looked

theorem ReleasedAlike.rest {closing other : Except Fault Unit} {rest : Course α}
    (constant : ∀ later ∈ closing :: rest.closings, later = other) : rest.ReleasedAlike := by
  intro later member
  rw [constant later (.tail _ member), constant _ (.tail _ rest.closing_mem_closings)]

theorem hereditary_releasedAlike : Hereditary (ReleasedAlike : Course α → Prop) where
  spent := by simp [ReleasedAlike, spent, closings, closing]
  look {course} constant := by
    cases course with
    | ended => simp [ReleasedAlike, look, spent, closings, closing]
    | failure closing fault rest => exact .rest constant
    | item closing value rest =>
        intro later member
        rcases List.mem_cons.mp member with rfl | member
        · rfl
        · exact ReleasedAlike.rest constant later member
  rest := .rest

end Course

/-! ## A generator with a last clause -/

/-- A generator of items with a clause that is run on its way out, once it has been started.
The clause fails. -/
structure Guarded (α : Type) where
  pending : List α
  started : Bool := false
  finished : Bool := false

namespace Guarded

variable {α : Type}

/-- The failure of the last clause. -/
def fault : Fault := .foreign "OSError" "gone"

/-- Goes on to the next item, or out. -/
def play (guarded : Guarded α) : Except Fault α × Guarded α :=
  if guarded.finished then (.error (Script.endOf .awaited), guarded)
  else
    match guarded.pending with
    | [] => (.error fault, { guarded with finished := true })
    | value :: rest => (.ok value, { guarded with pending := rest, started := true })

/-- How the generator goes out when it is released. -/
def closing (guarded : Guarded α) : Except Fault Unit :=
  if guarded.started ∧ ¬guarded.finished then .error fault else .ok ()

instance : Source (Guarded α) α where
  pull := .ofState play
  release := .ofState fun guarded => (guarded.closing, { guarded with finished := true })
  remaining guarded := guarded.pending.length
  remaining_lt_of_pull := fun {before after item} step => by
    obtain ⟨outcome, rfl⟩ := Prod.mk.inj step
    obtain ⟨⟨pending, started, finished⟩, clock, journal⟩ := before
    cases finished with
    | true => cases outcome
    | false =>
        cases pending with
        | nil => cases outcome
        | cons value rest => exact Nat.lt_succ_self _

/-- The course of pending items: the generator fails at its end, and when it is released
after its start. -/
def courseOf (started : Bool) : List α → Course α
  | [] => .failure (if started then .error fault else .ok ()) fault .spent
  | value :: rest => .item (if started then .error fault else .ok ()) value (courseOf true rest)

theorem follows_courseOf (guarded : Guarded α) (clock : Clock)
    (going : guarded.finished = false) :
    Source.Follows guarded clock (courseOf guarded.started guarded.pending) := by
  obtain ⟨pending, started, finished⟩ := guarded
  cases going
  induction pending generalizing started with
  | nil =>
      have ended : Source.Follows (⟨[], started, true⟩ : Guarded α) clock .spent :=
        .ended (fun _ => if_neg (by simp)) (fun journal => ⟨journal, rfl⟩)
          fun _ => if_neg (by simp)
      cases started <;>
        exact .failure (fun _ => rfl) (fun journal => ⟨journal, rfl⟩) rfl ended
  | cons value rest ih =>
      cases started <;>
        exact .item (fun _ => rfl) (fun journal => ⟨journal, rfl⟩) (ih true)

/-- A generator of one record. -/
def ofRecord : Guarded (Option Record) where
  pending := [some ⟨[(.string "n", .int 1)]⟩]

/-- The course of one record. -/
def courseOfRecord : Course (Option Record) := courseOf ofRecord.started ofRecord.pending

end Guarded

namespace Cursor

variable {σ σ' τ τ' υ : Type} [Source σ (Option Record)] [Source σ' (Option Record)]

/-- Giving up the rest ends in the later scene as it would have in the earlier one. -/
def DiscardsAlike (before after : Scene (Cursor σ Record τ)) : Prop :=
  (discard.run after).1 = (discard.run before).1

/-- A run of operations with quiet glances between them while the cursor is open, each of
which leads from one scene to another as it is allowed, and what came of the operations. -/
inductive Interleaved
    (allowed : Scene (Cursor σ Record τ) → Scene (Cursor σ Record τ) → Prop) :
    Scene (Cursor σ Record τ) → List CursorOperation →
    List (Except Fault (CursorAnswer τ) × Scene (Cursor σ Record τ)) → Prop where
  | done {scene : Scene (Cursor σ Record τ)} : Interleaved allowed scene [] []
  | glance {scene : Scene (Cursor σ Record τ)} {operations : List CursorOperation}
      {performed : List (Except Fault (CursorAnswer τ) × Scene (Cursor σ Record τ))}
      (glance : Glance) :
      scene.state.isOpen = true →
      Quiet ((perform glance.operation).run scene).1 →
      allowed scene ((perform glance.operation).run scene).2 →
      Interleaved allowed ((perform glance.operation).run scene).2 operations performed →
      Interleaved allowed scene operations performed
  | operation {scene : Scene (Cursor σ Record τ)} {operations : List CursorOperation}
      {performed : List (Except Fault (CursorAnswer τ) × Scene (Cursor σ Record τ))}
      (operation : CursorOperation) :
      Interleaved allowed ((perform operation).run scene).2 operations performed →
      Interleaved allowed scene (operation :: operations)
        ((perform operation).run scene :: performed)

/-- What an open cursor sees in a glance, when that is a failure. -/
theorem HasCourse.glance {scene : Scene (Cursor σ Record τ)} {place : Place Record}
    {course : Course (Option Record)} (hasCourse : HasCourse scene place course)
    (isOpen : place.isOpen = true) (glance : Glance) :
    HasCourse ((perform glance.operation).run scene).2 place course.look.2 ∧
      ∀ fault, course.look.1 = .error fault → fault.isStop = false →
        ((perform glance.operation).run scene).1 = .error fault := by
  cases glance with
  | atEnd =>
      obtain ⟨answer, after⟩ := hasCourse.atEnd isOpen
      rw [Glance.operation, perform, run_answering]
      refine ⟨after, ?_⟩
      intro fault looked _
      rw [answer, looked]
      rfl
  | peek =>
      obtain ⟨answer, after⟩ := hasCourse.peek isOpen
      rw [Glance.operation, perform, run_answering]
      refine ⟨after, ?_⟩
      intro fault looked goesOn
      rw [answer, Course.peeked_of_look looked goesOn]
      rfl

/-- A quiet glance of an open cursor meets no failure. -/
theorem HasCourse.look_of_quiet {scene : Scene (Cursor σ Record τ)} {place : Place Record}
    {course : Course (Option Record)} {items : Option Record → Prop}
    (hasCourse : HasCourse scene place course)
    (awaits : Awaits items Fault.IsPlain Fault.IsPlain scene)
    (isOpen : scene.state.isOpen = true) {glance : Glance}
    (quiet : Quiet ((perform glance.operation).run scene).1) :
    HasCourse ((perform glance.operation).run scene).2 place course.look.2 ∧
      ∃ more, course.look.1 = .ok more := by
  obtain ⟨after, failing⟩ := hasCourse.glance (hasCourse.isOpen_eq.symm.trans isOpen) glance
  refine ⟨after, ?_⟩
  cases looked : course.look.1 with
  | ok more => exact ⟨more, rfl⟩
  | error fault =>
      have plain := (awaits.obeys hasCourse).ofLook looked
      exact absurd (quiet fault (failing fault looked plain.1)) plain.2

/-- A quiet glance that does not change how the rest is given up leaves a cursor alike to
any other that it was alike to. -/
theorem Alike.glance {left : Scene (Cursor σ Record τ)} {right : Scene (Cursor σ' Record τ')}
    {items : Option Record → Prop} (alike : Alike left right)
    (awaits : Awaits items Fault.IsPlain Fault.IsPlain left) (isOpen : left.state.isOpen = true)
    {glance : Glance} (quiet : Quiet ((Cursor.perform glance.operation).run left).1)
    (discards : DiscardsAlike left ((Cursor.perform glance.operation).run left).2) :
    Alike ((Cursor.perform glance.operation).run left).2 right := by
  obtain ⟨place, course, hasCourse, hasCourse'⟩ := alike
  obtain ⟨after, more, looked⟩ := hasCourse.look_of_quiet awaits isOpen quiet
  have closes : course.look.2.closing = course.closing := by
    rw [← after.discard.1, ← hasCourse.discard.1]
    exact discards
  rw [Course.look_of_closing looked closes] at after
  exact ⟨place, course, after, hasCourse'⟩

/-- Quiet glances between the operations of a run change nothing about them. -/
theorem Interleaved.observe_eq {view : τ → υ} {view' : τ' → υ} {given : υ}
    {items : Option Record → Prop} {left : Scene (Cursor σ Record τ)}
    {operations : List CursorOperation}
    {performed : List (Except Fault (CursorAnswer τ) × Scene (Cursor σ Record τ))}
    (interleaved : Interleaved DiscardsAlike left operations performed)
    (awaits : Awaits items Fault.IsPlain Fault.IsPlain left) (shows : Shows view given left)
    {right : Scene (Cursor σ' Record τ')} (shows' : Shows view' given right)
    (alike : Alike left right) :
    performed.map (observe view) =
      (Action.runAll (operations.map perform) right).map (observe view') := by
  induction interleaved generalizing right with
  | done => rfl
  | glance glance isOpen quiet discards _ ih =>
      exact ih (awaits.perform _) (shows.perform _) shows'
        (alike.glance awaits isOpen quiet discards)
  | operation operation _ ih =>
      have same := alike.observe_eq shows shows' operation
      have others := ih (awaits.perform operation) (shows.perform operation)
        (shows'.perform operation) (Alike.perform operation _ _ alike).2
      simp only [List.map_cons, Action.runAll, same, others]

/-! ## Sources that are always released alike -/

theorem HasCourse.discardsAlike {scene : Scene (Cursor σ Record τ)} {place : Place Record}
    {course : Course (Option Record)} {items : Option Record → Prop}
    (hasCourse : HasCourse scene place course)
    (awaits : Awaits items Fault.IsPlain Fault.IsPlain scene)
    (constant : course.ReleasedAlike) (isOpen : scene.state.isOpen = true) {glance : Glance}
    (quiet : Quiet ((perform glance.operation).run scene).1) :
    DiscardsAlike scene ((perform glance.operation).run scene).2 := by
  obtain ⟨after, more, looked⟩ := hasCourse.look_of_quiet awaits isOpen quiet
  rw [DiscardsAlike, after.discard.1, hasCourse.discard.1]
  exact constant.closing_look looked

theorem Interleaved.discardsAlike {items : Option Record → Prop}
    {allowed : Scene (Cursor σ Record τ) → Scene (Cursor σ Record τ) → Prop}
    {scene : Scene (Cursor σ Record τ)} {operations : List CursorOperation}
    {performed : List (Except Fault (CursorAnswer τ) × Scene (Cursor σ Record τ))}
    (interleaved : Interleaved allowed scene operations performed)
    (awaits : Awaits items Fault.IsPlain Fault.IsPlain scene)
    (hasCourseWith : HasCourseWith Course.ReleasedAlike scene) :
    Interleaved DiscardsAlike scene operations performed := by
  induction interleaved with
  | done => exact .done
  | glance glance isOpen quiet _ _ ih =>
      obtain ⟨place, course, hasCourse, constant⟩ := id hasCourseWith
      have discards := hasCourse.discardsAlike awaits constant isOpen quiet
      exact .glance glance isOpen quiet discards
        (ih (awaits.perform _) (hasCourseWith.perform Course.hereditary_releasedAlike _))
  | operation operation _ ih =>
      exact .operation operation
        (ih (awaits.perform _) (hasCourseWith.perform Course.hereditary_releasedAlike _))

/-! ## Whole runs -/

/-- Looking ahead is invisible, unless it changes how the source would be released.  Over a
source that is released in the same way at every point it is always invisible. -/
theorem glances_are_invisible {keys : List Value} {source : σ} {summary : σ → τ} {clock : Clock}
    {journal : List Message} {course : Course (Option Record)} {view : τ → υ}
    (follows : Source.Follows source clock course)
    (plainFailures : ∀ fault, .error fault ∈ course.events → fault.IsPlain)
    (plainClosings : ∀ fault, .error fault ∈ course.closings → fault.IsPlain)
    (steady : Source.Steady fun source => view (summary source)) :
    let start := ⟨ofSource keys source summary, clock, journal⟩
    (∀ operations performed, Interleaved DiscardsAlike start operations performed →
      performed.map (observe view) =
        (Action.runAll (operations.map perform) start).map (observe view)) ∧
    (course.ReleasedAlike →
      ∀ operations performed, Interleaved (fun _ _ => True) start operations performed →
        performed.map (observe view) =
          (Action.runAll (operations.map perform) start).map (observe view)) := by
  intro start
  have hasCourse : HasCourse start { keys } course := .ofSource journal follows
  have obeys : course.Obeys (fun _ => True) Fault.IsPlain Fault.IsPlain :=
    ⟨fun _ _ => trivial, plainFailures, plainClosings⟩
  have awaits : Awaits (fun _ => True) Fault.IsPlain Fault.IsPlain start :=
    ⟨_, course, hasCourse, obeys⟩
  have invisible operations performed
      (interleaved : Interleaved DiscardsAlike start operations performed) :=
    interleaved.observe_eq awaits ⟨steady, rfl⟩ ⟨steady, rfl⟩ ⟨_, course, hasCourse, hasCourse⟩
  refine ⟨invisible, ?_⟩
  intro constant operations performed interleaved
  exact invisible operations performed
    (interleaved.discardsAlike awaits ⟨_, course, hasCourse, constant⟩)

/-- Glances before, between and after the records of an iterator that fails. -/
theorem glances_at_faltering_are_invisible :
    ∃ performed, Interleaved DiscardsAlike
        ⟨ofSource (ρ := Record) [.string "n"] Script.faltering fun _ => (), {}, []⟩
        [.next, .next, .next, .limit 0, .record] performed ∧
      performed.map (observe id) =
        (Action.runAll ([.next, .next, .next, .limit 0, .record].map perform)
          ⟨ofSource [.string "n"] Script.faltering fun _ => (), {}, []⟩).map (observe id) := by
  have interleaved : Interleaved DiscardsAlike
      ⟨ofSource [.string "n"] Script.faltering fun _ => (), {}, []⟩
      [.next, .next, .next, .limit 0, .record] _ :=
    .glance .atEnd rfl nofun rfl <| .glance .peek rfl nofun rfl <| .operation .next <|
      .operation .next <| .glance .peek rfl nofun rfl <| .operation .next <|
      .operation (.limit 0) <|
      .glance .peek rfl (fun _ failed => (Except.error.inj failed).symm) rfl <|
      .operation .record .done
  refine ⟨_, interleaved, ?_⟩
  have obeys := Script.obeys_faltering
  exact (glances_are_invisible (Script.follows_faltering {}) obeys.failure obeys.closing
    fun _ => ⟨rfl, rfl⟩).1 _ _ interleaved

/-- A generator of one record whose last clause fails is released without a failure before
the record was looked at, and not after that: so the glance shows. -/
theorem glance_starts_failing_clause :
    Source.Follows Guarded.ofRecord {} Guarded.courseOfRecord ∧
      Guarded.courseOfRecord.Obeys (fun record => record.isSome) Fault.IsPlain Fault.IsPlain ∧
      ∃ performed, Interleaved (fun _ _ => True)
          ⟨ofSource (ρ := Record) [.string "n"] Guarded.ofRecord fun _ => (), {}, []⟩
          [.limit 0] performed ∧
        performed.map (observe id) ≠
          (Action.runAll ([.limit 0].map perform)
            ⟨ofSource [.string "n"] Guarded.ofRecord fun _ => (), {}, []⟩).map (observe id) := by
  refine ⟨Guarded.follows_courseOf _ _ rfl, ?_, ?_⟩
  · have plain : Guarded.fault.IsPlain := ⟨rfl, nofun⟩
    have closed : ∀ fault, Except.error Guarded.fault = (.error fault : Except Fault Unit) →
        fault.IsPlain := by
      rintro fault ⟨⟩
      exact plain
    exact Course.obeys_item.mpr ⟨nofun, rfl, Course.obeys_failure.mpr ⟨closed, plain, .spent⟩⟩
  · refine ⟨_, .glance .atEnd rfl nofun trivial (.operation (.limit 0) .done), ?_⟩
    intro same
    have outcome := congrArg (fun observed => observed.head?.map Prod.fst) same
    cases outcome

end Cursor

end QueryCursor
