import QueryCursor.LookAhead

/-!
# Courses

The course of a source is everything it does when it is asked for items again and
again: the items and failures in order, and at every point how its release would
end there, which can change with everything that it is asked for.  A source that is
known only by its course can be of any kind.

A look-ahead hides how much of the course it has fetched.  `LookAhead.Expects`
says what is still to come of it, be it held or not, and every operation of a
look-ahead is described by what it does to that.
-/

namespace QueryCursor

/-- What a source does until it says that it has ended.  Each event comes with how
the source is released before it; `last` is how it is released once it has ended. -/
inductive Course (α : Type) where
  | ended (closing last : Except Fault Unit)
  | item (closing : Except Fault Unit) (value : α) (rest : Course α)
  | failure (closing : Except Fault Unit) (fault : Fault) (rest : Course α)

/-- The items among events, in order. -/
def itemsOf {α : Type} (events : List (Except Fault α)) : List α :=
  events.filterMap Except.toOption

@[simp] theorem itemsOf_append {α : Type} (first second : List (Except Fault α)) :
    itemsOf (first ++ second) = itemsOf first ++ itemsOf second :=
  List.filterMap_append

@[simp] theorem itemsOf_ok {α : Type} (item : α) (events : List (Except Fault α)) :
    itemsOf (.ok item :: events) = item :: itemsOf events := rfl

@[simp] theorem itemsOf_error {α : Type} (fault : Fault) (events : List (Except Fault α)) :
    itemsOf (.error fault :: events) = itemsOf events := rfl

@[simp] theorem itemsOf_nil {α : Type} : itemsOf ([] : List (Except Fault α)) = [] := rfl

namespace Course

variable {α : Type}

/-- The course of a source that has nothing left and is released without a
failure. -/
def spent : Course α := .ended (.ok ()) (.ok ())

/-- How releasing the source ends now. -/
def closing : Course α → Except Fault Unit
  | .ended closing _ => closing
  | .item closing _ _ => closing
  | .failure closing _ _ => closing

/-- How releasing the source ends, at every point of the course. -/
def closings : Course α → List (Except Fault Unit)
  | .ended closing last => [closing, last]
  | .item closing _ rest => closing :: rest.closings
  | .failure closing _ rest => closing :: rest.closings

/-- The items and failures in order. -/
def events : Course α → List (Except Fault α)
  | .ended _ _ => []
  | .item _ value rest => .ok value :: rest.events
  | .failure _ fault rest => .error fault :: rest.events

/-- The items in order, without the failures between them. -/
def items (course : Course α) : List α := itemsOf course.events

@[simp] theorem items_ended (closing last : Except Fault Unit) :
    (ended closing last : Course α).items = [] := rfl

@[simp] theorem items_item (closing : Except Fault Unit) (value : α) (rest : Course α) :
    (item closing value rest).items = value :: rest.items := rfl

@[simp] theorem items_failure (closing : Except Fault Unit) (fault : Fault) (rest : Course α) :
    (failure closing fault rest).items = rest.items := rfl

/-- The course of items that are followed by the end, without any failure. -/
def ofItems : List α → Course α
  | [] => spent
  | value :: values => .item (.ok ()) value (ofItems values)

/-- Whether an item is left, and the course after asking that.  An item that was
looked at is still to come, but the source has produced it. -/
def look : Course α → Except Fault Bool × Course α
  | .ended _ last => (last.map fun _ => false, spent)
  | .item _ value rest => (.ok true, .item rest.closing value rest)
  | .failure _ fault rest => (.error fault, rest)

/-- What taking an item gives, and the course after it. -/
def take : Course α → Except Fault α × Course α
  | .ended _ last => (last.bind fun _ => .error LookAhead.endOfSequence, spent)
  | .item _ value rest => (.ok value, rest)
  | .failure _ fault rest => (.error fault, rest)

/-- What looking at the next item gives to one who knows no end. -/
def peeked (course : Course α) : Except Fault α :=
  match course.take.1 with
  | .ok value => .ok value
  | .error fault => .error (if fault.isStop then .absent .pastLast else fault)

/-- A course that is looked at without a failure stays as it is, unless the source is
released in another way afterwards. -/
theorem look_of_closing {course : Course α} {more : Bool} (looked : course.look.1 = .ok more)
    (closes : course.look.2.closing = course.closing) : course.look.2 = course := by
  cases course with
  | failure => cases looked
  | item closing value rest => exact congrArg (Course.item · value rest) closes
  | ended closing last =>
      cases last with
      | ok => exact congrArg (Course.ended · (.ok ())) closes
      | error => cases looked

theorem item_of_look {course : Course α} (looked : course.look.1 = .ok true) :
    ∃ closing value rest, course = .item closing value rest := by
  cases course with
  | item closing value rest => exact ⟨closing, value, rest, rfl⟩
  | failure => cases looked
  | ended closing last => cases last <;> cases looked

theorem peeked_of_look {course : Course α} {fault : Fault} (looked : course.look.1 = .error fault)
    (goesOn : fault.isStop = false) : course.peeked = .error fault := by
  cases course with
  | item => cases looked
  | failure =>
      cases looked
      simp [peeked, take, goesOn]
  | ended closing last =>
      cases last with
      | ok => cases looked
      | error =>
          cases looked
          simp [peeked, take, Except.bind, goesOn]

@[simp] theorem closing_spent : (spent : Course α).closing = .ok () := rfl

@[simp] theorem closing_ofItems (items : List α) : (ofItems items).closing = .ok () := by
  cases items <;> rfl

@[simp] theorem items_ofItems (items : List α) : (ofItems items).items = items := by
  induction items with
  | nil => rfl
  | cons value items ih => exact congrArg (value :: ·) ih

theorem closing_mem_closings (course : Course α) : course.closing ∈ course.closings := by
  cases course <;> simp [closing, closings]

/-! ## All of a course -/

/-- All items, failures and failures to release of a course are of a kind. -/
structure Obeys (items : α → Prop) (failures closings : Fault → Prop) (course : Course α) :
    Prop where
  item : ∀ value, .ok value ∈ course.events → items value
  failure : ∀ fault, .error fault ∈ course.events → failures fault
  closing : ∀ fault, .error fault ∈ course.closings → closings fault

section Obeys

variable {items : α → Prop} {failures closings : Fault → Prop}

theorem obeys_ended {closing last : Except Fault Unit} :
    Obeys items failures closings (.ended closing last : Course α) ↔
      (∀ fault, closing = .error fault → closings fault) ∧
        ∀ fault, last = .error fault → closings fault := by
  constructor
  · intro obeys
    constructor
    · rintro fault rfl
      exact obeys.closing fault (.head _)
    · rintro fault rfl
      exact obeys.closing fault (.tail _ (.head _))
  · rintro ⟨before, after⟩
    constructor
    · simp [events]
    · simp [events]
    · intro fault member
      rcases List.mem_cons.mp member with same | member
      · exact before fault same.symm
      · exact after fault (List.mem_singleton.mp member).symm

theorem obeys_item {closing : Except Fault Unit} {value : α} {rest : Course α} :
    Obeys items failures closings (.item closing value rest) ↔
      (∀ fault, closing = .error fault → closings fault) ∧ items value ∧
        Obeys items failures closings rest := by
  constructor
  · intro obeys
    refine ⟨?_, obeys.item value (.head _), ?_⟩
    · rintro fault rfl
      exact obeys.closing fault (.head _)
    · exact ⟨fun value member => obeys.item value (.tail _ member),
        fun fault member => obeys.failure fault (.tail _ member),
        fun fault member => obeys.closing fault (.tail _ member)⟩
  · rintro ⟨closed, first, others⟩
    constructor
    · intro other member
      rcases List.mem_cons.mp member with same | member
      · cases same
        exact first
      · exact others.item other member
    · intro fault member
      rcases List.mem_cons.mp member with same | member
      · cases same
      · exact others.failure fault member
    · intro other member
      rcases List.mem_cons.mp member with same | member
      · exact closed other same.symm
      · exact others.closing other member

theorem obeys_failure {closing : Except Fault Unit} {fault : Fault} {rest : Course α} :
    Obeys items failures closings (.failure closing fault rest) ↔
      (∀ fault, closing = .error fault → closings fault) ∧ failures fault ∧
        Obeys items failures closings rest := by
  constructor
  · intro obeys
    refine ⟨?_, obeys.failure fault (.head _), ?_⟩
    · rintro fault rfl
      exact obeys.closing fault (.head _)
    · exact ⟨fun value member => obeys.item value (.tail _ member),
        fun fault member => obeys.failure fault (.tail _ member),
        fun fault member => obeys.closing fault (.tail _ member)⟩
  · rintro ⟨closed, first, others⟩
    constructor
    · intro value member
      rcases List.mem_cons.mp member with same | member
      · cases same
      · exact others.item value member
    · intro other member
      rcases List.mem_cons.mp member with same | member
      · cases same
        exact first
      · exact others.failure other member
    · intro other member
      rcases List.mem_cons.mp member with same | member
      · exact closed other same.symm
      · exact others.closing other member

namespace Obeys

theorem spent : Obeys items failures closings (Course.spent : Course α) :=
  obeys_ended.mpr ⟨nofun, nofun⟩

/-- A course that never fails has only its items in it. -/
theorem ofItems {values : List α} (each : ∀ value ∈ values, items value) :
    Obeys items failures closings (Course.ofItems values) := by
  induction values with
  | nil => exact spent
  | cons value values ih =>
      have first := each value List.mem_cons_self
      have others := ih fun other member => each other (List.mem_cons_of_mem _ member)
      exact obeys_item.mpr ⟨nofun, first, others⟩

/-- A course of which nothing fails is that of its items. -/
theorem eq_ofItems {course : Course α}
    (obeys : Obeys items (fun _ => False) (fun _ => False) course) :
    course = Course.ofItems course.items := by
  have released {closing : Except Fault Unit}
      (closed : ∀ fault, closing = .error fault → False) : closing = .ok () := by
    cases closing with
    | ok => rfl
    | error fault => exact (closed fault rfl).elim
  induction course with
  | ended closing last =>
      obtain ⟨before, after⟩ := obeys_ended.mp obeys
      rw [released before, released after]
      rfl
  | item closing value rest ih =>
      obtain ⟨closed, _, others⟩ := obeys_item.mp obeys
      rw [released closed]
      exact congrArg (Course.item (.ok ()) value) (ih others)
  | failure closing fault rest => exact (obeys_failure.mp obeys).2.1.elim

theorem ofClosing {course : Course α} (obeys : Obeys items failures closings course)
    {fault : Fault} (failed : course.closing = .error fault) : closings fault := by
  apply obeys.closing
  rw [← failed]
  exact course.closing_mem_closings

theorem ofLook {course : Course α} {kind : Fault → Prop} (obeys : Obeys items kind kind course)
    {fault : Fault} (failed : course.look.1 = .error fault) : kind fault := by
  cases course with
  | item => cases failed
  | failure closing fault rest =>
      cases failed
      exact (obeys_failure.mp obeys).2.1
  | ended closing last =>
      cases last with
      | ok => cases failed
      | error fault =>
          cases failed
          exact (obeys_ended.mp obeys).2 fault rfl

theorem look {course : Course α} (obeys : Obeys items failures closings course) :
    Obeys items failures closings course.look.2 := by
  cases course with
  | ended => exact spent
  | item =>
      obtain ⟨_, first, others⟩ := obeys_item.mp obeys
      exact obeys_item.mpr ⟨fun _ => others.ofClosing, first, others⟩
  | failure => exact (obeys_failure.mp obeys).2.2

end Obeys

end Obeys

end Course

/-- A fault that cannot be taken for the end of the records. -/
def Fault.IsPlain (fault : Fault) : Prop :=
  fault.isStop = false ∧ fault ≠ .absent .pastLast

/-- From a state and a clock an action ends in one way, whatever the journal
holds. -/
def Action.Ends {σ α : Type} (action : Action σ α) (state : σ) (clock : Clock)
    (outcome : Except Fault α) (state' : σ) (clock' : Clock) : Prop :=
  ∀ journal, ∃ journal',
    action.run ⟨state, clock, journal⟩ = (outcome, ⟨state', clock', journal'⟩)

namespace Source

variable {σ α : Type} [Source σ α]

/-- Releasing the source ends in the given way, whatever the journal holds. -/
def Closes (source : σ) (clock : Clock) (closing : Except Fault Unit) : Prop :=
  ∀ journal, (release.run ⟨source, clock, journal⟩).1 = closing

/-- The source does what the course says. -/
inductive Follows : σ → Clock → Course α → Prop where
  | ended {source source' : σ} {clock clock' : Clock} {closing last : Except Fault Unit}
      {signal : StopSignal} {text : String} :
      Closes source clock closing →
      pull.Ends source clock (.error (.stop signal text)) source' clock' →
      Closes source' clock' last →
      Follows source clock (.ended closing last)
  | item {source source' : σ} {clock clock' : Clock} {closing : Except Fault Unit} {value : α}
      {rest : Course α} :
      Closes source clock closing →
      pull.Ends source clock (.ok value) source' clock' →
      Follows source' clock' rest →
      Follows source clock (.item closing value rest)
  | failure {source source' : σ} {clock clock' : Clock} {closing : Except Fault Unit}
      {fault : Fault} {rest : Course α} :
      Closes source clock closing →
      pull.Ends source clock (.error fault) source' clock' →
      fault.isStop = false →
      Follows source' clock' rest →
      Follows source clock (.failure closing fault rest)

theorem Follows.closes {source : σ} {clock : Clock} {course : Course α}
    (follows : Follows source clock course) : Closes source clock course.closing := by
  cases follows with
  | ended closes => exact closes
  | item closes => exact closes
  | failure closes => exact closes

/-- No failure of a course is a stop signal. -/
theorem Follows.isStop_eq_false {source : σ} {clock : Clock} {course : Course α}
    (follows : Follows source clock course) {fault : Fault}
    (member : .error fault ∈ course.events) : fault.isStop = false := by
  induction follows with
  | ended => simp [Course.events] at member
  | item _ _ _ ih =>
      simp only [Course.events, List.mem_cons, reduceCtorEq, false_or] at member
      exact ih member
  | failure _ _ goesOn _ ih =>
      simp only [Course.events, List.mem_cons, Except.error.injEq] at member
      rcases member with rfl | member
      · exact goesOn
      · exact ih member

end Source

namespace LookAhead

variable {σ α : Type} [Source σ α]

/-- What is still to come of a look-ahead. -/
inductive Expects : LookAhead σ α → Clock → Course α → Prop where
  | empty {source : σ} {clock : Clock} {course : Course α} :
      Source.Follows source clock course → Expects ⟨source, .empty⟩ clock course
  | holding {source : σ} {clock : Clock} {closing : Except Fault Unit} {item : α}
      {rest : Course α} :
      rest.closing = closing →
      Source.Follows source clock rest →
      Expects ⟨source, .holding item⟩ clock (.item closing item rest)
  | exhausted {source : σ} {clock : Clock} :
      Expects ⟨source, .exhausted⟩ clock Course.spent

/-- What is still to come in a scene. -/
def Leaves (scene : Scene (LookAhead σ α)) (course : Course α) : Prop :=
  Expects scene.state scene.clock course

/-- No failure that is still to come is a stop signal. -/
theorem isStop_of_leaves {scene : Scene (LookAhead σ α)} {course : Course α}
    (leaves : Leaves scene course) {fault : Fault} (member : .error fault ∈ course.events) :
    fault.isStop = false := by
  obtain ⟨⟨source, stage⟩, clock, journal⟩ := scene
  cases leaves with
  | empty follows => exact follows.isStop_eq_false member
  | exhausted => simp [Course.events, Course.spent] at member
  | holding _ follows =>
      simp only [Course.events, List.mem_cons, reduceCtorEq, false_or] at member
      exact follows.isStop_eq_false member

/-! ## Fetching -/

theorem leaves_of_exhausted {scene : Scene (LookAhead σ α)}
    (ended : scene.state.stage = .exhausted) : Leaves scene Course.spent := by
  obtain ⟨⟨source, stage⟩, clock, journal⟩ := scene
  cases ended
  exact .exhausted

theorem run_fetch_of_item {scene : Scene (LookAhead σ α)} {closing : Except Fault Unit}
    {item : α} {rest : Course α} (leaves : Leaves scene (.item closing item rest)) :
    ∃ after, fetch.run scene = (.ok (), after) ∧ after.state.stage = .holding item ∧
      Leaves after (.item rest.closing item rest) := by
  obtain ⟨⟨source, stage⟩, clock, journal⟩ := scene
  cases leaves with
  | holding _ follows => exact ⟨_, rfl, rfl, .holding rfl follows⟩
  | empty follows =>
      cases follows with
      | item _ pulled follows =>
          obtain ⟨journal', pulled⟩ := pulled journal
          rw [run_fetch_empty, run_refill, pulled]
          exact ⟨_, rfl, rfl, .holding rfl follows⟩

theorem run_fetch_of_failure {scene : Scene (LookAhead σ α)} {closing : Except Fault Unit}
    {fault : Fault} {rest : Course α} (leaves : Leaves scene (.failure closing fault rest)) :
    ∃ after, fetch.run scene = (.error fault, after) ∧ Leaves after rest := by
  obtain ⟨⟨source, stage⟩, clock, journal⟩ := scene
  cases leaves with
  | empty follows =>
      cases follows with
      | failure _ pulled goesOn follows =>
          obtain ⟨journal', pulled⟩ := pulled journal
          rw [run_fetch_empty, run_refill, pulled]
          simp only [goesOn]
          exact ⟨_, rfl, .empty follows⟩

theorem run_fetch_of_ended {scene : Scene (LookAhead σ α)} {closing last : Except Fault Unit}
    (leaves : Leaves scene (.ended closing last)) :
    ∃ after, fetch.run scene = (last, after) ∧ after.state.stage = .exhausted := by
  obtain ⟨⟨source, stage⟩, clock, journal⟩ := scene
  cases leaves with
  | exhausted => exact ⟨_, rfl, rfl⟩
  | empty follows =>
      cases follows with
      | ended _ pulled closes =>
          obtain ⟨journal', pulled⟩ := pulled journal
          rw [run_fetch_empty, run_refill, pulled]
          simp only [Fault.isStop, if_true, Scene.withState]
          rw [run_discard _ _ rfl]
          exact ⟨_, congrArg (·, _) (closes journal'), rfl⟩

/-! ## Operations -/

/-- Asking whether an item is left looks at the course. -/
theorem hasNext_of_leaves {scene : Scene (LookAhead σ α)} {course : Course α}
    (leaves : Leaves scene course) :
    (hasNext.run scene).1 = course.look.1 ∧ Leaves (hasNext.run scene).2 course.look.2 := by
  rw [run_hasNext]
  cases course with
  | item closing item rest =>
      obtain ⟨after, fetched, held, leaves⟩ := run_fetch_of_item leaves
      rw [fetched]
      exact ⟨by simp [held, Stage.held?, Course.look], leaves⟩
  | failure closing fault rest =>
      obtain ⟨after, fetched, leaves⟩ := run_fetch_of_failure leaves
      rw [fetched]
      exact ⟨rfl, leaves⟩
  | ended closing last =>
      obtain ⟨after, fetched, ended⟩ := run_fetch_of_ended leaves
      rw [fetched]
      cases last with
      | error fault => exact ⟨rfl, leaves_of_exhausted ended⟩
      | ok =>
          have answer : after.state.stage.held?.isSome = false := by
            rw [ended]
            rfl
          simp only [answer]
          exact ⟨rfl, leaves_of_exhausted ended⟩

/-- Looking at the next item gives what taking it would give. -/
theorem peek_of_leaves {scene : Scene (LookAhead σ α)} {course : Course α}
    (leaves : Leaves scene course) :
    (peek.run scene).1 = course.take.1 ∧ Leaves (peek.run scene).2 course.look.2 := by
  rw [run_peek]
  cases course with
  | item closing item rest =>
      obtain ⟨after, fetched, held, leaves⟩ := run_fetch_of_item leaves
      rw [fetched]
      exact ⟨by simp [held, Stage.held?, Course.take], leaves⟩
  | failure closing fault rest =>
      obtain ⟨after, fetched, leaves⟩ := run_fetch_of_failure leaves
      rw [fetched]
      exact ⟨rfl, leaves⟩
  | ended closing last =>
      obtain ⟨after, fetched, ended⟩ := run_fetch_of_ended leaves
      rw [fetched]
      cases last with
      | error fault => exact ⟨rfl, leaves_of_exhausted ended⟩
      | ok =>
          have noItem : after.state.stage.held? = none := by
            rw [ended]
            rfl
          simp only [noItem]
          exact ⟨rfl, leaves_of_exhausted ended⟩

theorem next_of_leaves {scene : Scene (LookAhead σ α)} {course : Course α}
    (leaves : Leaves scene course) :
    (next.run scene).1 = course.take.1 ∧ Leaves (next.run scene).2 course.take.2 := by
  cases course with
  | item closing item rest =>
      obtain ⟨after, fetched, held, leaves⟩ := run_fetch_of_item leaves
      simp only [run_next, run_peek, fetched, held, Stage.held?]
      obtain ⟨⟨source, stage⟩, clock, journal⟩ := after
      cases held
      cases leaves with
      | holding _ follows => exact ⟨rfl, .empty follows⟩
  | failure closing fault rest =>
      have peeked := peek_of_leaves leaves
      rw [run_next]
      rcases looked : peek.run scene with ⟨_ | _, after⟩
      · rw [looked] at peeked
        exact peeked
      · simp [looked, Course.take] at peeked
  | ended closing last =>
      have peeked := peek_of_leaves leaves
      rw [run_next]
      rcases looked : peek.run scene with ⟨_ | _, after⟩
      · rw [looked] at peeked
        exact peeked
      · cases last <;> simp [looked, Course.take, Except.bind] at peeked

theorem discard_of_leaves {scene : Scene (LookAhead σ α)} {course : Course α}
    (leaves : Leaves scene course) : (discard.run scene).1 = course.closing := by
  obtain ⟨⟨source, stage⟩, clock, journal⟩ := scene
  cases leaves with
  | exhausted => rfl
  | holding closes follows =>
      rw [run_discard _ _ rfl, Course.closing, ← closes]
      exact follows.closes journal
  | empty follows =>
      rw [run_discard _ _ rfl]
      exact follows.closes journal

end LookAhead

end QueryCursor
