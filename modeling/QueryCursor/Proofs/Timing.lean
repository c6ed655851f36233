import QueryCursor.Proofs.Course.RowStream
import QueryCursor.Proofs.Heritage
import QueryCursor.Proofs.Upholding

/-!
# The time that the records took

A row stream reads the clock when it is started and once more when it is closed.  With a
clock whose readings are a finite number of milliseconds apart it is always closed
without a failure, at whatever time that is.  So what a cursor still has before it does
not depend on the clock, and the time that the records took is entered exactly when the
cursor gives up the rest.
-/

namespace QueryCursor

namespace Clock

/-- The readings that a clock still shows. -/
def readings (clock : Clock) : List Double := clock.reading :: clock.later

/-- Every reading is a number of milliseconds after a given one. -/
def Timely (started : Double) (clock : Clock) : Prop :=
  ∀ now ∈ clock.readings, ∃ elapsed, started.millisecondsBetween now = .ok elapsed

/-- Every two readings differ by a finite number, as milliseconds, which is how the time is
entered. -/
def Finite (clock : Clock) : Prop := ∀ started ∈ clock.readings, clock.Timely started

instance (started now : Double) :
    Decidable (∃ elapsed, started.millisecondsBetween now = .ok elapsed) :=
  match _ : started.millisecondsBetween now with
  | .ok elapsed => .isTrue ⟨elapsed, rfl⟩
  | .error _ => .isFalse fun ⟨_, other⟩ => nomatch other

instance (started : Double) (clock : Clock) : Decidable (clock.Timely started) :=
  inferInstanceAs (Decidable (∀ now ∈ clock.readings, _))

instance (clock : Clock) : Decidable clock.Finite :=
  inferInstanceAs (Decidable (∀ started ∈ clock.readings, clock.Timely started))

theorem readings_advance_subset (clock : Clock) : clock.advance.readings ⊆ clock.readings := by
  obtain ⟨reading, later⟩ := clock
  cases later with
  | nil => exact List.Subset.refl _
  | cons => exact List.subset_cons_self _ _

theorem Timely.advance {started : Double} {clock : Clock} (timely : clock.Timely started) :
    clock.advance.Timely started :=
  fun now member => timely now (clock.readings_advance_subset member)

/-- A stream that is started now goes on to be timely. -/
theorem Finite.timely {clock : Clock} (finite : clock.Finite) :
    clock.advance.Timely clock.reading :=
  (finite clock.reading List.mem_cons_self).advance

end Clock

/-- A property of clocks that does not depend on how many readings were taken. -/
def Clock.Lasting (good : Clock → Prop) : Prop := ∀ clock, good clock → good clock.advance

theorem Clock.lasting_timely (started : Double) : Clock.Lasting (Clock.Timely started) :=
  fun _ timely => timely.advance

/-! ## What lasts of the clock -/

/-- The action keeps a property of the clock. -/
def Action.Lasts {σ α : Type} (good : Clock → Prop) (action : Action σ α) : Prop :=
  ∀ scene, good scene.clock → good (action.run scene).2.clock

namespace Action.Lasts

variable {σ ρ α β : Type} {good : Clock → Prop}

theorem result (value : α) : Lasts good (pure value : Action σ α) := fun _ before => before

theorem refusal (fault : Fault) : Lasts good (throw fault : Action σ α) := fun _ before => before

theorem present : Lasts good (Action.present : Action σ σ) := fun _ before => before

theorem change (update : σ → σ) : Lasts good (Action.change update) := fun _ before => before

theorem report (message : Message) : Lasts good (Action.report message : Action σ Unit) :=
  fun _ before => before

theorem ofExcept (outcome : Except Fault α) :
    Lasts good (Action.ofExcept outcome : Action σ α) := fun _ before => before

theorem ofState (step : σ → Except Fault α × σ) : Lasts good (Action.ofState step) :=
  fun _ before => before

theorem readClock (lasts : Clock.Lasting good) : Lasts good (Action.readClock : Action σ Double) :=
  fun scene before => lasts scene.clock before

theorem bind {action : Action σ α} {rest : α → Action σ β} (begun : Lasts good action)
    (continued : ∀ value, Lasts good (rest value)) : Lasts good (action >>= rest) := by
  intro scene before
  have between := begun scene before
  rw [run_bind]
  rcases ran : action.run scene with ⟨fault | value, after⟩
  · rw [ran] at between
    exact between
  · rw [ran] at between
    exact continued value after between

theorem within {part : σ → ρ} {restore : ρ → σ → σ} {action : Action ρ α}
    (inner : Lasts good action) : Lasts good (Action.within part restore action) :=
  fun scene before => inner (scene.withState (part scene.state)) before

end Action.Lasts

namespace RowStream

variable {good : Clock → Prop} {stream : RowStream} {clock : Clock} {started : Double}

theorem lasts_close (lasts : Clock.Lasting good) : close.Lasts good := by
  refine .bind .present fun stream => ?_
  split
  · exact .result ()
  · refine .bind (.change _) fun _ => ?_
    refine .bind (.readClock lasts) fun now => ?_
    exact .bind (.ofExcept _) fun elapsed => .change _

theorem lasts_pull (lasts : Clock.Lasting good) : pull.Lasts good := by
  refine .bind .present fun stream => ?_
  refine .bind (.ofExcept _) fun upcoming => ?_
  cases upcoming with
  | none => exact .bind (lasts_close lasts) fun _ => .refusal _
  | some row =>
      refine .bind (.change _) fun _ => ?_
      exact .bind (.ofExcept _) fun record => .result (some record)

theorem upholds_clock (lasts : Clock.Lasting good) :
    LookAhead.Upholds fun (_ : LookAhead RowStream (Option Record)) clock => good clock :=
  .ofClock (lasts_pull lasts) (lasts_close lasts)

/-- Closing an open stream enters the time up to the next reading of the clock. -/
theorem run_close_of_measured (isOpen : stream.closed = false) {elapsed : Int}
    (measured : stream.started.millisecondsBetween clock.reading = .ok elapsed)
    (journal : List Message) :
    close.run ⟨stream, clock, journal⟩ =
      (.ok (), ⟨{ stream with
        closed := true, summary := { stream.summary with consumedAfter := .int elapsed } },
        clock.advance, journal⟩) := by
  simp only [close, Action.run_bind, Action.run_present, isOpen, Bool.false_eq_true, if_false,
    Action.run_change, Action.run_readClock, Action.run_ofExcept, Scene.withState, measured]

/-- A timely stream is closed without a failure, and enters a time. -/
theorem run_close_of_timely (isOpen : stream.closed = false)
    (timely : clock.Timely stream.started) (journal : List Message) :
    ∃ elapsed : Int, close.run ⟨stream, clock, journal⟩ =
      (.ok (), ⟨{ stream with
        closed := true, summary := { stream.summary with consumedAfter := .int elapsed } },
        clock.advance, journal⟩) := by
  obtain ⟨elapsed, measured⟩ := timely clock.reading List.mem_cons_self
  exact ⟨elapsed, run_close_of_measured isOpen measured journal⟩

theorem closingAt_of_timely (timely : clock.Timely started) :
    closingAt started clock.reading = .ok () := by
  obtain ⟨elapsed, measured⟩ := timely clock.reading List.mem_cons_self
  rw [closingAt, measured]
  rfl

/-- What a timely stream does from now on does not depend on the clock. -/
theorem course_of_timely (rows : List Row) (timely : clock.Timely stream.started) :
    stream.course rows clock = courseOf stream.keys (.ok ()) (rows.drop stream.produced) := by
  rw [course, closingAt_of_timely timely]

/-- Asking a timely stream for a record takes a row, with or without a failure, or finds
that none is left and closes the stream. -/
theorem run_pull_cases {rows : List Row} (isOpen : stream.closed = false)
    (listed : stream.rows = .sequence rows) (timely : clock.Timely stream.started)
    (journal : List Message) :
    (∃ outcome, pull.run ⟨stream, clock, journal⟩ =
        (outcome, ⟨{ stream with produced := stream.produced + 1 }, clock, journal⟩) ∧
      ∀ fault, outcome = .error fault → fault.isStop = false) ∨
      ∃ elapsed : Int, pull.run ⟨stream, clock, journal⟩ =
        (.error Fault.ended, ⟨{ stream with
          closed := true, summary := { stream.summary with consumedAfter := .int elapsed } },
          clock.advance, journal⟩) := by
  have upcoming := nextRow?_of_listed isOpen (listed ▸ Rows.listed_sequence rows)
  simp only [pull, Action.run_bind, Action.run_present, Action.run_ofExcept, upcoming]
  cases (rows.drop stream.produced).head? with
  | none =>
      right
      obtain ⟨elapsed, closed⟩ := run_close_of_timely isOpen timely journal
      refine ⟨elapsed, ?_⟩
      simp only [Action.run_bind, closed]
      rfl
  | some row =>
      left
      have plain := row.plainly_toRecord stream.keys
      simp only [Action.run_bind, Action.run_change, Action.run_ofExcept]
      cases made : row.toRecord stream.keys with
      | ok record =>
          refine ⟨.ok (some record), rfl, ?_⟩
          rintro _ ⟨⟩
      | error fault =>
          refine ⟨.error fault, rfl, ?_⟩
          rintro _ ⟨⟩
          exact (plain fault made).1

/-! ## Being on time -/

/-- The time that the records took is entered when the rest was given up, and not before. -/
def EntersTime (ahead : LookAhead RowStream (Option Record)) : Prop :=
  match ahead.stage with
  | .exhausted => ahead.source.closed = true ∧
      ∃ elapsed : Int, ahead.source.summary.consumedAfter = .int elapsed
  | _ => ahead.source.closed = false ∧ ahead.source.summary.consumedAfter = .null

/-- A cursor over the given rows is on time: the clock is timely for the stream, and the
time that the records took is entered when it should be. -/
structure TimingInvariant (keys : List Value) (rows : List Row) (started : Double)
    (ahead : LookAhead RowStream (Option Record)) (clock : Clock) : Prop where
  keys_eq : ahead.source.keys = keys
  rows_eq : ahead.source.rows = .sequence rows
  started_eq : ahead.source.started = started
  timely : clock.Timely started
  entersTime : EntersTime ahead

namespace TimingInvariant

variable {keys : List Value} {rows : List Row}

theorem exhausted {ahead : LookAhead RowStream (Option Record)}
    (timing : TimingInvariant keys rows started ahead clock)
    (exhausted : ahead.stage = .exhausted) :
    ahead.source.closed = true ∧
      ∃ elapsed : Int, ahead.source.summary.consumedAfter = .int elapsed := by
  have entersTime := timing.entersTime
  rw [EntersTime, exhausted] at entersTime
  exact entersTime

theorem left {ahead : LookAhead RowStream (Option Record)}
    (timing : TimingInvariant keys rows started ahead clock) (left : ahead.stage ≠ .exhausted) :
    ahead.source.closed = false ∧ ahead.source.summary.consumedAfter = .null := by
  have entersTime := timing.entersTime
  rw [EntersTime] at entersTime
  split at entersTime
  · contradiction
  · exact entersTime

/-- The clock can be any that is timely. -/
theorem at_clock {ahead : LookAhead RowStream (Option Record)} {other : Clock}
    (timing : TimingInvariant keys rows started ahead clock) (timely : other.Timely started) :
    TimingInvariant keys rows started ahead other :=
  { timing with timely }

theorem discard (scene : Scene (LookAhead RowStream (Option Record)))
    (timing : TimingInvariant keys rows started scene.state scene.clock) :
    TimingInvariant keys rows started (LookAhead.discard.run scene).2.state
      (LookAhead.discard.run scene).2.clock := by
  obtain ⟨⟨stream, stage⟩, clock, journal⟩ := scene
  by_cases given : stage = .exhausted
  · subst given
    exact timing
  · have left : LookAhead.exhausted (⟨stream, stage⟩ : LookAhead RowStream (Option Record)) =
        false := by
      cases stage with
      | exhausted => exact absurd rfl given
      | empty => rfl
      | holding record => rfl
    have timely : clock.Timely stream.started := timing.started_eq ▸ timing.timely
    obtain ⟨elapsed, closed⟩ := run_close_of_timely (timing.left given).1 timely journal
    have released : Source.release.run (⟨stream, clock, journal⟩ : Scene RowStream) = _ := closed
    rw [LookAhead.run_discard clock journal left]
    simp only [released]
    exact ⟨timing.keys_eq, timing.rows_eq, timing.started_eq, timing.timely.advance, rfl,
      elapsed, rfl⟩

theorem fetch (scene : Scene (LookAhead RowStream (Option Record)))
    (timing : TimingInvariant keys rows started scene.state scene.clock) :
    TimingInvariant keys rows started (LookAhead.fetch.run scene).2.state
      (LookAhead.fetch.run scene).2.clock := by
  obtain ⟨⟨stream, stage⟩, clock, journal⟩ := scene
  cases stage with
  | exhausted => exact timing
  | holding => exact timing
  | empty =>
      have isOpen := timing.left nofun
      have timely : clock.Timely stream.started := timing.started_eq ▸ timing.timely
      rw [LookAhead.run_fetch_empty, LookAhead.run_refill]
      rcases run_pull_cases isOpen.1 timing.rows_eq timely journal with
        ⟨outcome, pulled, goesOn⟩ | ⟨elapsed, pulled⟩
      · have asked : Source.pull.run (⟨stream, clock, journal⟩ : Scene RowStream) = _ := pulled
        rw [asked]
        cases outcome with
        | ok record =>
            exact ⟨timing.keys_eq, timing.rows_eq, timing.started_eq, timing.timely, isOpen⟩
        | error fault =>
            simp only [goesOn fault rfl, Bool.false_eq_true, if_false]
            exact ⟨timing.keys_eq, timing.rows_eq, timing.started_eq, timing.timely, isOpen⟩
      · -- The stream has closed itself, so that giving up the rest changes nothing in it.
        have asked : Source.pull.run (⟨stream, clock, journal⟩ : Scene RowStream) = _ := pulled
        have closed (stream : RowStream) (closed : stream.closed = true) (clock : Clock) :
            Source.release.run (⟨stream, clock, journal⟩ : Scene RowStream) =
              (.ok (), ⟨stream, clock, journal⟩) := run_close_of_closed closed clock journal
        simp only [asked, Fault.ended, Fault.isStop, if_true, Scene.withState]
        rw [LookAhead.run_discard _ _ rfl, closed _ rfl]
        exact ⟨timing.keys_eq, timing.rows_eq, timing.started_eq, timing.timely.advance,
          rfl, elapsed, rfl⟩

theorem upholds : LookAhead.Upholds (TimingInvariant keys rows started) where
  fetch := fetch
  discard := discard
  take _ _ _ timing :=
    ⟨timing.keys_eq, timing.rows_eq, timing.started_eq, timing.timely, timing.entersTime⟩

theorem leaves_at_clock {ahead : LookAhead RowStream (Option Record)} {other : Clock}
    {course : Course (Option Record)} (timing : TimingInvariant keys rows started ahead clock)
    (timely : other.Timely started) {journal journal' : List Message}
    (leaves : LookAhead.Leaves ⟨ahead, clock, journal⟩ course) :
    LookAhead.Leaves ⟨ahead, other, journal'⟩ course := by
  have same (left : ahead.stage ≠ .exhausted) {course : Course (Option Record)}
      (follows : Source.Follows ahead.source clock course) :
      Source.Follows ahead.source other course := by
    have listed : ahead.source.rows.Listed rows := timing.rows_eq ▸ Rows.listed_sequence rows
    have now := follows_course clock (timing.left left).1 listed
    have later := follows_course other (timing.left left).1 listed
    rw [course_of_timely rows (timing.started_eq ▸ timing.timely)] at now
    rw [course_of_timely rows (timing.started_eq ▸ timely)] at later
    rw [follows.unique now]
    exact later
  cases leaves with
  | exhausted => exact .exhausted
  | empty follows => exact .empty (same nofun follows)
  | holding closes follows => exact .holding closes (same nofun follows)

end TimingInvariant

end RowStream

end QueryCursor
