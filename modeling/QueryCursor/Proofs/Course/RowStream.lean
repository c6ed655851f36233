import QueryCursor.Proofs.Course
import QueryCursor.Proofs.Lookup
import QueryCursor.Proofs.Shown
import QueryCursor.RowStream

/-!
# The course of a row stream

A stream over a list of rows follows a course of their records, with a failure
for every row that makes none.  The time it took is entered at the end; a clock
that leaves it without a number makes one more failure of that.
-/

namespace QueryCursor

/-- An outcome that is no failure which could be taken for the end. -/
def Plainly {α : Type} (outcome : Except Fault α) : Prop :=
  ∀ fault, outcome = .error fault → fault.IsPlain

namespace Plainly

variable {α β : Type}

theorem ok (value : α) : Plainly (.ok value) := fun _ failed => nomatch failed

theorem error {fault : Fault} (plain : fault.IsPlain) :
    Plainly (.error fault : Except Fault α) := by
  intro other failed
  cases failed
  exact plain

theorem bind {first : Except Fault α} {rest : α → Except Fault β} (begun : Plainly first)
    (continued : ∀ value, Plainly (rest value)) : Plainly (first >>= rest) := by
  cases first with
  | error fault => exact error (begun fault rfl)
  | ok value => exact continued value

theorem mapM {make : α → Except Fault β} (each : ∀ value, Plainly (make value))
    (values : List α) : Plainly (values.mapM make) := by
  induction values with
  | nil => exact ok []
  | cons value values ih =>
      rw [List.mapM_cons]
      exact (each value).bind fun made => ih.bind fun others => ok (made :: others)

theorem lift (outcome : Except Unhashable α) : Plainly (Unhashable.lift outcome) := by
  cases outcome with
  | error part => exact error ⟨rfl, nofun⟩
  | ok value => exact ok value

end Plainly

/-! ## Rows -/

theorem Record.plainly_lookup (record : Record) (key : Value) : Plainly (record.lookup key) := by
  intro fault failed
  cases fault with
  | record cause => exact ⟨rfl, nofun⟩
  | unhashable part => exact ⟨rfl, nofun⟩
  | _ => exact (Record.ofLookup_of_lookup failed).elim

theorem Row.plainly_get (row : Row) (key : Value) : Plainly (row.get key) := by
  cases row with
  | mapping entries => exact (Plainly.lift _).bind fun found => .ok _
  | other type => exact .error ⟨rfl, nofun⟩
  | record fields =>
      have found := fields.plainly_lookup key
      simp only [Row.get, Record.get]
      cases looked : fields.lookup key with
      | ok value => exact .ok value
      | error fault =>
          simp only
          split
          · exact .ok _
          · exact .error (found fault looked)

/-- A row that makes no record fails plainly. -/
theorem Row.plainly_toRecord (row : Row) (keys : List Value) : Plainly (row.toRecord keys) := by
  apply (Plainly.mapM row.plainly_get keys).bind
  intro values
  unfold Record.make
  split
  · exact .ok _
  · exact .error ⟨rfl, nofun⟩

theorem Double.plainly_millisecondsBetween (start stop : Double) :
    Plainly (start.millisecondsBetween stop) := by
  unfold millisecondsBetween
  split
  · exact .ok _
  · exact .error ⟨rfl, nofun⟩
  · exact .error ⟨rfl, nofun⟩

/-- The rows are those of the list, each at its place. -/
def Rows.Listed (rows : Rows) (list : List Row) : Prop :=
  ∀ place, rows.at? place = .ok list[place]?

theorem Rows.listed_sequence (rows : List Row) : (Rows.sequence rows).Listed rows :=
  fun _ => rfl

/-- All of a summary but the time that the records took. -/
def Summary.lasting (summary : Summary) : Summary := { summary with consumedAfter := .null }

namespace RowStream

/-- How releasing an open stream ends that was started at one time, at another. -/
def closingAt (started now : Double) : Except Fault Unit :=
  (started.millisecondsBetween now).map fun _ => ()

theorem plainly_closingAt (started now : Double) : Plainly (closingAt started now) := by
  have plain := Double.plainly_millisecondsBetween started now
  rw [closingAt]
  cases elapsed : started.millisecondsBetween now with
  | ok => exact .ok ()
  | error fault => exact .error (plain fault elapsed)

/-- The course of rows. -/
def courseOf (keys : List Value) (closing : Except Fault Unit) : List Row → Course (Option Record)
  | [] =>
      match closing with
      | .ok () => .spent
      | .error fault => .failure (.error fault) fault .spent
  | row :: rows =>
      match row.toRecord keys with
      | .ok record => .item closing (some record) (courseOf keys closing rows)
      | .error fault => .failure closing fault (courseOf keys closing rows)

/-- What a stream over a list of rows does from now on. -/
def course (stream : RowStream) (rows : List Row) (clock : Clock) : Course (Option Record) :=
  courseOf stream.keys (closingAt stream.started clock.reading) (rows.drop stream.produced)

theorem run_close_of_closed {stream : RowStream} (closed : stream.closed = true) (clock : Clock)
    (journal : List Message) :
    close.run ⟨stream, clock, journal⟩ = (.ok (), ⟨stream, clock, journal⟩) := by
  simp [close, closed]

/-- Closing an open stream reads the clock, and closes it even if that fails. -/
theorem run_close_of_open {stream : RowStream} (isOpen : stream.closed = false) (clock : Clock) :
    ∃ after : RowStream, after.closed = true ∧ ∀ journal,
      close.run ⟨stream, clock, journal⟩ =
        (closingAt stream.started clock.reading, ⟨after, clock.advance, journal⟩) := by
  simp only [close, Action.run_bind, Action.run_present, isOpen, closingAt]
  cases measured : stream.started.millisecondsBetween clock.reading with
  | error fault =>
      refine ⟨{ stream with closed := true }, rfl, ?_⟩
      intro journal
      simp [Scene.withState, measured, Except.map]
  | ok elapsed =>
      refine ⟨{ stream with
        closed := true, summary := { stream.summary with consumedAfter := .int elapsed } },
        rfl, ?_⟩
      intro journal
      simp [Scene.withState, measured, Except.map]

theorem closes_of_open {stream : RowStream} (isOpen : stream.closed = false) (clock : Clock) :
    Source.Closes stream clock (closingAt stream.started clock.reading) := by
  obtain ⟨after, _, closes⟩ := run_close_of_open isOpen clock
  exact fun journal => congrArg Prod.fst (closes journal)

/-! ## Following -/

/-- A closed stream has ended. -/
theorem follows_spent {stream : RowStream} (closed : stream.closed = true) (clock : Clock) :
    Source.Follows stream clock Course.spent := by
  have closes : Source.Closes stream clock (.ok ()) :=
    fun journal => congrArg Prod.fst (run_close_of_closed closed clock journal)
  have ends : Source.pull.Ends stream clock (.error Fault.ended) stream clock := by
    intro journal
    refine ⟨journal, ?_⟩
    show pull.run ⟨stream, clock, journal⟩ = _
    simp [pull, nextRow?, closed, run_close_of_closed]
  exact .ended closes ends closes

theorem nextRow?_of_listed {stream : RowStream} {rows : List Row} (isOpen : stream.closed = false)
    (listed : stream.rows.Listed rows) :
    stream.nextRow? = .ok (rows.drop stream.produced).head? := by
  rw [nextRow?, listed, List.head?_drop]
  simp [isOpen]

/-- An open stream that has a row at every place follows their course. -/
theorem follows_course {stream : RowStream} {rows : List Row} (clock : Clock)
    (isOpen : stream.closed = false) (listed : stream.rows.Listed rows) :
    Source.Follows stream clock (stream.course rows clock) := by
  rw [course]
  generalize left : rows.drop stream.produced = pending
  induction pending generalizing stream with
  | nil =>
      have upcoming := nextRow?_of_listed isOpen listed
      rw [left] at upcoming
      obtain ⟨after, closed, closes⟩ := run_close_of_open isOpen clock
      have ends : Source.pull.Ends stream clock
          (closingAt stream.started clock.reading >>= fun _ => .error Fault.ended) after
          clock.advance := by
        intro journal
        refine ⟨journal, ?_⟩
        show pull.run ⟨stream, clock, journal⟩ = _
        simp only [pull, Action.run_bind, Action.run_present, Action.run_ofExcept, upcoming,
          List.head?_nil, closes journal]
        cases closingAt stream.started clock.reading <;> rfl
      have closesNow := closes_of_open isOpen clock
      have spent := follows_spent closed clock.advance
      have plain := plainly_closingAt stream.started clock.reading
      cases closing : closingAt stream.started clock.reading with
      | ok =>
          rw [closing] at ends closesNow
          exact .ended closesNow ends spent.closes
      | error fault =>
          rw [closing] at ends closesNow
          exact .failure closesNow ends (plain fault closing).1 spent
  | cons row pending ih =>
      have upcoming := nextRow?_of_listed isOpen listed
      rw [left] at upcoming
      have closesNow := closes_of_open isOpen clock
      have rest : rows.drop (stream.produced + 1) = pending := by
        rw [← List.tail_drop, left]
        rfl
      have ends : Source.pull.Ends stream clock ((row.toRecord stream.keys).map some)
          { stream with produced := stream.produced + 1 } clock := by
        intro journal
        refine ⟨journal, ?_⟩
        show pull.run ⟨stream, clock, journal⟩ = _
        simp only [pull, Action.run_bind, Action.run_present, Action.run_ofExcept, upcoming,
          List.head?_cons, Action.run_change]
        cases row.toRecord stream.keys <;> rfl
      have continued := @ih { stream with produced := stream.produced + 1 } isOpen listed rest
      rw [courseOf]
      cases made : row.toRecord stream.keys with
      | ok record =>
          rw [made] at ends
          exact .item closesNow ends continued
      | error fault =>
          rw [made] at ends
          exact .failure closesNow ends (row.plainly_toRecord stream.keys fault made).1 continued

theorem lasting_of_close (scene : Scene RowStream) :
    (close.run scene).2.state.summary.lasting = scene.state.summary.lasting := by
  obtain ⟨stream, clock, journal⟩ := scene
  cases closed : stream.closed with
  | true => rw [run_close_of_closed closed]
  | false =>
      simp only [close, Action.run_bind, Action.run_present, closed]
      cases measured : stream.started.millisecondsBetween clock.reading <;>
        simp [Scene.withState, measured, Summary.lasting]

/-- Only the time that the records took is entered while they are read. -/
theorem steady_lasting : Source.Steady fun stream : RowStream => stream.summary.lasting := by
  intro scene
  refine ⟨?_, lasting_of_close scene⟩
  show (pull.run scene).2.state.summary.lasting = _
  simp only [pull, Action.run_bind, Action.run_present, Action.run_ofExcept]
  rcases scene.state.nextRow? with fault | _ | row
  · rfl
  · have closing := lasting_of_close scene
    rcases closed : close.run scene with ⟨_ | _, after⟩
    · simpa [closed] using closing
    · simpa [closed] using closing
  · simp only [Action.run_bind, Action.run_change, Action.run_ofExcept]
    cases row.toRecord scene.state.keys <;> rfl

end RowStream

end QueryCursor
