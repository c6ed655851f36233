import QueryCursor.Session
import QueryCursor.Proofs.Draining
import QueryCursor.Proofs.Refinement
import QueryCursor.Proofs.Tables
import QueryCursor.Proofs.Timing

/-!
# Results of a table

The driver in memory answers a statement with a cursor over the rows that its table has
for it.  Such a cursor reads one record for each row, as a reader does that has all of
them at hand, and it never fails to make one.  Between its operations the clock can go
on: that does not change what it still reads.
-/

namespace QueryCursor

/-- What the driver in memory has for a statement: the rows, the time when it was run,
and what its summary tells from then on. -/
structure Result where
  statement : Value
  parameters : Entries
  server : Value
  rows : List Entries
  started : Double

namespace Result

variable (result : Result)

/-- The columns: the keys of the first row. -/
def columns : List Value := Row.columnsOf result.rows

/-- The records, one for each row. -/
def records : List Record := result.rows.map (Row.recordOf result.columns)

/-- The summary, without the time that the records took. -/
def summary : Summary where
  statement := result.statement
  parameters := result.parameters
  server := result.server
  availableAfter := .int 0

/-- The stream of the records. -/
def stream : RowStream where
  keys := result.columns
  rows := .sequence (result.rows.map Row.mapping)
  started := result.started
  summary := result.summary

/-- The cursor that the driver gives. -/
def cursor : RowCursor := .ofSource result.columns result.stream RowStream.summary

/-- A reader of the records, before the first one. -/
def reader : Scene Reader := ⟨{ keys := result.columns }, {}, []⟩

/-- An operation of a reader of the records. -/
abbrev read (operation : CursorOperation) : Action Reader (CursorAnswer Summary) :=
  Reader.perform result.records result.summary operation

/-- The reader after operations. -/
def readerAfter (operations : List CursorOperation) (mirror : Scene Reader) : Scene Reader :=
  operations.foldl (fun mirror operation => ((result.read operation).run mirror).2) mirror

end Result

/-! ## Reading to the end -/

theorem Reader.faultFree_course (records : List Record) (reader : Reader) :
    Cursor.FaultFree (reader.course records) := by
  unfold course
  split
  · exact .spent
  · exact Cursor.faultFree_ofItems _

namespace Cursor

variable {σ τ : Type} [Source σ (Option Record)] {scene last : Scene (Cursor σ Record τ)}
  {mirror : Scene Reader} {records left : List Record} {outcome : Except Fault Unit}

/-- From an open cursor with no limit all ways to the end pass the records that are left,
each of them once and in order, and none of them fails. -/
theorem Mirrors.drains (mirrors : Mirrors records scene mirror)
    (currentInvariant : CurrentInvariant scene)
    (isOpen : mirror.state.isOpen = true) (noLimit : mirror.state.limit = -1)
    (kept : mirror.state.discarded = false) :
    ∃ last, Drains scene (mirror.state.course records)
      (records.drop (mirror.state.position + 1).toNat) (.ok ()) last := by
  have same := mirrors.toPlace_eq
  have opened : scene.state.isOpen = true := (congrArg Place.isOpen same).trans isOpen
  have stands : HasCourse scene scene.state.toPlace (mirror.state.course records) :=
    ⟨rfl, mirrors.hasCourse.leaves⟩
  have faultFree := Reader.faultFree_course records mirror.state
  have wellFormed := faultFree.wellFormed
  obtain ⟨left, outcome, last, walk⟩ := exists_walk stands opened wellFormed
  obtain rfl := walk.outcome_of_faultFree stands opened faultFree
  obtain ⟨reached, -, -⟩ := walk.of_ok mirrors.hasCourse isOpen wellFormed
  have beyond : ¬mirror.state.position < mirror.state.limit := by
    have start_le := mirrors.start_le
    omega
  have course : mirror.state.course records =
      .ofItems ((records.drop (mirror.state.position + 1).toNat).map some) := by
    simp [Reader.course, kept]
  have all : left = records.drop (mirror.state.position + 1).toNat := by
    rw [Place.reachable, if_neg beyond, course, Course.items_ofItems] at reached
    exact (List.map_inj_right fun _ _ => Option.some.inj).mp reached
  subst all
  exact ⟨last, walk.drains stands opened wellFormed currentInvariant⟩

end Cursor

/-- Asked for one record after the other, a reader with no limit gives the records that are
left, and then only signals of the end. -/
theorem Reader.runAll_advance {υ : Type} (given : υ) (count : Nat) {records left : List Record}
    {mirror : Scene Reader} (isOpen : mirror.state.isOpen = true)
    (noLimit : mirror.state.limit = -1) (kept : mirror.state.discarded = false)
    (start_le : -1 ≤ mirror.state.position)
    (leaves : records.drop (mirror.state.position + 1).toNat = left) :
    (Action.runAll (List.replicate count (Reader.perform records given .advance))
        mirror).map Prod.fst =
      ((left.take count).map fun record => .ok (.value record.toValue)) ++
        List.replicate (count - left.length) (.error Fault.ended) := by
  induction count generalizing left mirror with
  | zero => simp [Action.runAll]
  | succ count ih =>
      have upcoming : mirror.state.upcoming? records = left.head? := by
        simp [upcoming?, kept, ← leaves]
      cases left with
      | nil =>
          have moved := run_next_of_none isOpen upcoming
          have ended : (Reader.perform records given .advance).run mirror =
              (.error Fault.ended, mirror.withState mirror.state.cleared) := by
            rw [Reader.perform, answering, advance, Action.run_bind, Action.run_bind, moved]
            rfl
          have others := @ih [] (mirror.withState mirror.state.cleared) isOpen noLimit kept
            start_le leaves
          rw [List.replicate_succ, Action.runAll, ended]
          simpa [List.replicate_succ] using others
      | cons record rest =>
          have moved := run_next_of_some isOpen upcoming
          have passed : (Reader.perform records given .advance).run mirror =
              (.ok (.value record.toValue), mirror.withState (mirror.state.onto record)) := by
            rw [Reader.perform, answering, advance, Action.run_bind, Action.run_bind, moved]
            rfl
          have stillKept : (mirror.state.onto record).discarded = false := by
            have beyond : mirror.state.position + 1 ≠ mirror.state.limit := by omega
            simp [onto, kept, beyond]
          have following : records.drop (mirror.state.position + 1 + 1).toNat = rest := by
            have next : (mirror.state.position + 1 + 1).toNat =
                (mirror.state.position + 1).toNat + 1 := by omega
            rw [next, ← List.tail_drop, leaves]
            rfl
          have later_le : -1 ≤ mirror.state.position + 1 := by omega
          have others := @ih rest (mirror.withState (mirror.state.onto record)) isOpen noLimit
            stillKept later_le following
          rw [List.replicate_succ, Action.runAll, passed]
          simpa using others

/-- One by one, a reader of a result gets a record for each of its rows. -/
theorem Result.runAll_advance (result : Result) (count : Nat) :
    (Action.runAll (List.replicate count (result.read .advance)) result.reader).map Prod.fst =
      ((result.records.take count).map fun record => .ok (.value record.toValue)) ++
        List.replicate (count - result.rows.length) (.error Fault.ended) := by
  have all : result.records.drop (result.reader.state.position + 1).toNat = result.records := rfl
  have same : result.records.length = result.rows.length := List.length_map _
  have given := Reader.runAll_advance result.summary count rfl rfl rfl (Int.le_refl (-1)) all
  rw [same] at given
  exact given

/-! ## Reading a result -/

/-- A cursor reads a result where a reader of its records would: it has the same records
before it, its summary is that of the result, and it is on time. -/
structure Result.Reads (result : Result) (scene : Scene RowCursor) (mirror : Scene Reader) :
    Prop where
  keys_eq : scene.state.keys = result.columns
  summary_eq : scene.state.summary = RowStream.summary
  mirrors : Cursor.Mirrors result.records scene mirror
  shows : Cursor.Shows Summary.lasting result.summary scene
  timing : RowStream.TimingInvariant result.columns (result.rows.map Row.mapping) result.started
    scene.state.ahead scene.clock
  currentInvariant : Cursor.CurrentInvariant scene

/-- What a cursor owes to the result it is over, where a reader of the records would be. -/
structure Result.Serves (result : Result) (scene : Scene RowCursor) (reader : Reader) : Prop where
  place_eq : scene.state.toPlace = reader.toPlace
  keys_eq : scene.state.keys = result.columns
  columns_eq : ∀ record ∈ result.records, record.columns = scene.state.keys
  /-- The summary is the one that was made when the statement was run. -/
  summary_eq : scene.state.summaryNow.lasting = result.summary
  closed_iff : scene.state.ahead.source.closed = true ↔ scene.state.ahead.stage = .exhausted
  /-- The time that the records took is entered when the stream is closed, and not before. -/
  time_of_open : scene.state.ahead.source.closed = false →
    scene.state.summaryNow.consumedAfter = .null
  time_of_closed : scene.state.ahead.source.closed = true →
    ∃ elapsed : Int, scene.state.summaryNow.consumedAfter = .int elapsed
  /-- Without a limit, every way to the end passes the records that are left. -/
  drains : reader.isOpen = true → reader.limit = -1 → reader.discarded = false →
    ∃ last, Cursor.Drains scene (reader.course result.records)
      (result.records.drop (reader.position + 1).toNat) (.ok ()) last

namespace Result.Reads

open Cursor

variable {result : Result} {scene : Scene RowCursor} {mirror : Scene Reader} {clock : Clock}

theorem start (hashable : ∀ column ∈ result.columns, ∃ code, column.hash = .ok code)
    (timely : clock.Timely result.started) (journal : List Message) :
    result.Reads ⟨result.cursor, clock, journal⟩ result.reader where
  keys_eq := rfl
  summary_eq := rfl
  mirrors := by
    have listed : result.stream.rows.Listed (result.rows.map Row.mapping) :=
      Rows.listed_sequence _
    have onTime : clock.Timely result.stream.started := timely
    have upcoming : result.stream.course (result.rows.map Row.mapping) clock =
        .ofItems (result.records.map some) := by
      rw [RowStream.course_of_timely _ onTime]
      exact Row.courseOf_mappings result.rows hashable
    have follows : Source.Follows result.stream clock (.ofItems (result.records.map some)) := by
      rw [← upcoming]
      exact RowStream.follows_course clock rfl listed
    exact ⟨.ofSource journal follows, Int.le_refl _⟩
  shows := ⟨RowStream.steady_lasting, rfl⟩
  timing := ⟨rfl, rfl, rfl, timely, rfl, rfl⟩
  currentInvariant := .ofSource ..

theorem perform (reads : result.Reads scene mirror) (operation : CursorOperation) :
    result.Reads ((Cursor.perform operation).run scene).2
      ((result.read operation).run mirror).2 where
  keys_eq := by
    have kept (move : Move) (later : Scene RowCursor) (allowed : move.Allowed later.state)
        (same : later.state.keys = result.columns) :
        (move.action.run later).2.state.keys = result.columns :=
      (keys_of_move move later allowed).trans same
    exact (trail_of_perform operation scene).keeps kept reads.keys_eq
  summary_eq := (Progress.sceneAfter [operation] scene).summary_eq.trans reads.summary_eq
  mirrors := (Mirrors.perform result.summary operation scene mirror reads.mirrors).2
  shows := reads.shows.perform operation
  timing := upholds_perform RowStream.TimingInvariant.upholds operation scene reads.timing
  currentInvariant := by
    have recordsOnly : RecordsOnly scene :=
      ⟨_, _, reads.mirrors.hasCourse,
        (Reader.faultFree_course result.records mirror.state).wellFormed⟩
    have trail := trail_of_perform operation scene
    exact (trail.keeps CurrentInvariant.move ⟨recordsOnly, reads.currentInvariant⟩).2

theorem observe_eq (reads : result.Reads scene mirror) (operation : CursorOperation) :
    observe Summary.lasting ((Cursor.perform operation).run scene) =
      Reader.observe ((result.read operation).run mirror) :=
  reads.mirrors.observe_eq reads.shows operation

/-- The clock can go on, and the journal, too. -/
theorem at_clock (reads : result.Reads scene mirror) (timely : clock.Timely result.started)
    (journal : List Message) : result.Reads ⟨scene.state, clock, journal⟩ mirror where
  keys_eq := reads.keys_eq
  summary_eq := reads.summary_eq
  mirrors := by
    obtain ⟨⟨place_eq, leaves⟩, start_le⟩ := reads.mirrors
    exact ⟨⟨place_eq, reads.timing.leaves_at_clock timely leaves⟩, start_le⟩
  shows := reads.shows
  timing := reads.timing.at_clock timely
  currentInvariant :=
    ⟨reads.currentInvariant.start_le, reads.currentInvariant.unmoved,
      reads.currentInvariant.exhausted⟩

/-- The time that the records took is entered when the stream is closed, which is when the
rest was given up or found to be none. -/
theorem time_cases (reads : result.Reads scene mirror) :
    (scene.state.ahead.stage ≠ .exhausted ∧ scene.state.ahead.source.closed = false ∧
      scene.state.summaryNow.consumedAfter = .null) ∨
    (scene.state.ahead.stage = .exhausted ∧ scene.state.ahead.source.closed = true ∧
      ∃ elapsed : Int, scene.state.summaryNow.consumedAfter = .int elapsed) := by
  rw [summaryNow, reads.summary_eq]
  by_cases exhausted : scene.state.ahead.stage = .exhausted
  · exact .inr ⟨exhausted, reads.timing.exhausted exhausted⟩
  · exact .inl ⟨exhausted, reads.timing.left exhausted⟩

theorem serves (reads : result.Reads scene mirror) : result.Serves scene mirror.state where
  place_eq := reads.mirrors.toPlace_eq
  keys_eq := reads.keys_eq
  columns_eq := by
    intro record member
    obtain ⟨row, _, rfl⟩ := List.mem_map.mp member
    rw [Row.columns_recordOf, reads.keys_eq]
  summary_eq := reads.shows.2
  closed_iff := by
    rcases reads.time_cases with ⟨left, isOpen, _⟩ | ⟨exhausted, closed, _⟩
    · simp [left, isOpen]
    · simp [exhausted, closed]
  time_of_open := by
    intro isOpen
    rcases reads.time_cases with ⟨_, _, time⟩ | ⟨_, closed, _⟩
    · exact time
    · cases closed.symm.trans isOpen
  time_of_closed := by
    intro closed
    rcases reads.time_cases with ⟨_, isOpen, _⟩ | ⟨_, _, time⟩
    · cases isOpen.symm.trans closed
    · exact time
  drains := reads.mirrors.drains reads.currentInvariant

end Result.Reads

end QueryCursor
