import QueryCursor.Rows
import QueryCursor.Source
import QueryCursor.Summary

/-!
# Row streams

A row stream makes records of the rows of a table, one at a time, and completes
the summary of the result: the time until the stream was over is entered when
the rows run out or the stream is released, whichever comes first, and never
changed afterwards.
-/

namespace QueryCursor

namespace Double

/-- The whole milliseconds between two readings of a clock in seconds, rounded
toward zero. -/
def millisecondsBetween (start stop : Double) : Except Fault Int :=
  match ((stop.sub start).scale 1000).quantity with
  | .finite value => .ok (value.num.tdiv value.den)
  | .infinite _ => .error .infiniteDuration
  | .nan _ => .error .undefinedDuration

end Double

/-- The rows of a result on their way to a cursor. -/
structure RowStream where
  keys : List Value
  rows : Rows
  started : Double
  summary : Summary
  produced : Nat := 0
  closed : Bool := false

namespace RowStream

/-- Opens a stream over rows: the result is available at once. -/
def start {σ : Type} (keys : List Value) (rows : Rows) (summary : Summary) :
    Action σ RowStream := do
  let started ← Action.readClock
  return { keys, rows, started, summary := { summary with availableAfter := .int 0 } }

/-- Closes the stream and enters the time it took, once. -/
def close : Action RowStream Unit := do
  let stream ← Action.present
  if stream.closed then return ()
  else
    Action.change fun stream => { stream with closed := true }
    let now ← Action.readClock
    let elapsed ← Action.ofExcept (stream.started.millisecondsBetween now)
    Action.change fun stream =>
      { stream with summary := { stream.summary with consumedAfter := .int elapsed } }

/-- The row that comes next; a closed stream has none. -/
def nextRow? (stream : RowStream) : Except Fault (Option Row) :=
  if stream.closed then .ok none else stream.rows.at? stream.produced

/-- Produces the record of the next row; past the last one the stream closes. -/
def pull : Action RowStream (Option Record) := do
  let stream ← Action.present
  let upcoming ← Action.ofExcept stream.nextRow?
  match upcoming with
  | none =>
    close
    throw Fault.ended
  | some row =>
    Action.change fun stream => { stream with produced := stream.produced + 1 }
    let record ← Action.ofExcept (row.toRecord stream.keys)
    return some record

/-- The number of rows not yet produced. -/
def remaining (stream : RowStream) : Nat := stream.rows.size - stream.produced

theorem remaining_lt_of_pull {before after : Scene RowStream} {record : Option Record}
    (step : pull.run before = (.ok record, after)) :
    after.state.remaining < before.state.remaining := by
  simp only [pull, Action.run_bind, Action.run_present, Action.run_ofExcept] at step
  rcases upcoming : before.state.nextRow? with _ | _ | row
  · simp [upcoming] at step
  · simp only [upcoming, Action.run_bind] at step
    rcases closing : close.run before with ⟨_ | _, scene⟩ <;> simp [closing] at step
  · simp only [upcoming, Action.run_bind, Action.run_change, Action.run_ofExcept] at step
    cases made : row.toRecord before.state.keys with
    | error fault => simp [made] at step
    | ok made' =>
      simp only [made, Action.run_pure] at step
      obtain ⟨rfl⟩ := (Prod.mk.inj step).2
      have inside : before.state.produced < before.state.rows.size := by
        unfold nextRow? at upcoming
        split at upcoming
        · simp at upcoming
        · exact Rows.lt_size_of_at? upcoming
      simp only [remaining, Scene.state_withState]
      omega

instance : Source RowStream (Option Record) where
  pull := pull
  release := close
  remaining := remaining
  remaining_lt_of_pull := remaining_lt_of_pull

end RowStream

end QueryCursor
