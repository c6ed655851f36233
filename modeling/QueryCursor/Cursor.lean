import QueryCursor.LookAhead
import QueryCursor.Place

/-!
# Result cursors

A cursor walks the records of a result, one at a time or in bulk.  It starts
before the first record; every successful advance moves it one record forward.
Once a limit is reached, or the records are read in bulk, summarized, or the
cursor is closed, the remaining records are discarded and never reachable again.

A missing record can stand among the records; a cursor that has moved onto one
has no current record.
-/

namespace QueryCursor

/-- A cursor over a source of records of type `ρ`.  The summary is a view of the
source, because the producer of the records completes it while they are read. -/
structure Cursor (σ ρ τ : Type) extends Place ρ where
  ahead : LookAhead σ (Option ρ)
  summary : σ → τ

namespace Cursor

variable {σ ρ τ α : Type}

/-- A cursor before the first record of a source. -/
def ofSource (keys : List Value) (source : σ) (summary : σ → τ) : Cursor σ ρ τ where
  keys := keys
  ahead := { source := source }
  summary := summary

/-- An action on the look-ahead. -/
def onAhead (action : Action (LookAhead σ (Option ρ)) α) : Action (Cursor σ ρ τ) α :=
  .within Cursor.ahead (fun ahead cursor => { cursor with ahead }) action

/-- Reads where the cursor stands. -/
def read (view : Place ρ → Except Fault α) : Action (Cursor σ ρ τ) α := do
  let cursor ← Action.present
  .ofExcept (view cursor.toPlace)

/-- Moves the cursor. -/
def move (step : Place ρ → Place ρ) : Action (Cursor σ ρ τ) Unit :=
  .change fun cursor => { cursor with toPlace := step cursor.toPlace }

/-- Writes a message about the cursor into the journal. -/
def report (text : String) : Action (Cursor σ ρ τ) Unit :=
  .report ⟨"DB.ResultCursor", .debug, text⟩

@[simp] theorem run_onAhead (action : Action (LookAhead σ (Option ρ)) α)
    (scene : Scene (Cursor σ ρ τ)) :
    (onAhead action).run scene =
      ((action.run (scene.withState scene.state.ahead)).1,
        (action.run (scene.withState scene.state.ahead)).2.withState
          { scene.state with
            ahead := (action.run (scene.withState scene.state.ahead)).2.state }) := rfl

@[simp] theorem run_read (view : Place ρ → Except Fault α) (scene : Scene (Cursor σ ρ τ)) :
    (read view).run scene = (view scene.state.toPlace, scene) := rfl

@[simp] theorem run_move (step : Place ρ → Place ρ) (scene : Scene (Cursor σ ρ τ)) :
    (move step).run scene =
      (.ok (), scene.withState { scene.state with toPlace := step scene.state.toPlace }) := rfl

variable [Source σ (Option ρ)]

/-- Gives up the records that are left. -/
def discard : Action (Cursor σ ρ τ) Unit := do
  let cursor ← Action.present
  if !cursor.ahead.exhausted then
    report ("Discarding remaining records at position " ++ toString cursor.position)
  onAhead LookAhead.discard

/-- Whether no record is left. -/
def atEnd : Action (Cursor σ ρ τ) Bool := do
  read Place.requireOpen
  let more ← onAhead LookAhead.hasNext
  return !more

/-- Takes the next record and makes it current; reaching the limit gives up the
rest. -/
def step : Action (Cursor σ ρ τ) Unit := do
  let record ← onAhead LookAhead.next
  move fun place => { place with current := record, position := place.position + 1 }
  let cursor ← Action.present
  if cursor.position = cursor.limit then discard

/-- Moves to the next record.  At the end there is no current record any more,
which is no failure. -/
def next : Action (Cursor σ ρ τ) Bool := do
  read Place.requireOpen
  let more ← onAhead LookAhead.hasNext
  if more then
    step
    return true
  else
    move fun place => { place with current := none }
    return false

/-- Moves forward as often as wanted, unless the records end before; the number
of moves. -/
def skipUpTo : Nat → Action (Cursor σ ρ τ) Nat
  | 0 => return 0
  | wanted + 1 => do
    let moved ← next
    if moved then
      let others ← skipUpTo wanted
      return others + 1
    else return 0

/-- Skips a number of records. -/
def skip (records : Int) : Action (Cursor σ ρ τ) Nat := do
  if records < 0 then throw (Fault.misuse .negativeSkip)
  read Place.requireOpen
  skipUpTo records.toNat

/-- Caps how far the cursor may move from here.  The limit is a position; a limit
of no records gives up all that are left. -/
def setLimit (records : Int) : Action (Cursor σ ρ τ) Int := do
  if records < 0 then throw (Fault.misuse .negativeLimit)
  read Place.requireOpen
  move fun place => { place with limit := place.position + records }
  if records = 0 then discard
  let cursor ← Action.present
  return cursor.limit

/-- The next record, without moving. -/
def peek : Action (Cursor σ ρ τ) (Option ρ) := do
  read Place.requireOpen
  Action.recover (onAhead LookAhead.peek) fun fault =>
    throw (if fault.isStop then .absent .pastLast else fault)

/-- The first record.  A cursor before it moves onto it; one that has left it is
refused. -/
def first : Action (Cursor σ ρ τ) ρ := do
  let position ← read Place.openPosition
  if 1 ≤ position then throw (Fault.absent .leftFirst)
  if position = -1 then
    let moved ← next
    if !moved then throw (Fault.absent .emptyResult)
  read Place.record

/-- The only record. -/
def single : Action (Cursor σ ρ τ) ρ := do
  let record ← first
  let more ← onAhead LookAhead.hasNext
  if more then throw (Fault.absent .several)
  return record

/-- Moves to the next record and gives it; the end is a stop fault. -/
def advance : Action (Cursor σ ρ τ) (Option ρ) := do
  let moved ← next
  if moved then
    let cursor ← Action.present
    return cursor.current
  else throw Fault.ended

/-- Closes the cursor after giving up what is left. -/
def close : Action (Cursor σ ρ τ) Unit := do
  let cursor ← Action.present
  if !cursor.isOpen then throw (Fault.misuse .alreadyClosed)
  discard
  move fun place => { place with isOpen := false }
  let cursor ← Action.present
  report ("Cursor closed at position " ++ toString cursor.position)

/-- Closes the cursor unless it is closed. -/
def leave : Action (Cursor σ ρ τ) Unit := do
  let cursor ← Action.present
  if cursor.isOpen then close

theorem exhausted_of_run_discard (scene : Scene (Cursor σ ρ τ)) :
    (discard.run scene).2.state.ahead.stage = .exhausted := by
  obtain ⟨⟨place, ⟨source, stage⟩, summary⟩, clock, journal⟩ := scene
  cases stage <;> rfl

theorem remaining_lt_of_step {before after : Scene (Cursor σ ρ τ)}
    (moved : step.run before = (.ok (), after)) :
    after.state.ahead.remaining < before.state.ahead.remaining := by
  simp only [step, Action.run_bind, run_onAhead] at moved
  rcases taken : LookAhead.next.run (before.withState before.state.ahead) with ⟨_ | record, scene⟩
  · simp [taken] at moved
  · have less := LookAhead.remaining_lt_of_next taken
    simp only [taken, run_move, Action.run_present] at moved
    split at moved
    · have ended := congrArg (fun outcome => outcome.2.state.ahead.stage) moved
      simp only [exhausted_of_run_discard] at ended
      simp only [LookAhead.remaining, ← ended]
      exact Nat.zero_lt_of_lt less
    · obtain ⟨rfl⟩ := (Prod.mk.inj moved).2
      exact less

/-- Every move of a cursor leaves fewer records, so every walk ends. -/
theorem remaining_lt_of_next {before after : Scene (Cursor σ ρ τ)}
    (moved : next.run before = (.ok true, after)) :
    after.state.ahead.remaining < before.state.ahead.remaining := by
  simp only [next, Action.run_bind, run_read, run_onAhead] at moved
  cases opened : before.state.requireOpen with
  | error fault => simp [opened] at moved
  | ok =>
    rcases looked : LookAhead.hasNext.run (before.withState before.state.ahead) with ⟨_ | more, scene⟩
    · simp [opened, looked] at moved
    · have noMore := LookAhead.remaining_le_of_hasNext looked
      cases more with
      | false => simp [opened, looked, Except.map] at moved
      | true =>
        simp only [opened, looked, if_true, Action.run_bind] at moved
        split at moved
        next last stepped =>
          obtain ⟨rfl⟩ := (Prod.mk.inj moved).2
          exact Nat.lt_of_lt_of_le (remaining_lt_of_step stepped) noMore
        · simp at moved

/-- Applies a mapping on the current record and on every one after it, each time
with the cursor on that record. -/
def gatherFrom (map : Place ρ → Except Fault α) (scene : Scene (Cursor σ ρ τ)) :
    Except Fault (List α) × Scene (Cursor σ ρ τ) :=
  match scene.state.current with
  | none => (.ok [], scene)
  | some _ =>
    match map scene.state.toPlace with
    | .error fault => (.error fault, scene)
    | .ok value =>
      match _ : next.run scene with
      | (.ok true, after) =>
        let (rest, last) := gatherFrom map after
        (rest.map (value :: ·), last)
      | (.ok false, after) => (.ok [value], after)
      | (.error fault, after) => (.error fault, after)
termination_by scene.state.ahead.remaining
decreasing_by exact remaining_lt_of_next ‹_›

/-- Reads on from the current record and gives up what is left. -/
def gather (map : Place ρ → Except Fault α) : Action (Cursor σ ρ τ) (List α) := do
  let values ← (⟨gatherFrom map⟩ : Action (Cursor σ ρ τ) (List α))
  discard
  return values

/-- Reads all remaining records through a mapping, which is called in a coroutine.  Only a
cursor before or on the first record allows it. -/
def list (map : Place ρ → Except Fault α) : Action (Cursor σ ρ τ) (List α) := do
  read Place.requireOpen
  let cursor ← Action.present
  if cursor.position = -1 then
    let more ← onAhead LookAhead.hasNext
    if more then
      let _ ← next
      gather (Place.inCoroutine map)
    else return []
  else if cursor.position = 0 then gather (Place.inCoroutine map)
  else throw (Fault.misuse (.notAtFirst cursor.position))

/-- Moves past the last record. -/
def drainFrom (scene : Scene (Cursor σ ρ τ)) : Except Fault Unit × Scene (Cursor σ ρ τ) :=
  match _ : next.run scene with
  | (.ok true, after) => drainFrom after
  | (.ok false, after) => (.ok (), after)
  | (.error fault, after) => (.error fault, after)
termination_by scene.state.ahead.remaining
decreasing_by exact remaining_lt_of_next ‹_›

/-- Moves past the last record and gives the summary, which is final then. -/
def summarize : Action (Cursor σ ρ τ) τ := do
  (⟨drainFrom⟩ : Action (Cursor σ ρ τ) Unit)
  discard
  let cursor ← Action.present
  return cursor.summary cursor.ahead.source

theorem remaining_lt_of_advance {before after : Scene (Cursor σ ρ τ)} {record : Option ρ}
    (taken : advance.run before = (.ok record, after)) :
    after.state.ahead.remaining < before.state.ahead.remaining := by
  simp only [advance, Action.run_bind] at taken
  rcases moved : next.run before with ⟨_ | more, scene⟩
  · simp [moved] at taken
  · cases more with
    | false => simp [moved] at taken
    | true =>
      simp only [moved, if_true, Action.run_bind, Action.run_present] at taken
      obtain ⟨rfl⟩ := (Prod.mk.inj taken).2
      exact remaining_lt_of_next moved

instance : Source (Cursor σ ρ τ) (Option ρ) where
  pull := advance
  release := pure ()
  remaining cursor := cursor.ahead.remaining
  remaining_lt_of_pull := remaining_lt_of_advance

end Cursor

end QueryCursor
