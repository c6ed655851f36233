import QueryCursor.Cursor.Operation

/-!
# Readers

A reader is what a cursor would be if all records were at hand: it has a place
among them and remembers whether the rest was discarded, but it neither holds a
record in advance nor has a source to release.
-/

namespace QueryCursor

/-- A place among records that are all known. -/
structure Reader extends Place Record where
  discarded : Bool := false

namespace Reader

variable {α : Type}

/-- The record after the current one, unless the rest was discarded. -/
def upcoming? (records : List Record) (reader : Reader) : Option Record :=
  if reader.discarded then none else records[(reader.position + 1).toNat]?

/-- Reads where the reader stands. -/
def read (view : Place Record → Except Fault α) : Action Reader α := do
  let reader ← Action.present
  .ofExcept (view reader.toPlace)

/-- Moves the reader. -/
def move (step : Place Record → Place Record) : Action Reader Unit :=
  .change fun reader => { reader with toPlace := step reader.toPlace }

/-- Discards the rest. -/
def discard : Action Reader Unit := .change fun reader => { reader with discarded := true }

/-- Whether a record is left. -/
def hasNext (records : List Record) : Action Reader Bool := do
  let reader ← Action.present
  return (reader.upcoming? records).isSome

def atEnd (records : List Record) : Action Reader Bool := do
  read Place.requireOpen
  let more ← hasNext records
  return !more

/-- Moves to the next record, and discards the rest when that reaches the limit.
Where none is left there is no current record any more. -/
def next (records : List Record) : Action Reader Bool := do
  read Place.requireOpen
  let reader ← Action.present
  match reader.upcoming? records with
  | some record =>
      move fun place => { place with current := some record, position := place.position + 1 }
      if reader.position + 1 = reader.limit then discard
      return true
  | none =>
      move fun place => { place with current := none }
      return false

/-- The reader on one more record. -/
def onto (reader : Reader) (record : Record) : Reader :=
  { reader with
    current := some record
    position := reader.position + 1
    discarded := reader.discarded || decide (reader.position + 1 = reader.limit) }

/-- The reader without a current record. -/
def cleared (reader : Reader) : Reader := { reader with current := none }

section Runs

variable {records : List Record} {scene : Scene Reader}

@[simp] theorem run_read (view : Place Record → Except Fault α) (scene : Scene Reader) :
    (read view).run scene = (view scene.state.toPlace, scene) := rfl

theorem run_next_of_closed (closed : scene.state.isOpen = false) :
    (next records).run scene = (.error (.misuse .closed), scene) := by
  simp [next, Place.requireOpen, closed]

theorem run_next_of_none (isOpen : scene.state.isOpen = true)
    (upcoming : scene.state.upcoming? records = none) :
    (next records).run scene = (.ok false, scene.withState scene.state.cleared) := by
  have opened : scene.state.toPlace.requireOpen = .ok () := if_pos isOpen
  simp only [next, Action.run_bind, run_read, opened, Action.run_present, upcoming, move,
    Action.run_change]
  rfl

theorem run_next_of_some (isOpen : scene.state.isOpen = true) {record : Record}
    (upcoming : scene.state.upcoming? records = some record) :
    (next records).run scene = (.ok true, scene.withState (scene.state.onto record)) := by
  have opened : scene.state.toPlace.requireOpen = .ok () := if_pos isOpen
  simp only [next, Action.run_bind, run_read, opened, Action.run_present, upcoming, move,
    Action.run_change, onto]
  by_cases atLimit : scene.state.position + 1 = scene.state.limit
  · simp only [atLimit, if_true, discard, Action.run_bind, Action.run_change]
    simp
    rfl
  · simp [atLimit]

end Runs

/-- Moves forward as often as wanted, unless the records end before; the records
that became current. -/
def forward (records : List Record) : Nat → Action Reader (List Record)
  | 0 => return []
  | wanted + 1 => do
    let moved ← next records
    if moved then
      let reader ← Action.present
      let others ← forward records wanted
      return reader.current.toList ++ others
    else return []

/-- Moves to the end: as often as there are records, and once more. -/
def drain (records : List Record) : Action Reader (List Record) :=
  forward records (records.length + 1)

section Runs

variable {records : List Record} {scene : Scene Reader}

theorem run_forward_of_closed (closed : scene.state.isOpen = false) (wanted : Nat) :
    (forward records (wanted + 1)).run scene = (.error (.misuse .closed), scene) := by
  rw [forward, Action.run_bind, run_next_of_closed closed]

theorem run_forward_of_none (isOpen : scene.state.isOpen = true)
    (upcoming : scene.state.upcoming? records = none) (wanted : Nat) :
    (forward records (wanted + 1)).run scene =
      (.ok [], scene.withState scene.state.cleared) := by
  rw [forward, Action.run_bind, run_next_of_none isOpen upcoming]
  rfl

theorem run_forward_of_some (isOpen : scene.state.isOpen = true) {record : Record}
    (upcoming : scene.state.upcoming? records = some record) (wanted : Nat) :
    (forward records (wanted + 1)).run scene =
      let others := (forward records wanted).run (scene.withState (scene.state.onto record))
      (others.1.map (record :: ·), others.2) := by
  rw [forward, Action.run_bind, run_next_of_some isOpen upcoming]
  simp only [if_true, Action.run_bind, Action.run_present]
  rcases (forward records wanted).run (scene.withState (scene.state.onto record)) with
    ⟨_ | _, after⟩ <;> rfl

end Runs

def skip (records : List Record) (count : Int) : Action Reader Nat := do
  if count < 0 then throw (Fault.misuse .negativeSkip)
  read Place.requireOpen
  let passed ← forward records count.toNat
  return passed.length

def setLimit (count : Int) : Action Reader Int := do
  if count < 0 then throw (Fault.misuse .negativeLimit)
  read Place.requireOpen
  move fun place => { place with limit := place.position + count }
  if count = 0 then discard
  let reader ← Action.present
  return reader.limit

def peek (records : List Record) : Action Reader Record := do
  read Place.requireOpen
  let reader ← Action.present
  match reader.upcoming? records with
  | some record => return record
  | none => throw (Fault.absent .pastLast)

theorem run_peek_of_closed {records : List Record} {scene : Scene Reader}
    (closed : scene.state.isOpen = false) :
    (peek records).run scene = (.error (.misuse .closed), scene) := by
  simp [peek, Place.requireOpen, closed]

theorem run_peek_of_open {records : List Record} {scene : Scene Reader}
    (isOpen : scene.state.isOpen = true) :
    (peek records).run scene =
      (match scene.state.upcoming? records with
        | some record => .ok record
        | none => .error (.absent .pastLast), scene) := by
  simp only [peek, Action.run_bind, run_read, Place.requireOpen, isOpen, if_true,
    Action.run_present]
  cases scene.state.upcoming? records <;> rfl

def first (records : List Record) : Action Reader Record := do
  let position ← read Place.openPosition
  if 1 ≤ position then throw (Fault.absent .leftFirst)
  if position = -1 then
    let moved ← next records
    if !moved then throw (Fault.absent .emptyResult)
  read Place.record

def single (records : List Record) : Action Reader Record := do
  let record ← first records
  let more ← hasNext records
  if more then throw (Fault.absent .several)
  return record

/-- Maps from the current record on, up to a number of records. -/
def gather (records : List Record) (map : Place Record → Except Fault α) :
    Nat → Action Reader (List α)
  | 0 => return []
  | count + 1 => do
    let reader ← Action.present
    if reader.current.isNone then return []
    let value ← .ofExcept (map reader.toPlace)
    let _ ← next records
    let others ← gather records map count
    return value :: others

section Runs

variable {records : List Record} {map : Place Record → Except Fault α} {scene : Scene Reader}

theorem run_gather_of_none (noRecord : scene.state.current = none) (count : Nat) :
    (gather records map count).run scene = (.ok [], scene) := by
  cases count with
  | zero => rfl
  | succ count =>
      rw [gather, Action.run_bind, Action.run_present]
      simp [noRecord]

theorem run_gather_of_error {record : Record} {fault : Fault}
    (current : scene.state.current = some record)
    (failed : map scene.state.toPlace = .error fault) (count : Nat) :
    (gather records map (count + 1)).run scene = (.error fault, scene) := by
  rw [gather, Action.run_bind, Action.run_present]
  simp [current, failed]

theorem run_gather_of_ok {record : Record} {value : α}
    (current : scene.state.current = some record)
    (mapped : map scene.state.toPlace = .ok value) (count : Nat) :
    (gather records map (count + 1)).run scene =
      match (next records).run scene with
      | (.ok _, after) =>
          (((gather records map count).run after).1.map (value :: ·),
            ((gather records map count).run after).2)
      | (.error fault, after) => (.error fault, after) := by
  rw [gather, Action.run_bind, Action.run_present]
  simp only [current, Option.isNone_some, Bool.false_eq_true, if_false, Action.run_bind,
    Action.run_ofExcept, mapped]
  rcases (next records).run scene with ⟨_ | moved, after⟩
  · rfl
  · simp only
    rcases (gather records map count).run after with ⟨_ | _, last⟩ <;> rfl

end Runs

/-- Maps from the current record on, and discards the rest. -/
def gatherAll (records : List Record) (map : Place Record → Except Fault α) :
    Action Reader (List α) := do
  let values ← gather records map (records.length + 1)
  discard
  return values

def list (records : List Record) (map : Place Record → Except Fault α) :
    Action Reader (List α) := do
  read Place.requireOpen
  let reader ← Action.present
  if reader.position = -1 then
    let more ← hasNext records
    if more then
      let _ ← next records
      gatherAll records (Place.inCoroutine map)
    else return []
  else if reader.position = 0 then gatherAll records (Place.inCoroutine map)
  else throw (Fault.misuse (.notAtFirst reader.position))

def advance (records : List Record) : Action Reader (Option Record) := do
  let moved ← next records
  if moved then
    let reader ← Action.present
    return reader.current
  else throw Fault.ended

/-- Walking over no records at all is possible everywhere. -/
def collect (records : List Record) : Option Nat → Action Reader (List Record)
  | none => drain records
  | some bound => forward records bound

def close : Action Reader Unit := do
  let reader ← Action.present
  if !reader.isOpen then throw (Fault.misuse .alreadyClosed)
  discard
  move fun place => { place with isOpen := false }

def leave : Action Reader Unit := do
  let reader ← Action.present
  if reader.isOpen then close

/-- Answers with a value that is made of the result of an action. -/
def answering {τ : Type} (action : Action Reader α) (make : α → Value) :
    Action Reader (CursorAnswer τ) := do
  let result ← action
  return .value (make result)

/-- Performs an operation of a cursor whose summary is known. -/
def perform {τ : Type} (records : List Record) (summary : τ) :
    CursorOperation → Action Reader (CursorAnswer τ)
  | .next => answering (next records) .bool
  | .skip count => answering (skip records count) fun count => .int count
  | .limit count => answering (setLimit count) .int
  | .peek => answering (peek records) Record.toValue
  | .atEnd => answering (atEnd records) .bool
  | .record => answering (read Place.recordValue) id
  | .position => answering (read Place.positionValue) id
  | .first key => do
    let record ← first records
    answering (.ofExcept (Cursor.select key record)) id
  | .single key => do
    let record ← single records
    answering (.ofExcept (Cursor.select key record)) id
  | .list map => answering (list records map) .list
  | .summarize => do
    let _ ← drain records
    discard
    return .summary summary
  | .close => answering close fun _ => .null
  | .keys => answering (read fun place => .ok place.keys) .list
  | .size => answering (read fun place => .ok place.size) fun size => .int size
  | .containsKey column => answering (read fun place => .ok (place.containsKey column)) .bool
  | .index column => answering (read (Place.indexValue column)) id
  | .get key => answering (read fun place => place.get key) id
  | .isOpen => answering (read fun place => .ok place.isOpen) .bool
  | .literal => answering (read Place.literalValue) id
  | .enter => return .value (.bool true)
  | .leave => answering leave fun _ => .null
  | .advance => answering (advance records) Record.valueOf
  | .collect bound =>
      answering (collect records bound) fun records => .list (records.map Record.toValue)

/-- What is seen of an operation: its outcome, and where it leaves the reader. -/
def observe {τ : Type} (performed : Except Fault (CursorAnswer τ) × Scene Reader) :
    Except Fault (CursorAnswer τ) × Place Record :=
  (performed.1, performed.2.state.toPlace)

end Reader

end QueryCursor
