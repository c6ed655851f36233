import QueryCursor.Record

/-!
# Where a cursor stands

The part of a cursor that its user sees: the columns of the result, the position,
the limit, whether it is open, and the current record.  Reading it contacts no
source.
-/

namespace QueryCursor

/-- Where a cursor stands among records of type `ρ`.  The position before the
first record is -1, and a limit of -1 is none. -/
structure Place (ρ : Type) where
  keys : List Value
  position : Int := -1
  limit : Int := -1
  isOpen : Bool := true
  current : Option ρ := none

namespace Place

variable {ρ α : Type}

/-- Refuses a closed cursor. -/
def requireOpen (place : Place ρ) : Except Fault Unit :=
  if place.isOpen then .ok () else .error (.misuse .closed)

/-- The current record. -/
def record (place : Place ρ) : Except Fault ρ := do
  place.requireOpen
  match place.current with
  | some record => return record
  | none => throw (.absent .noCurrent)

/-- The position of an open cursor. -/
def openPosition (place : Place ρ) : Except Fault Int := do
  place.requireOpen
  return place.position

/-- The number of columns. -/
def size (place : Place ρ) : Nat := place.keys.length

/-- Whether a column is in the result. -/
def containsKey (place : Place ρ) (column : Value) : Bool :=
  place.keys.any (·.equal column)

/-- The literal of a cursor: its columns and its position. -/
def literal (place : Place ρ) : Except Fault String := do
  let keys ← Unhashable.lift (Value.list place.keys).literal
  return "<ResultCursor " ++ keys ++ " position=" ++ toString place.position ++ ">"

/-- A mapping as it ends for who has it called in a coroutine. -/
def inCoroutine (map : Place ρ → Except Fault α) (place : Place ρ) : Except Fault α :=
  (map place).mapError Fault.leavingCoroutine

/-- The value for a key in the current record. -/
def get (place : Place Record) (key : Value) : Except Fault Value := do
  let record ← place.record
  record.lookup key

/-- The position of a column in the current record. -/
def index (place : Place Record) (column : Value) : Except Fault Nat := do
  let record ← place.record
  record.index column

end Place

end QueryCursor
