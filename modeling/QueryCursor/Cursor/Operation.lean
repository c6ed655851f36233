import QueryCursor.Cursor

/-!
# Operations of a cursor

The operations that a user can ask of a cursor, as data.  A run of a cursor is a
list of them.
-/

namespace QueryCursor

/-- What an operation gives: a value, or the summary of the result. -/
inductive CursorAnswer (τ : Type) where
  | value (value : Value)
  | summary (summary : τ)

/-- An operation of a cursor.  The mapping of a bulk reading sees where the
cursor stands. -/
inductive CursorOperation where
  | next
  | skip (records : Int)
  | limit (records : Int)
  | peek
  | atEnd
  | record
  | position
  | first (key : Option Value)
  | single (key : Option Value)
  | list (map : Place Record → Except Fault Value)
  | summarize
  | close
  | keys
  | size
  | containsKey (column : Value)
  | index (column : Value)
  | get (key : Value)
  | isOpen
  | literal
  | enter
  | leave
  | advance
  | collect (bound : Option Nat)

namespace Place

/-- The current record as a value: the mapping of a bulk reading that is given
none. -/
def recordValue (place : Place Record) : Except Fault Value := do
  let record ← place.record
  return record.toValue

/-- The values of the current record. -/
def recordValues (place : Place Record) : Except Fault Value := do
  let record ← place.record
  return .list record.values

/-- The current record as text. -/
def recordText (place : Place Record) : Except Fault Value := do
  let record ← place.record
  let text ← record.text
  return .string text

/-- The position of an open cursor as a value. -/
def positionValue (place : Place Record) : Except Fault Value := do
  let position ← place.openPosition
  return .int position

/-- The position of a column of the current record as a value. -/
def indexValue (column : Value) (place : Place Record) : Except Fault Value := do
  let position ← place.index column
  return .int position

/-- The literal of the cursor as a value. -/
def literalValue (place : Place Record) : Except Fault Value := do
  let literal ← place.literal
  return .string literal

end Place

namespace Cursor

variable {σ τ α : Type} [Source σ (Option Record)]

/-- Answers with a value that is made of the result of an action. -/
def answering (action : Action (Cursor σ Record τ) α) (make : α → Value) :
    Action (Cursor σ Record τ) (CursorAnswer τ) := do
  let result ← action
  return .value (make result)

/-- A record, or the value for a key in it. -/
def select (key : Option Value) (record : Record) : Except Fault Value :=
  match key with
  | none => .ok record.toValue
  | some key => record.lookup key

/-- Performs an operation. -/
def perform : CursorOperation → Action (Cursor σ Record τ) (CursorAnswer τ)
  | .next => answering next .bool
  | .skip records => answering (skip records) fun count => .int count
  | .limit records => answering (setLimit records) .int
  | .peek => answering peek Record.valueOf
  | .atEnd => answering atEnd .bool
  | .record => answering (read Place.recordValue) id
  | .position => answering (read Place.positionValue) id
  | .first key => do
    let record ← first
    answering (.ofExcept (select key record)) id
  | .single key => do
    let record ← single
    answering (.ofExcept (select key record)) id
  | .list map => answering (list map) .list
  | .summarize => do
    let summary ← summarize
    return .summary summary
  | .close => answering close fun _ => .null
  | .keys => answering (read fun place => .ok place.keys) .list
  | .size => answering (read fun place => .ok place.size) fun size => .int size
  | .containsKey column => answering (read fun place => .ok (place.containsKey column)) .bool
  | .index column => answering (read (Place.indexValue column)) id
  | .get key => answering (read fun place => place.get key) id
  | .isOpen => answering (read fun place => .ok place.isOpen) .bool
  | .literal => answering (read Place.literalValue) id
  | .enter => return .value (.bool true)
  | .leave => answering leave fun _ => .null
  | .advance => answering advance Record.valueOf
  | .collect bound =>
    answering (Source.collect bound) fun records => .list (records.map Record.valueOf)

end Cursor

end QueryCursor
