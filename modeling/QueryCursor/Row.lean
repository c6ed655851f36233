import QueryCursor.Record
import QueryCursor.Value.Items

/-!
# Rows

A row is what a table holds for one record of a result: a mapping, or a record
itself.  A row that is neither is accepted into a table and refused where its
columns or its values are asked for.
-/

namespace QueryCursor

/-- One row of a table. -/
inductive Row where
  | mapping (entries : Entries)
  | record (fields : Record)
  /-- A value of a type that has no columns. -/
  | other (type : String)

namespace Row

/-- The row that a value is. -/
def ofValue : Value → Row
  | .mapping entries => .mapping entries
  | .record fields => .record ⟨fields⟩
  | value => .other value.typeName

/-- The columns of a row, in order. -/
def columns : Row → Except Fault (List Value)
  | .mapping entries => .ok (entries.map Prod.fst)
  | .record fields => .ok fields.columns
  | .other type => .error (.table (.noMember type "keys"))

/-- The value of a row for a key, null when it has none.  A mapping is asked for
an entry, which takes a hashable key; a record takes an integer for a
position. -/
def get (row : Row) (key : Value) : Except Fault Value :=
  match row with
  | .mapping entries => do
    let found ← Unhashable.lift (entries.lookup key)
    return Value.ofOption found
  | .record fields => fields.get key .null
  | .other type => .error (.table (.noMember type "get"))

/-- The record of a row under the given columns. -/
def toRecord (columns : List Value) (row : Row) : Except Fault Record := do
  let values ← columns.mapM row.get
  Record.make columns values

end Row

end QueryCursor
