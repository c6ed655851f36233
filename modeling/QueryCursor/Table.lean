import QueryCursor.Rows

/-!
# Tables of statements

The in-memory driver answers statements from a table.  A table is made of any
value that can be read as a mapping: a mapping itself, a record, or a sequence
of pairs.
-/

namespace QueryCursor

/-- Rows by statement. -/
abbrev Table := Entries

namespace Table

/-- Adds the entries of a sequence of pairs, counting the places. -/
def addPairs (table : Table) (place : Nat) : List Value → Except Fault Table
  | [] => .ok table
  | pair :: pairs =>
    match pair.items? with
    | none => .error (.table (.notSequence place))
    | some [statement, rows] => do
      let _ ← Unhashable.lift statement.hash
      addPairs (putEntry id statement rows table) (place + 1) pairs
    | some items => .error (.table (.entryLength place items.length))

/-- The table with an entry for each column of a record.  The entry holds what
the record gives for the column, so a column that is an integer stands for the
value at that position. -/
def ofRecord (record : Record) : Except Fault Table :=
  record.columns.foldlM (fun table column => do
    let rows ← record.lookup column
    let _ ← Unhashable.lift column.hash
    return putEntry id column rows table) []

/-- The table that a value is read as; a false value is the empty table. -/
def ofValue (data : Value) : Except Fault Table :=
  if !data.truth then .ok []
  else
    match data with
    | .mapping entries => .ok entries
    | .record fields => ofRecord ⟨fields⟩
    | other =>
      match other.items? with
      | some pairs => addPairs [] 0 pairs
      | none => .error (.table (.notIterable other.typeName))

/-- The rows of a statement, none if the table does not have it. -/
def rows (table : Table) (statement : Value) : Except Fault Rows := do
  let found ← Unhashable.lift (table.lookup statement)
  match found with
  | none => return .sequence []
  | some rows => return Rows.ofValue rows

end Table

end QueryCursor
