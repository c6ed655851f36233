import QueryCursor.Row

/-!
# Rows of a statement

The rows that a table has for one statement are reached by place, from zero on.
Most often they are a list of rows; a mapping with integer keys serves as well.
What holds no rows at all shows only when a row is asked for.
-/

namespace QueryCursor

/-- The rows that a table has for one statement, reached by place. -/
inductive Rows where
  /-- Rows one after the other. -/
  | sequence (rows : List Row)
  /-- Rows in a mapping, whose integer keys are the places. -/
  | keyed (entries : Entries)
  /-- A value that holds nothing, and so has no places either. -/
  | scalar (value : Value)

namespace Rows

/-- The rows that a value holds. -/
def ofValue : Value → Rows
  | .mapping entries => .keyed entries
  | .record fields => .sequence (fields.map fun field => Row.ofValue field.2)
  | value =>
    match value.items? with
    | some items => .sequence (items.map Row.ofValue)
    | none => .scalar value

/-- The number of rows. -/
def size : Rows → Nat
  | .sequence rows => rows.length
  | .keyed entries => entries.length
  | .scalar _ => 0

/-- The row under an integer key. -/
def keyedAt (entries : Entries) (place : Nat) : Except Fault Row :=
  match entries.find? (.int place) with
  | some row => .ok (Row.ofValue row)
  | none => .error (.table (.noRow place))

/-- The row at a place, nothing from the end on. -/
def at? (rows : Rows) (place : Nat) : Except Fault (Option Row) :=
  match rows with
  | .sequence rows => .ok rows[place]?
  | .keyed entries =>
    if place < entries.length then some <$> keyedAt entries place else .ok none
  | .scalar value => .error (.table (.unsized value.typeName))

/-- The columns of the first row.  Where there are no rows there are none, and
a false value counts as no rows. -/
def columns : Rows → Except Fault (List Value)
  | .sequence [] => .ok []
  | .sequence (row :: _) => row.columns
  | .keyed [] => .ok []
  | .keyed entries => keyedAt entries 0 >>= Row.columns
  | .scalar value =>
    if value.truth then .error (.table (.notSubscriptable value.typeName)) else .ok []

theorem lt_size_of_at? {rows : Rows} {place : Nat} {row : Row}
    (found : rows.at? place = .ok (some row)) : place < rows.size := by
  cases rows with
  | sequence rows =>
    simp only [at?, Except.ok.injEq] at found
    exact (List.getElem?_eq_some_iff.mp found).1
  | keyed entries =>
    simp only [at?] at found
    split at found
    · assumption
    · simp at found
  | scalar value => simp [at?] at found

end Rows

end QueryCursor
