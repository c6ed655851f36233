import QueryCursor.Proofs.Course.RowStream
import QueryCursor.Proofs.Entries
import QueryCursor.Table

/-!
# Tables of rows

A table can be given by the rows of each statement, every row a mapping.  The columns of
a statement are the keys of its first row.  The other rows need not have the same ones:
what a row does not have is null in its record, and what it has besides is left out.
-/

namespace QueryCursor

namespace Row

/-- The columns of rows: the keys of the first one, in order. -/
def columnsOf : List Entries → List Value
  | [] => []
  | first :: _ => first.map Prod.fst

/-- The record of a row under the given columns. -/
def recordOf (columns : List Value) (row : Entries) : Record :=
  ⟨columns.map fun column => (column, Value.ofOption (row.find? column))⟩

/-- Every key of a row can be hashed, as every key of a mapping can. -/
def Hashable (row : Entries) : Prop :=
  ∀ entry ∈ row, ∃ code, entry.1.hash = .ok code

@[simp] theorem columns_recordOf (columns : List Value) (row : Entries) :
    (recordOf columns row).columns = columns := by
  simp [recordOf, Record.columns, List.map_map, Function.comp_def]

/-- A row has a record under any columns that can be hashed, whichever of them it has. -/
theorem toRecord_mapping {columns : List Value} (row : Entries)
    (hashable : ∀ column ∈ columns, ∃ code, column.hash = .ok code) :
    (Row.mapping row).toRecord columns = .ok (recordOf columns row) := by
  have values : columns.mapM (Row.mapping row).get =
      .ok (columns.map fun column => Value.ofOption (row.find? column)) := by
    induction columns with
    | nil => rfl
    | cons column columns ih =>
        obtain ⟨code, hashed⟩ := hashable column List.mem_cons_self
        have others := ih fun other member => hashable other (List.mem_cons_of_mem _ member)
        have got : (Row.mapping row).get column = .ok (Value.ofOption (row.find? column)) := by
          rw [Row.get, Entries.lookup, hashed]
          rfl
        rw [List.mapM_cons, got, others]
        rfl
  have paired : columns.zip (columns.map fun column => Value.ofOption (row.find? column)) =
      columns.map fun column => (column, Value.ofOption (row.find? column)) := by
    simpa using List.zip_map' (f := id) (l := columns)
  calc (Row.mapping row).toRecord columns
    _ = columns.mapM (Row.mapping row).get >>= Record.make columns := rfl
    _ = Record.make columns (columns.map fun column => Value.ofOption (row.find? column)) := by
      rw [values]
      rfl
    _ = .ok (recordOf columns row) := by
      rw [Record.make, List.length_map, if_pos rfl, paired]
      rfl

/-- The course of rows that all have a record, under a clock that closes them. -/
theorem courseOf_mappings {columns : List Value} (rows : List Entries)
    (hashable : ∀ column ∈ columns, ∃ code, column.hash = .ok code) :
    RowStream.courseOf columns (.ok ()) (rows.map Row.mapping) =
      .ofItems ((rows.map (recordOf columns)).map some) := by
  induction rows with
  | nil => rfl
  | cons row rows ih =>
      rw [List.map_cons, RowStream.courseOf, toRecord_mapping row hashable]
      exact congrArg (Course.item (.ok ()) (some (recordOf columns row))) ih

end Row

namespace Table

/-- The table of statements with their rows. -/
def ofRows (data : List (String × List Entries)) : Table :=
  data.map fun entry => (.string entry.1, .list (entry.2.map Value.mapping))

/-- The rows of a statement, none for one that the table does not have. -/
def rowsOf (data : List (String × List Entries)) (statement : String) : List Entries :=
  ((data.find? fun entry => entry.1 = statement).map Prod.snd).getD []

theorem find?_ofRows (data : List (String × List Entries)) (statement : String) :
    Entries.find? (ofRows data) (.string statement) =
      (data.find? fun entry => entry.1 = statement).map fun entry =>
        .list (entry.2.map Value.mapping) := by
  have test : ((fun entry : Value × Value => entry.1.equal (.string statement)) ∘
      fun entry : String × List Entries =>
        (Value.string entry.1, Value.list (entry.2.map Value.mapping))) =
      fun entry => decide (entry.1 = statement) :=
    funext fun entry => Value.equal_string entry.1 statement
  rw [Entries.find?, ofRows, List.find?_map, Option.map_map, test]
  rfl

/-- What the driver finds in the table for a statement. -/
theorem rows_ofRows (data : List (String × List Entries)) (statement : String) :
    (ofRows data).rows (.string statement) =
      .ok (.sequence ((rowsOf data statement).map Row.mapping)) := by
  have found : (ofRows data).lookup (.string statement) =
      .ok ((data.find? fun entry => entry.1 = statement).map fun entry =>
        .list (entry.2.map Value.mapping)) := by
    rw [← find?_ofRows]
    rfl
  rw [rows, found, rowsOf]
  cases data.find? fun entry => entry.1 = statement with
  | none => rfl
  | some entry =>
      change Except.ok (Rows.sequence ((entry.2.map Value.mapping).map Row.ofValue)) = _
      rw [List.map_map]
      rfl

theorem columns_mappings (rows : List Entries) :
    (Rows.sequence (rows.map Row.mapping)).columns = .ok (Row.columnsOf rows) := by
  cases rows <;> rfl

/-- Every key of every row of the table can be hashed. -/
def Hashable (data : List (String × List Entries)) : Prop :=
  ∀ entry ∈ data, ∀ row ∈ entry.2, Row.Hashable row

theorem Hashable.columnsOf {data : List (String × List Entries)} (hashable : Hashable data)
    (statement : String) :
    ∀ column ∈ Row.columnsOf (rowsOf data statement), ∃ code, column.hash = .ok code := by
  rw [rowsOf]
  cases found : data.find? fun entry => entry.1 = statement with
  | none => exact List.forall_mem_nil _
  | some entry =>
      simp only [Option.map_some, Option.getD_some]
      cases rows : entry.2 with
      | nil => exact List.forall_mem_nil _
      | cons first others =>
          intro column member
          obtain ⟨field, inFirst, rfl⟩ := List.mem_map.mp member
          exact hashable entry (List.mem_of_find?_eq_some found) first
            (rows ▸ List.mem_cons_self) field inFirst

end Table

end QueryCursor
