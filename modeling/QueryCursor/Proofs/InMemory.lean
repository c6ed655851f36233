import QueryCursor.Proofs.Company

/-!
# The driver in memory

The driver in memory answers a statement with a cursor over the rows that its table has
for it, and connects first unless it is connected.  Whatever else is done with the driver
and its other cursors meanwhile, this cursor delivers one record for each of the rows.
-/

namespace QueryCursor

/-! ## Running a statement -/

namespace Client

variable {scene : Scene Client} {statement : Value}

/-- The client after it has connected in memory. -/
def inMemoryConnected (client : Client) : Client :=
  { client with driver := { client.driver with connected := true } }

/-- A driver in memory connects to nothing, and so without a failure. -/
theorem run_enter_in_memory (inMemory : scene.state.driver.backend = .memory) :
    ∃ journal, enter.run scene =
      (.ok (), ⟨scene.state.inMemoryConnected, scene.clock, journal⟩) := by
  obtain ⟨⟨driver, network⟩, clock, journal⟩ := scene
  rw [enter, Action.run_bind, Action.run_present]
  cases connected : driver.connected with
  | true =>
      refine ⟨journal, ?_⟩
      obtain ⟨_, _, _, _, _, _, _, isConnected, _⟩ := driver
      cases connected
      rfl
  | false =>
      simp only [connected, Bool.false_eq_true, if_false, connect, Action.run_bind,
        Action.run_present]
      simp only at inMemory
      rw [inMemory]
      exact ⟨_, rfl⟩

/-- A statement that is empty or null is refused before the driver connects. -/
theorem run_of_untrue (inMemory : scene.state.driver.backend = .memory)
    (untrue : statement.truth = false) (parameters : Entries) :
    (run statement parameters).run scene = (.error Fault.emptyStatement, scene) := by
  rw [run, Action.run_bind, Action.run_present]
  simp only [inMemory, untrue]
  rfl

theorem run_in_memory (scene : Scene Client) (inMemory : scene.state.driver.backend = .memory)
    (truthy : statement.truth = true) {rows : Rows} {keys : List Value}
    (found : scene.state.driver.table.rows statement = .ok rows) (columns : rows.columns = .ok keys)
    (parameters : Entries) :
    ∃ journal, (run statement parameters).run scene =
      (.ok (Cursor.ofSource keys
          { keys, rows
            started := scene.clock.reading
            summary := {
              statement, parameters
              server := Value.ofString? scene.state.driver.address?
              availableAfter := .int 0 } }
          RowStream.summary),
        ⟨scene.state.inMemoryConnected, scene.clock.advance, journal⟩) := by
  obtain ⟨journal, entered⟩ := run_enter_in_memory inMemory
  refine ⟨journal, ?_⟩
  rw [run, Action.run_bind, Action.run_present]
  simp only [inMemory, truthy, Bool.not_true, Bool.false_eq_true, if_false]
  rw [Action.run_bind, entered]
  simp only [Action.run_bind, Action.run_ofExcept, found, columns]
  rfl

end Client

namespace Session

variable {scene : Scene Session} {data : List (String × List Entries)}

/-- What the driver in memory has for a statement that is run now. -/
def resultOf (data : List (String × List Entries)) (statement : String) (parameters : Entries)
    (scene : Scene Session) : Result where
  statement := .string statement
  parameters := parameters
  server := Value.ofString? scene.state.client.driver.address?
  rows := Table.rowsOf data statement
  started := scene.clock.reading

/-- A statement that is run leaves a cursor before the first record of its result, and
the driver connected. -/
theorem scene_of_run (inMemory : scene.state.client.driver.backend = .memory)
    (tabled : scene.state.client.driver.table = Table.ofRows data) (name : String)
    {statement : String} (notEmpty : statement ≠ "") (parameters : Entries) :
    ∃ journal, ((perform (.run name (.string statement) parameters)).run scene).2 =
      ⟨keep name (resultOf data statement parameters scene).cursor
          { scene.state with client := scene.state.client.inMemoryConnected },
        scene.clock.advance, journal⟩ := by
  have truthy : (Value.string statement).truth = true := by
    simpa [Value.truth] using notEmpty
  have found : scene.state.client.driver.table.rows (.string statement) =
      .ok (.sequence ((Table.rowsOf data statement).map Row.mapping)) := by
    rw [tabled]
    exact Table.rows_ofRows data statement
  obtain ⟨journal, answered⟩ := Client.run_in_memory (scene.withState scene.state.client)
    inMemory truthy found (Table.columns_mappings _) parameters
  have answered : (Client.run (.string statement) parameters).run
      (scene.withState scene.state.client) =
      (.ok (resultOf data statement parameters scene).cursor,
        ⟨scene.state.client.inMemoryConnected, scene.clock.advance, journal⟩) := answered
  exact ⟨journal, congrArg Prod.snd (run_of_answered answered name)⟩

theorem reads_of_run (inMemory : scene.state.client.driver.backend = .memory)
    (tabled : scene.state.client.driver.table = Table.ofRows data)
    (hashable : Table.Hashable data) (finite : scene.clock.Finite) (name : String)
    {statement : String} (notEmpty : statement ≠ "") (parameters : Entries) :
    Reads name (resultOf data statement parameters scene)
      ((perform (.run name (.string statement) parameters)).run scene).2
      (resultOf data statement parameters scene).reader := by
  obtain ⟨journal, ran⟩ := scene_of_run inMemory tabled name notEmpty parameters
  have hashes : ∀ column ∈ (resultOf data statement parameters scene).columns,
      ∃ code, column.hash = .ok code := hashable.columnsOf statement
  rw [ran]
  exact ⟨_, cursor?_keep .., .start hashes finite.timely journal⟩

/-! ## From the table to the reader of a cursor -/

/-- A statement that is empty or null is refused, and changes nothing.  Any other one leaves
a cursor under the name.  Whatever is done with the other cursors of the driver meanwhile,
and however the driver is closed and connected, this cursor shows what a reader shows of
one record for each row, in order, and it serves its result.  Once its stream is closed
its summary stays as it is. -/
theorem result_delivered_in_company (inMemory : scene.state.client.driver.backend = .memory)
    (tabled : scene.state.client.driver.table = Table.ofRows data)
    (hashable : Table.Hashable data) (finite : scene.clock.Finite) (name : String)
    (parameters : Entries) :
    (∀ statement, statement = .null ∨ statement = .string "" →
      (perform (.run name statement parameters)).run scene =
        (.error Fault.emptyStatement, scene)) ∧
    ∀ statement, statement ≠ "" → ∀ operations, (∀ operation ∈ operations, ¬Renews name operation) →
      let result := resultOf data statement parameters scene
      let begun := ((perform (.run name (.string statement) parameters)).run scene).2
      let own := operations.filterMap (own? name)
      watch name operations begun =
        (Action.runAll (own.map result.read) result.reader).map observeReader ∧
      (∀ count, own = List.replicate count .advance →
        (watch name operations begun).map Prod.fst =
          ((result.records.take count).map fun record => .ok (.value record.toValue)) ++
            List.replicate (count - result.rows.length) (.error Fault.ended)) ∧
      ∃ cursor, (after operations begun).state.cursor? name = some cursor ∧
        result.Serves ((after operations begun).withState cursor)
          (result.readerAfter own result.reader).state ∧
        (cursor.ahead.source.closed = true →
          ∀ later, (∀ operation ∈ later, ¬Renews name operation) →
            ∃ last, (after later (after operations begun)).state.cursor? name = some last ∧
              last.summaryNow = cursor.summaryNow) := by
  refine ⟨?_, ?_⟩
  · rintro statement empty
    have untrue : statement.truth = false := by
      rcases empty with rfl | rfl <;> rfl
    exact run_of_refused (Client.run_of_untrue inMemory untrue parameters) name
  · intro statement notEmpty operations stay result begun own
    have reads : Reads name result begun result.reader :=
      reads_of_run inMemory tabled hashable finite name notEmpty parameters
    refine ⟨reads.watch_eq stay, fun count oneByOne => reads.watch_advance stay oneByOne, ?_⟩
    obtain ⟨cursor, found, reads⟩ := reads.after stay
    have serves := reads.serves
    refine ⟨cursor, found, serves, ?_⟩
    intro closed later stay
    exact summaryNow_of_after found (serves.closed_iff.mp closed) stay

/-- Two rows that have only one key in common. -/
def raggedRows : List Entries :=
  [[(.string "name", .string "Ann"), (.string "age", .int 41)],
    [(.string "city", .string "Rome"), (.string "name", .string "Bo")]]

/-- A driver in memory with these rows, under a clock that goes on by a second and a half. -/
def raggedScene : Scene Session where
  state := {
    client := {
      driver := {
        backend := .memory
        uri := "dummy://localhost"
        host := some "localhost"
        port := none
        config := { connectionTimeout := .int 30 }
        table := Table.ofRows [("people", raggedRows)] } } }
  clock := ⟨⟨0⟩, [⟨0x3FF8000000000000⟩]⟩

/-- A cursor over them is read while the driver is closed, and while another cursor over the
same rows is read and given up. -/
theorem ragged_rows_delivered :
    let begun := ((perform (.run "first" (.string "people") [])).run raggedScene).2
    (watch "first" [.run "second" (.string "people") [], .cursor "first" .advance, .close,
        .cursor "second" .close, .cursor "first" .advance, .enter, .cursor "first" .advance]
      begun).map Prod.fst =
      [.ok (.value (.record [(.string "name", .string "Ann"), (.string "age", .int 41)])),
        .ok (.value (.record [(.string "name", .string "Bo"), (.string "age", .null)])),
        .error Fault.ended] := by
  have inMemory : raggedScene.state.client.driver.backend = .memory := rfl
  have hashable : Table.Hashable [("people", raggedRows)] := by
    simp only [Table.Hashable, Row.Hashable, raggedRows, List.forall_mem_cons,
      Value.exists_hash_string, List.not_mem_nil, false_implies, implies_true, and_self]
  have records : (resultOf [("people", raggedRows)] "people" [] raggedScene).records =
      [⟨[(.string "name", .string "Ann"), (.string "age", .int 41)]⟩,
        ⟨[(.string "name", .string "Bo"), (.string "age", .null)]⟩] := by
    simp [resultOf, Result.records, Result.columns, Table.rowsOf, Row.columnsOf, Row.recordOf,
      raggedRows, Entries.find?, Value.ofOption]
  have finite : raggedScene.clock.Finite := by decide +kernel
  obtain ⟨_, delivered⟩ :=
    result_delivered_in_company inMemory rfl hashable finite "first" []
  obtain ⟨_, advanced, _⟩ := delivered "people" (by decide)
    [.run "second" (.string "people") [], .cursor "first" .advance, .close,
      .cursor "second" .close, .cursor "first" .advance, .enter, .cursor "first" .advance]
    (by simp [Renews])
  have given := advanced 3 rfl
  rw [records] at given
  exact given

end Session

end QueryCursor
