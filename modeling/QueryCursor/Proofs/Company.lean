import QueryCursor.Proofs.Results
import QueryCursor.Proofs.Steps

/-!
# Cursors in company

The cursors of a driver in memory share its table, its clock and its state.  Steps on the
other cursors, and connecting and closing the driver, still do not show in a cursor: what
is seen of it is what its own operations show of a reader of the records.
-/

namespace QueryCursor

/-- What lasts of an answer: a summary without the time that the records took. -/
def SessionAnswer.lasting : SessionAnswer → SessionAnswer
  | .value answer => .value answer
  | .summary final => .summary final.lasting

/-! ## The clock they share -/

namespace Client

variable {good : Clock → Prop}

theorem lasts_markConnected : markConnected.Lasts good :=
  .bind (.change _) fun _ => .bind .present fun _ => .report _

theorem lasts_openStream : openStream.Lasts good := by
  refine .bind .present fun client => ?_
  split
  · exact .result ()
  · refine .bind (.report _) fun _ => ?_
    refine .bind (.ofState _) fun answer => ?_
    refine .bind (.ofExcept _) fun stream => ?_
    exact .bind (.change _) fun _ => lasts_markConnected

theorem lasts_connect : connect.Lasts good := by
  refine .bind .present fun client => ?_
  cases client.driver.backend with
  | memory => exact lasts_markConnected
  | direct => exact lasts_openStream
  | routed => exact .bind lasts_openStream fun _ => .report _

theorem lasts_enter : enter.Lasts good := by
  refine .bind .present fun client => ?_
  split
  · exact .result ()
  · exact lasts_connect

theorem lasts_awaitClosed (stream : Stream) : (awaitClosed stream).Lasts good := by
  refine .bind (.change _) fun _ => ?_
  cases stream.closeFault with
  | none => exact .result ()
  | some fault =>
      dsimp only
      split
      · exact .bind .present fun client => .report _
      · exact .refusal fault

theorem lasts_close : close.Lasts good := by
  refine .bind ?_ fun _ => .change _
  refine .bind .present fun client => ?_
  cases client.driver.connection with
  | none => exact .result ()
  | some stream => exact .bind (.change _) fun _ => lasts_awaitClosed stream

theorem lasts_isClosed : isClosed.Lasts good := by
  refine .bind .present fun client => ?_
  split
  · exact .result false
  · exact .bind (.report _) fun _ => .result true

theorem lasts_run (lasts : Clock.Lasting good) (statement : Value) (parameters : Entries) :
    (run statement parameters).Lasts good := by
  refine .bind .present fun client => ?_
  cases client.driver.backend with
  | direct => exact .refusal _
  | routed => exact .refusal _
  | memory =>
      dsimp only
      split
      · exact .refusal _
      · refine .bind lasts_enter fun _ => ?_
        refine .bind (.ofExcept _) fun rows => ?_
        refine .bind (.ofExcept _) fun keys => ?_
        refine .bind ?_ fun stream => .result _
        exact .bind (.readClock lasts) fun started => .result _

end Client

namespace Session

variable {scene : Scene Session} {name : String} {operation : SessionOperation}
  {operations : List SessionOperation}

/-! ## One name among others -/

@[simp] theorem cursor?_keep (name : String) (cursor : RowCursor) (session : Session) :
    (keep name cursor session).cursor? name = some cursor := by
  simp [keep, cursor?]

theorem cursor?_keep_of_ne {other : String} (different : other ≠ name) (cursor : RowCursor)
    (session : Session) : (keep other cursor session).cursor? name = session.cursor? name := by
  have kept : ∀ entry : String × RowCursor, (entry.1 ≠ other ∧ entry.1 = name) ↔ entry.1 = name :=
    fun entry => ⟨And.right, fun same => ⟨fun clash => different (clash ▸ same), same⟩⟩
  simp [keep, cursor?, different, List.find?_filter, kept]

/-- The step runs a statement for the name, so that another cursor is kept under it. -/
def Renews (name : String) : SessionOperation → Prop
  | .run other _ _ => other = name
  | _ => False

/-- The operation that a step performs on the cursor under the name, if that is what it is. -/
def own? (name : String) : SessionOperation → Option CursorOperation
  | .cursor other operation => if other = name then some operation else none
  | _ => none

theorem eq_cursor_of_own? {own : CursorOperation} (isOwn : own? name operation = some own) :
    operation = .cursor name own := by
  cases operation with
  | cursor other operation =>
      rw [own?] at isOwn
      split at isOwn
      · next same =>
          cases isOwn
          rw [same]
      · cases isOwn
  | _ => cases isOwn

theorem cursors_onClient {α : Type} (action : Action Client α) (make : α → SessionAnswer)
    (scene : Scene Session) :
    ((do return make (← onClient action) : Action Session SessionAnswer).run
      scene).2.state.cursors = scene.state.cursors := by
  rw [Action.run_bind, run_onClient]
  cases (action.run (scene.withState scene.state.client)).1 <;> rfl

/-- A step leaves a cursor as it is, unless it is an operation of that cursor or runs a
statement for its name. -/
theorem cursor?_of_perform (foreign : own? name operation = none)
    (stays : ¬Renews name operation) (scene : Scene Session) :
    ((perform operation).run scene).2.state.cursor? name = scene.state.cursor? name := by
  have onClient {α : Type} (action : Action Client α) (make : α → SessionAnswer) :
      ((do return make (← onClient action) : Action Session SessionAnswer).run
        scene).2.state.cursor? name = scene.state.cursor? name := by
    rw [cursor?, cursors_onClient]
    rfl
  cases operation with
  | connect => exact onClient Client.connect fun _ => .value (.bool true)
  | close => exact onClient Client.close fun _ => .value .null
  | isConnected => rfl
  | isClosed => exact onClient Client.isClosed fun closed => .value (.bool closed)
  | hasConnection => rfl
  | enter => exact onClient Client.enter fun _ => .value (.bool true)
  | leave => exact onClient Client.close fun _ => .value .null
  | literal => rfl
  | encryption => rw [scene_of_encryption]
  | parseAddress uri => rw [scene_of_parseAddress]
  | run other statement parameters =>
      rcases ran : (Client.run statement parameters).run (scene.withState scene.state.client) with
        ⟨fault | cursor, after⟩
      · rw [run_of_refused ran]
        rfl
      · rw [run_of_answered ran]
        exact cursor?_keep_of_ne stays ..
  | cursor other operation =>
      have different : other ≠ name := by
        intro same
        rw [own?, if_pos same] at foreign
        cases foreign
      cases found : scene.state.cursor? other with
      | none => rw [run_cursor_of_unknown found]
      | some cursor =>
          rw [run_cursor found]
          exact cursor?_keep_of_ne different ..

theorem lasts_perform {good : Clock → Prop} (lasts : Clock.Lasting good)
    (operation : SessionOperation) : (perform operation).Lasts good := by
  cases operation with
  | connect => exact .bind (.within Client.lasts_connect) fun _ => .result _
  | close => exact .bind (.within Client.lasts_close) fun _ => .result _
  | isConnected => exact .bind .present fun _ => .result _
  | isClosed => exact .bind (.within Client.lasts_isClosed) fun _ => .result _
  | hasConnection => exact .bind .present fun _ => .result _
  | enter => exact .bind (.within Client.lasts_enter) fun _ => .result _
  | leave => exact .bind (.within Client.lasts_close) fun _ => .result _
  | literal => exact .bind .present fun _ => .result _
  | encryption => exact .bind .present fun _ => .bind (.ofExcept _) fun _ => .result _
  | parseAddress uri => exact .bind .present fun _ => .bind (.ofExcept _) fun _ => .result _
  | run name statement parameters =>
      refine .bind (.within (Client.lasts_run lasts statement parameters)) fun cursor => ?_
      exact .bind (.change _) fun _ => .bind (.ofExcept _) fun _ => .result _
  | cursor name operation =>
      refine .bind .present fun session => ?_
      cases session.cursor? name with
      | none => exact .refusal _
      | some cursor =>
          have kept : (Cursor.perform operation : Action RowCursor _).Lasts good :=
            Cursor.upholds_perform (RowStream.upholds_clock lasts) operation
          refine .bind (.within kept) fun answer => ?_
          cases answer with
          | value => exact .result _
          | summary => exact .result _

/-! ## What is seen of one of them -/

/-- What a step shows of the cursor under a name: how it ends, and where that cursor is
left. -/
def observe (name : String) (performed : Except Fault SessionAnswer × Scene Session) :
    Except Fault SessionAnswer × Option (Place Record) :=
  (performed.1.map SessionAnswer.lasting, (performed.2.state.cursor? name).map Cursor.toPlace)

/-- What is seen of the cursor under a name while steps are made, of which some are its own
operations. -/
def watch (name : String) : List SessionOperation → Scene Session →
    List (Except Fault SessionAnswer × Option (Place Record))
  | [], _ => []
  | operation :: operations, scene =>
      let performed := (perform operation).run scene
      let others := watch name operations performed.2
      match own? name operation with
      | some _ => observe name performed :: others
      | none => others

/-- What an operation shows of a reader, as a step would show it of a cursor. -/
def observeReader (performed : Except Fault (CursorAnswer Summary) × Scene Reader) :
    Except Fault SessionAnswer × Option (Place Record) :=
  (performed.1.map answerOf, some performed.2.state.toPlace)

/-- The cursor under the name reads a result where a reader of its records would. -/
def Reads (name : String) (result : Result) (scene : Scene Session) (mirror : Scene Reader) :
    Prop :=
  ∃ cursor, scene.state.cursor? name = some cursor ∧ result.Reads (scene.withState cursor) mirror

namespace Reads

variable {result : Result} {mirror : Scene Reader}

theorem foreign (reads : Reads name result scene mirror) (foreign : own? name operation = none)
    (stays : ¬Renews name operation) :
    Reads name result ((perform operation).run scene).2 mirror := by
  obtain ⟨cursor, found, reads⟩ := reads
  have timely : ((perform operation).run scene).2.clock.Timely result.started :=
    lasts_perform (Clock.lasting_timely _) operation scene reads.timing.timely
  exact ⟨cursor, (cursor?_of_perform foreign stays scene).trans found, reads.at_clock timely _⟩

theorem own (reads : Reads name result scene mirror) (operation : CursorOperation) :
    Reads name result ((perform (.cursor name operation)).run scene).2
      ((result.read operation).run mirror).2 := by
  obtain ⟨cursor, found, reads⟩ := reads
  rw [run_cursor found]
  exact ⟨_, cursor?_keep .., reads.perform operation⟩

theorem observe_eq (reads : Reads name result scene mirror) (operation : CursorOperation) :
    observe name ((perform (.cursor name operation)).run scene) =
      observeReader ((result.read operation).run mirror) := by
  obtain ⟨cursor, found, reads⟩ := reads
  have seen := reads.observe_eq operation
  obtain ⟨answer, place⟩ := Prod.ext_iff.mp seen
  simp only [Cursor.observe, Reader.observe] at answer place
  rw [run_cursor found, observe, observeReader, ← answer, ← place]
  refine Prod.ext ?_ ?_
  · rcases ((Cursor.perform operation).run (scene.withState cursor)).1 with
      fault | value | summary <;> rfl
  · simp

/-- However its operations are mixed with other steps, they lead it where they alone lead
the reader. -/
theorem after (reads : Reads name result scene mirror)
    (stay : ∀ operation ∈ operations, ¬Renews name operation) :
    Reads name result (Session.after operations scene)
      (result.readerAfter (operations.filterMap (own? name)) mirror) := by
  induction operations generalizing scene mirror with
  | nil => exact reads
  | cons operation operations ih =>
      have stays := stay operation List.mem_cons_self
      have others := fun other member => stay other (List.mem_cons_of_mem _ member)
      cases isOwn : own? name operation with
      | none =>
          rw [List.filterMap_cons_none isOwn]
          exact ih (reads.foreign isOwn stays) others
      | some own =>
          rw [List.filterMap_cons_some isOwn]
          obtain rfl := eq_cursor_of_own? isOwn
          exact ih (reads.own own) others

theorem watch_eq (reads : Reads name result scene mirror)
    (stay : ∀ operation ∈ operations, ¬Renews name operation) :
    watch name operations scene =
      (Action.runAll ((operations.filterMap (own? name)).map result.read) mirror).map
        observeReader := by
  induction operations generalizing scene mirror with
  | nil => rfl
  | cons operation operations ih =>
      have stays := stay operation List.mem_cons_self
      have others := fun other member => stay other (List.mem_cons_of_mem _ member)
      cases isOwn : own? name operation with
      | none =>
          rw [watch, List.filterMap_cons_none isOwn, isOwn]
          exact ih (reads.foreign isOwn stays) others
      | some own =>
          obtain rfl := eq_cursor_of_own? isOwn
          rw [watch, List.filterMap_cons_some isOwn, isOwn]
          dsimp only
          rw [reads.observe_eq own, ih (reads.own own) others]
          rfl

/-- Asked for one record after the other, whatever is done in between, it gives one for each
row, and then only signals of the end. -/
theorem watch_advance (reads : Reads name result scene result.reader)
    (stay : ∀ operation ∈ operations, ¬Renews name operation) {count : Nat}
    (oneByOne : operations.filterMap (own? name) = List.replicate count .advance) :
    (watch name operations scene).map Prod.fst =
      ((result.records.take count).map fun record => .ok (.value record.toValue)) ++
        List.replicate (count - result.rows.length) (.error Fault.ended) := by
  have answers : Prod.fst ∘ observeReader = Except.map answerOf ∘ Prod.fst := rfl
  rw [reads.watch_eq stay, oneByOne, List.map_replicate, List.map_map, answers, ← List.map_map,
    result.runAll_advance, List.map_append, List.map_map, List.map_replicate]
  rfl

end Reads

/-- A step takes nothing back from a cursor that is still kept under its name. -/
theorem progress_of_perform {cursor : RowCursor} (found : scene.state.cursor? name = some cursor)
    (stays : ¬Renews name operation) :
    ∃ later, ((perform operation).run scene).2.state.cursor? name = some later ∧
      Cursor.Progress (scene.withState cursor)
        (((perform operation).run scene).2.withState later) := by
  cases isOwn : own? name operation with
  | none => exact ⟨cursor, (cursor?_of_perform isOwn stays scene).trans found,
      .ofPlace rfl rfl rfl id (.inl rfl)⟩
  | some own =>
      obtain rfl := eq_cursor_of_own? isOwn
      rw [run_cursor found]
      exact ⟨_, cursor?_keep .., Cursor.Progress.sceneAfter [own] (scene.withState cursor)⟩

/-- Steps take nothing back, either. -/
theorem progress_of_after {cursor : RowCursor} (found : scene.state.cursor? name = some cursor)
    (stay : ∀ operation ∈ operations, ¬Renews name operation) :
    ∃ later, (after operations scene).state.cursor? name = some later ∧
      Cursor.Progress (scene.withState cursor) ((after operations scene).withState later) := by
  induction operations generalizing scene cursor with
  | nil => exact ⟨cursor, found, .refl _⟩
  | cons operation operations ih =>
      have stays := stay operation List.mem_cons_self
      have others := fun other member => stay other (List.mem_cons_of_mem _ member)
      obtain ⟨next, found, progress⟩ := progress_of_perform found stays
      obtain ⟨last, found, progresses⟩ := ih found others
      exact ⟨last, found, progress.trans progresses⟩

/-- The summary of a cursor that has given up the rest, or found that there is none, stays
as it is. -/
theorem summaryNow_of_after {cursor : RowCursor} (found : scene.state.cursor? name = some cursor)
    (exhausted : cursor.ahead.stage = .exhausted)
    (stay : ∀ operation ∈ operations, ¬Renews name operation) :
    ∃ later, (after operations scene).state.cursor? name = some later ∧
      later.summaryNow = cursor.summaryNow := by
  obtain ⟨later, kept, progress⟩ := progress_of_after found stay
  have sameAhead : later.ahead = cursor.ahead := progress.ahead_eq exhausted
  have sameView : later.summary = cursor.summary := progress.summary_eq
  refine ⟨later, kept, ?_⟩
  rw [Cursor.summaryNow, Cursor.summaryNow, sameAhead, sameView]

end Session

end QueryCursor
