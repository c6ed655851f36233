import QueryCursor.Session
import QueryCursor.Proofs.Connecting

/-!
# Steps of a session

A step works on the client or on one of the cursors.  Only connecting and closing change
a client that reaches its server through a network.
-/

namespace QueryCursor

namespace Session

variable {scene : Scene Session}

/-- The scene after steps. -/
def after (operations : List SessionOperation) (scene : Scene Session) : Scene Session :=
  operations.foldl (fun scene operation => ((perform operation).run scene).2) scene

/-! ## What a step does to a driver in a network -/

/-- The client after a step.  Only connecting and closing change it. -/
def clientAfter (client : Client) : SessionOperation → Client
  | .connect => client.afterConnect.2
  | .enter => client.afterConnect.2
  | .close => client.afterClose.2
  | .leave => client.afterClose.2
  | _ => client

/-- The calls that a step makes. -/
def callsOf (client : Client) : SessionOperation → List Call
  | .connect => if client.driver.connected then [] else [client.attemptCall]
  | .enter => if client.driver.connected then [] else [client.attemptCall]
  | .close => if client.driver.connection.isSome then [.close, .waitClosed] else []
  | .leave => if client.driver.connection.isSome then [.close, .waitClosed] else []
  | _ => []

/-- Connecting, and entering, which connects unless the driver is connected. -/
def Connects (operation : SessionOperation) : Prop :=
  operation = .connect ∨ operation = .enter

/-- Closing, and leaving, which closes. -/
def Closes (operation : SessionOperation) : Prop :=
  operation = .close ∨ operation = .leave

/-- The answer of a cursor, as an answer of the session. -/
def answerOf : CursorAnswer Summary → SessionAnswer
  | .value value => .value value
  | .summary summary => .summary summary

theorem run_onClient {α : Type} (action : Action Client α) (scene : Scene Session) :
    (onClient action).run scene =
      ((action.run (scene.withState scene.state.client)).1,
        (action.run (scene.withState scene.state.client)).2.withState
          { scene.state with
            client := (action.run (scene.withState scene.state.client)).2.state }) := rfl

/-- Asking whether connections are encrypted leaves everything as it is. -/
theorem scene_of_encryption (scene : Scene Session) :
    ((perform .encryption).run scene).2 = scene := by
  rw [perform, Action.run_bind, Action.run_present]
  dsimp only
  rw [Action.run_bind, Action.run_ofExcept]
  cases scene.state.client.driver.encryption? <;> rfl

theorem scene_of_parseAddress (uri : String) (scene : Scene Session) :
    ((perform (.parseAddress uri)).run scene).2 = scene := by
  rw [perform, Action.run_bind, Action.run_present]
  dsimp only
  rw [Action.run_bind, Action.run_ofExcept]
  cases scene.state.client.driver.backend.parseAddress uri <;> rfl

/-- A step on a cursor is the operation of that cursor, which is kept as it is then. -/
theorem run_cursor {name : String} {cursor : RowCursor}
    (found : scene.state.cursor? name = some cursor) (operation : CursorOperation) :
    (perform (.cursor name operation)).run scene =
      (((Cursor.perform operation).run (scene.withState cursor)).1.map answerOf,
        ((Cursor.perform operation).run (scene.withState cursor)).2.withState
          (keep name ((Cursor.perform operation).run (scene.withState cursor)).2.state
            scene.state)) := by
  rw [perform, Action.run_bind, Action.run_present]
  simp only [found]
  rw [onCursor, Action.run_bind, Action.within]
  dsimp only
  rcases ((Cursor.perform operation).run (scene.withState cursor)).1 with fault | value | summary
  · rfl
  · rfl
  · rfl

theorem run_cursor_of_unknown {name : String} (unknown : scene.state.cursor? name = none)
    (operation : CursorOperation) :
    (perform (.cursor name operation)).run scene = (.error (unknownCursor name), scene) := by
  rw [perform, Action.run_bind, Action.run_present]
  simp only [unknown]
  rfl

/-- A statement that is answered leaves its cursor under the name, whatever the literal of
that cursor is. -/
theorem run_of_answered {statement : Value} {parameters : Entries} {cursor : RowCursor}
    {after : Scene Client}
    (answered : (Client.run statement parameters).run (scene.withState scene.state.client) =
      (.ok cursor, after)) (name : String) :
    (perform (.run name statement parameters)).run scene =
      (cursor.literal.map fun literal => .value (.string literal),
        after.withState (keep name cursor { scene.state with client := after.state })) := by
  rw [perform, Action.run_bind, run_onClient, answered]
  simp only [Action.run_bind, Action.run_change, Action.run_ofExcept]
  cases cursor.literal <;> rfl

theorem run_of_refused {statement : Value} {parameters : Entries} {fault : Fault}
    {after : Scene Client}
    (refused : (Client.run statement parameters).run (scene.withState scene.state.client) =
      (.error fault, after)) (name : String) :
    (perform (.run name statement parameters)).run scene =
      (.error fault, after.withState { scene.state with client := after.state }) := by
  rw [perform, Action.run_bind, run_onClient, refused]

theorem run_connects {operation : SessionOperation} (connects : Connects operation)
    (networked : scene.state.client.driver.backend ≠ .memory) :
    ((perform operation).run scene).1 =
        scene.state.client.afterConnect.1.map (fun _ => .value (.bool true)) ∧
      ((perform operation).run scene).2.state.client = scene.state.client.afterConnect.2 := by
  rcases connects with rfl | rfl
  · obtain ⟨notes, _, connected⟩ :=
      Client.run_connect (scene.withState scene.state.client) networked
    simp only [Scene.state_withState] at connected
    rw [perform, Action.run_bind, run_onClient, connected]
    cases scene.state.client.afterConnect.1 <;> exact ⟨rfl, rfl⟩
  · obtain ⟨notes, _, entered⟩ :=
      Client.run_enter (scene.withState scene.state.client) networked
    simp only [Scene.state_withState] at entered
    rw [perform, Action.run_bind, run_onClient, entered]
    cases scene.state.client.afterConnect.1 <;> exact ⟨rfl, rfl⟩

theorem run_closes {operation : SessionOperation} (closes : Closes operation)
    (scene : Scene Session) :
    ((perform operation).run scene).1 =
        scene.state.client.afterClose.1.map (fun _ => .value .null) ∧
      ((perform operation).run scene).2.state.client = scene.state.client.afterClose.2 := by
  obtain ⟨notes, closed⟩ := Client.run_close (scene.withState scene.state.client)
  simp only [Scene.state_withState] at closed
  have ran : perform operation = (do onClient Client.close; return .value .null) := by
    rcases closes with rfl | rfl <;> rfl
  rw [ran, Action.run_bind, run_onClient, closed]
  cases scene.state.client.afterClose.1 <;> exact ⟨rfl, rfl⟩

theorem client_of_perform (networked : scene.state.client.driver.backend ≠ .memory)
    (operation : SessionOperation) :
    ((perform operation).run scene).2.state.client = clientAfter scene.state.client operation := by
  cases operation with
  | connect => exact (run_connects (.inl rfl) networked).2
  | enter => exact (run_connects (.inr rfl) networked).2
  | close => exact (run_closes (.inl rfl) scene).2
  | leave => exact (run_closes (.inr rfl) scene).2
  | isConnected => rfl
  | isClosed =>
      obtain ⟨notes, asked⟩ := Client.run_isClosed (scene.withState scene.state.client)
      rw [perform, Action.run_bind, run_onClient, asked]
      rfl
  | hasConnection => rfl
  | literal => rfl
  | encryption =>
      rw [scene_of_encryption]
      rfl
  | parseAddress uri =>
      rw [scene_of_parseAddress]
      rfl
  | run name statement parameters =>
      rw [perform, Action.run_bind, run_onClient, Client.run, Action.run_bind, Action.run_present]
      simp only [Scene.state_withState]
      cases kind : scene.state.client.driver.backend with
      | memory => exact absurd kind networked
      | direct => rfl
      | routed => rfl
  | cursor name operation =>
      cases found : scene.state.cursor? name with
      | none =>
          rw [run_cursor_of_unknown found]
          rfl
      | some cursor =>
          rw [run_cursor found]
          rfl

end Session

end QueryCursor
