import QueryCursor.Proofs.Lifecycle

/-!
# Closing a driver

Closing a driver disconnects it, unless the wait for its stream to be closed lets a fault
through.  The stream is called to close before the wait and given up after it, so such a
fault leaves a driver that is still connected by the stream it has closed.
-/

namespace QueryCursor

open OpenedStream

namespace Session

/-- After closing has returned, the driver is disconnected, every stream that it has opened
is closed, and connecting makes a fresh attempt.  Closing fails only with a fault of the
stream at hand that is none of the operating system; that stream is closed as well, but
the driver is left connected by it, so that connecting returns without a call. -/
theorem closing_disconnects_unless_wait_fails (scene : Scene Session)
    (networked : scene.state.client.driver.backend ≠ .memory)
    (isNew : scene.state.client.driver.IsDisconnected) (operations : List SessionOperation)
    {operation : SessionOperation} (closes : Closes operation) :
    let start := scene.state.client
    let client := (after operations scene).state.client
    let ran := (perform operation).run (after operations scene)
    let left := ran.2.state.client
    let next := (perform .connect).run ran.2
    (∃ made, left.network.calls = start.network.calls ++ made ∧
      AllClosed (Line.replay start.driver.config ⟨start.network, [], []⟩ made).streams) ∧
    (∀ answer, ran.1 = .ok answer →
      left.driver.IsDisconnected ∧ left.FreshAttempt next.1 next.2.state.client) ∧
    ∀ fault,
      (ran.1 = .error fault ↔ ∃ stream, client.driver.connection = some stream ∧
        stream.closeFault = some fault ∧ fault.isSystem = false) ∧
      (ran.1 = .error fault →
        left.driver = client.driver ∧ left.driver.connected = true ∧
          next.1 = .ok (.value (.bool true)) ∧ next.2.state.client = left) := by
  intro start client ran left next
  obtain ⟨made, on, _⟩ := exists_calls (.ofNew networked isNew) operations
  have outcome : ran.1 = client.afterClose.1.map fun _ => .value .null :=
    (run_closes closes _).1
  have reached : left = client.afterClose.2 := (run_closes closes _).2
  have calls : callsOf client operation =
      if client.driver.connection.isSome then [.close, .waitClosed] else [] := by
    rcases closes with rfl | rfl <;> rfl
  have stillOn : left.On start.driver.config _ :=
    client_of_perform on.networked operation ▸ (on_clientAfter on operation).1
  refine ⟨⟨made ++ callsOf client operation, ?_, ?_⟩, ?_⟩
  · rw [stillOn.network_eq, ← Line.replay_append, Line.calls_of_replay]
  · rw [Line.replay_append, calls]
    exact on.allClosed_of_close
  · rcases client.afterClose_cases with
      ⟨returned, released, harmless⟩ | ⟨stream, fault, held, refused, failed⟩
    · have away : left.driver.connected ≠ true := by
        rw [reached, released]
        exact Bool.false_ne_true
      constructor
      · intro answer _
        refine ⟨?_, freshAttempt (.inl rfl) stillOn away⟩
        rw [reached, released]
        exact ⟨rfl, rfl⟩
      · intro fault
        rw [outcome, returned]
        refine ⟨⟨nofun, ?_⟩, nofun⟩
        rintro ⟨stream, held, refuses⟩
        cases (harmless stream held).symm.trans (Stream.refusal?_eq_some.mpr refuses)
    · have connected : left.driver.connected = true := by
        rw [reached, failed]
        exact on.connected_eq.trans (congrArg Option.isSome held)
      rw [outcome, failed]
      refine ⟨nofun, ?_⟩
      intro other
      constructor
      · constructor
        · rintro ⟨⟩
          exact ⟨stream, held, Stream.refusal?_eq_some.mp refused⟩
        · rintro ⟨_, same, refuses⟩
          cases held.symm.trans same
          cases refused.symm.trans (Stream.refusal?_eq_some.mpr refuses)
          rfl
      · intro _
        obtain ⟨answered, unchanged⟩ := run_connects (.inl rfl) stillOn.networked
        rw [Client.afterConnect, if_pos connected] at answered unchanged
        refine ⟨?_, connected, answered, unchanged⟩
        rw [reached, failed]
        rfl

/-- A new driver of a server whose streams cannot be waited for. -/
def beforeTornStream : Scene Session :=
  let torn : Stream := ⟨some (.foreign "RuntimeError" "torn")⟩
  let station : Station := ⟨some "localhost", some 7687, [.opened torn]⟩
  let driver : Driver := {
    backend := .direct
    uri := "bolt://localhost"
    host := some "localhost"
    port := some 7687
    config := { connectionTimeout := .int 30 } }
  ⟨⟨⟨driver, ⟨[station], []⟩⟩, []⟩, {}, []⟩

theorem closing_torn_stream_leaves_connected :
    beforeTornStream.state.client.driver.backend ≠ .memory ∧
      beforeTornStream.state.client.driver.IsDisconnected ∧ Closes .leave ∧
      let ran := (perform .leave).run (after [.connect] beforeTornStream)
      ran.1 = .error (.foreign "RuntimeError" "torn") ∧
        ran.2.state.client.driver.connected = true ∧
        ((perform .connect).run ran.2).2.state.client = ran.2.state.client := by
  have networked : beforeTornStream.state.client.driver.backend ≠ .memory := by decide
  have isNew : beforeTornStream.state.client.driver.IsDisconnected := ⟨rfl, rfl⟩
  have closes : Closes .leave := .inr rfl
  obtain ⟨_, _, failing⟩ := closing_disconnects_unless_wait_fails _ networked isNew [.connect] closes
  obtain ⟨fails_iff, stays⟩ := failing (.foreign "RuntimeError" "torn")
  have fails := fails_iff.mpr ⟨⟨some (.foreign "RuntimeError" "torn")⟩, rfl, rfl, rfl⟩
  obtain ⟨_, connected, _, unchanged⟩ := stays fails
  exact ⟨networked, isNew, closes, fails, connected, unchanged⟩

/-- A driver that was closed can be connected still: it holds the stream that it has
closed, and connecting returns that driver without opening another stream. -/
theorem closed_driver_stays_connected :
    let closed := (perform .close).run (after [.connect] beforeTornStream)
    let next := (perform .connect).run closed.2
    closed.1 = .error (.foreign "RuntimeError" "torn") ∧
      ((perform .isConnected).run closed.2).1 = .ok (.value (.bool true)) ∧
      ((perform .hasConnection).run closed.2).1 = .ok (.value (.bool true)) ∧
      next.1 = .ok (.value (.bool true)) ∧
      next.2.state.client.network.calls =
        [.connect (some "localhost") (some 7687) false, .close, .waitClosed] := by
  refine ⟨rfl, rfl, rfl, rfl, rfl⟩

end Session

end QueryCursor
