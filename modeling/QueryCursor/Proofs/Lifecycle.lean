import QueryCursor.Proofs.Steps

/-!
# The life of a connection

A driver that reaches its server through a network is connected exactly as long as it
holds a stream.  It attempts to open one only while it is not connected, and by then
every stream that it has opened was closed, so that no two of them are ever open.  This
is told from the calls that reached the network, whatever it answers them.
-/

namespace QueryCursor

open OpenedStream

namespace Line

variable {config : Config} {line : Line}

/-- An attempt to connect is made only where no stream is open. -/
def ConnectsWhenClosed (config : Config) : Line → List Call → Prop
  | _, [] => True
  | line, call :: calls =>
    (∀ host port encrypted, call = .connect host port encrypted → AllClosed line.streams) ∧
      ConnectsWhenClosed config (line.call config call) calls

namespace ConnectsWhenClosed

theorem append {first second : List Call} (begun : ConnectsWhenClosed config line first)
    (continued : ConnectsWhenClosed config (line.replay config first) second) :
    ConnectsWhenClosed config line (first ++ second) := by
  induction first generalizing line with
  | nil => exact continued
  | cons call calls ih => exact ⟨begun.1, ih begun.2 continued⟩

theorem drop {first second : List Call}
    (whenClosed : ConnectsWhenClosed config line (first ++ second)) :
    ConnectsWhenClosed config (line.replay config first) second := by
  induction first generalizing line with
  | nil => exact whenClosed
  | cons call calls ih => exact ih whenClosed.2

theorem take {first second : List Call}
    (whenClosed : ConnectsWhenClosed config line (first ++ second)) :
    ConnectsWhenClosed config line first := by
  induction first generalizing line with
  | nil => exact trivial
  | cons call calls ih => exact ⟨whenClosed.1, ih whenClosed.2⟩

end ConnectsWhenClosed

/-- A call to close closes the stream at hand, which stays the one opened last. -/
theorem holds_closeLast {streams : List OpenedStream} {held : Option Stream}
    (holds : Holds streams held) :
    AllClosed (closeLast streams) ∧ Holds (closeLast streams) held := by
  cases held with
  | none =>
      have closed : AllClosed (closeLast streams) := by
        cases streams with
        | nil => exact nofun
        | cons last earlier =>
            exact List.forall_mem_cons.mpr ⟨rfl, (List.forall_mem_cons.mp holds).2⟩
      exact ⟨closed, closed⟩
  | some stream =>
      obtain ⟨isOpen, earlier, rfl, closed⟩ := holds
      exact ⟨List.forall_mem_cons.mpr ⟨rfl, closed⟩, false, earlier, rfl, closed⟩

/-- As long as attempts are made only where no stream is open, all streams but the last
one are closed. -/
theorem ConnectsWhenClosed.holds {calls : List Call}
  (whenClosed : ConnectsWhenClosed config line calls)
    {held : Option Stream} (holds : Holds line.streams held) :
    ∃ held, Holds (line.replay config calls).streams held := by
  induction calls generalizing line held with
  | nil => exact ⟨held, holds⟩
  | cons call calls ih =>
      cases call with
      | close => exact ih whenClosed.2 (holds_closeLast holds).2
      | waitClosed =>
          have same : Holds (line.call config .waitClosed).streams held := holds
          exact ih whenClosed.2 same
      | connect host port encrypted =>
          have closed := whenClosed.1 host port encrypted rfl
          rcases streams_of_hear
            (line.network.attemptWithin config.patience host port encrypted).1
            (line.network.attemptWithin config.patience host port encrypted).2 line with
              same | ⟨stream, _, opened⟩
          · have none : Holds (line.call config (.connect host port encrypted)).streams none := by
              rw [call]
              exact same ▸ closed
            exact ih whenClosed.2 none
          · have some : Holds (line.call config (.connect host port encrypted)).streams
                (some stream) := ⟨true, line.streams, opened, closed⟩
            exact ih whenClosed.2 some

end Line

namespace Client

variable {config : Config} {client : Client} {line : Line}

/-- The client is in the state that the calls on its line tell of. -/
structure On (config : Config) (client : Client) (line : Line) : Prop where
  networked : client.driver.backend ≠ .memory
  config_eq : client.driver.config = config
  network_eq : client.network = line.network
  connected_eq : client.driver.connected = client.driver.connection.isSome
  holds : Holds line.streams client.driver.connection

namespace On

/-- A client that is not connected has closed every stream that it has opened. -/
theorem allClosed (on : client.On config line) (away : client.driver.connected ≠ true) :
    AllClosed line.streams := by
  have none : client.driver.connection = none := by
    simpa [on.connected_eq] using away
  have holds := on.holds
  rwa [none] at holds

theorem call_attempt (on : client.On config line) :
    line.call config client.attemptCall = line.hear client.heard client.attempted.network := by
  rw [attemptCall, Line.call, heard, Client.attempted, on.config_eq, on.network_eq]

theorem attempt (on : client.On config line) (away : client.driver.connected ≠ true) :
    client.afterAttempt.2.On config (line.call config client.attemptCall) := by
  have closed := on.allClosed away
  rw [on.call_attempt, afterAttempt]
  cases result : streamOf client.driver client.heard with
  | ok stream =>
      have opened := stream_eq_ok.mp result
      refine ⟨on.networked, on.config_eq, rfl, rfl, true, line.streams, ?_, closed⟩
      rw [opened]
      rfl
  | error fault =>
      have same := streams_of_hear_of_error result client.attempted.network line
      exact ⟨on.networked, on.config_eq, rfl, on.connected_eq, same ▸ on.holds⟩

/-- Closing tells the network that the stream at hand is closed, whatever comes of it. -/
theorem close (on : client.On config line) :
    client.afterClose.2.On config
      (line.replay config (if client.driver.connection.isSome then [.close, .waitClosed] else [])) := by
  have holds := on.holds
  rw [afterClose]
  cases held : client.driver.connection with
  | none =>
      rw [held] at holds
      exact ⟨on.networked, on.config_eq, on.network_eq, rfl, holds⟩
  | some stream =>
      rw [held] at holds
      obtain ⟨closed, kept⟩ := Line.holds_closeLast holds
      have network_eq : client.hungUp.network =
          (line.replay config [.close, .waitClosed]).network := by
        rw [hungUp, on.network_eq]
        rfl
      dsimp only
      cases stream.refusal? with
      | none => exact ⟨on.networked, on.config_eq, network_eq, rfl, closed⟩
      | some fault =>
          refine ⟨on.networked, on.config_eq, network_eq, on.connected_eq, ?_⟩
          change Holds (closeLast line.streams) client.driver.connection
          rw [held]
          exact kept

theorem allClosed_of_close (on : client.On config line) :
    AllClosed (line.replay config
      (if client.driver.connection.isSome then [.close, .waitClosed] else [])).streams := by
  have holds := on.holds
  cases held : client.driver.connection with
  | none =>
      rw [held] at holds
      exact holds
  | some stream =>
      rw [held] at holds
      exact (Line.holds_closeLast holds).1

/-- Nothing is known of a new driver but that it has no stream. -/
theorem ofNew (networked : client.driver.backend ≠ .memory)
    (isNew : client.driver.IsDisconnected) :
    client.On client.driver.config ⟨client.network, [], []⟩ where
  networked
  config_eq := rfl
  network_eq := rfl
  connected_eq := by rw [isNew.1, isNew.2]; rfl
  holds := by rw [isNew.2]; exact nofun

end On

/-- What an attempt to connect comes to.  It is one call, and the driver is changed only
where that opens a stream.  An outage is told as one, and every other fault is that of the
attempt itself.  Where the network does not answer, there is no outcome unless there is a
timeout. -/
structure FreshAttempt (client : Client) (outcome : Except Fault SessionAnswer) (later : Client) :
    Prop where
  calls : later.network.calls = client.network.calls ++ [client.attemptCall]
  network : later.network = client.attempted.network
  succeeds_iff : (∃ answer, outcome = .ok answer) ↔ ∃ stream, client.heard = .opened stream
  opened : ∀ stream, client.heard = .opened stream →
    later.driver = client.driver.connectedBy stream
  disconnected : ∀ fault, outcome = .error fault →
    later.driver = client.driver ∧ later.driver.IsDisconnected
  unavailable_iff : ∀ fault, outcome = .error fault →
    (fault.kind = "ServiceUnavailable" ↔
      client.heard.isLate = true ∨ client.heard.systemText?.isSome = true)
  told : ∀ cause, client.driver.Tells client.heard cause → outcome = .error (.outage cause)
  unchanged : ∀ fault, outcome = .error fault → client.heard ≠ .silent →
    client.heard.isLate = false → client.heard.systemText? = none →
    client.heard = .failed fault
  endless : client.heard = .silent →
    client.driver.config.patience = .unlimited ∧ outcome = .error (.wait .endless)

theorem calls_attempted (client : Client) :
    client.attempted.network.calls = client.network.calls ++ [client.attemptCall] :=
  Network.calls_of_attemptWithin

theorem freshAttempt_of_opened {stream : Stream} (opened : client.heard = .opened stream)
    (answer : SessionAnswer) : client.FreshAttempt (.ok answer) (client.attached stream) where
  calls := client.calls_attempted
  network := rfl
  succeeds_iff := ⟨fun _ => ⟨stream, opened⟩, fun _ => ⟨answer, rfl⟩⟩
  opened other same := by
    cases opened.symm.trans same
    rfl
  disconnected := nofun
  unavailable_iff := nofun
  told cause tells := by
    cases (stream_eq_ok.mpr opened).symm.trans (streamOf_of_tells tells)
  unchanged := nofun
  endless silent := by cases opened.symm.trans silent

theorem freshAttempt_of_failed {fault : Fault}
    (failed : streamOf client.driver client.heard = .error fault)
    (isDisconnected : client.driver.IsDisconnected) :
    client.FreshAttempt (.error fault) client.attempted where
  calls := client.calls_attempted
  network := rfl
  succeeds_iff := by
    refine ⟨nofun, ?_⟩
    rintro ⟨stream, opened⟩
    cases (stream_eq_ok.mpr opened).symm.trans failed
  opened stream opened := by cases (stream_eq_ok.mpr opened).symm.trans failed
  disconnected _ _ := ⟨rfl, isDisconnected⟩
  unavailable_iff := by
    rintro _ ⟨⟩
    exact unavailable_iff failed
  told cause tells := by
    cases failed.symm.trans (streamOf_of_tells tells)
    rfl
  unchanged := by
    rintro _ ⟨⟩
    exact heard_eq_failed failed
  endless silent := by
    refine ⟨(Network.attemptWithin_eq_silent.mp silent).1, ?_⟩
    rw [silent] at failed
    cases failed
    rfl

theorem freshAttempt_of_afterAttempt (on : client.On config line)
    (away : client.driver.connected ≠ true) (answer : SessionAnswer) :
    client.FreshAttempt (client.afterAttempt.1.map fun _ => answer) client.afterAttempt.2 := by
  rw [afterAttempt]
  cases result : streamOf client.driver client.heard with
  | ok stream => exact freshAttempt_of_opened (stream_eq_ok.mp result) answer
  | error fault =>
      have closed : client.driver.connected = false := Bool.eq_false_iff.mpr away
      have unheld : client.driver.connection = none := by
        rw [on.connected_eq] at closed
        simpa using closed
      exact freshAttempt_of_failed result ⟨closed, unheld⟩

end Client

namespace Session

variable {config : Config} {client : Client} {line : Line} {scene : Scene Session}

/-- What is known of a client stays known when a step is made, by the calls of the step. -/
theorem on_clientAfter (on : client.On config line) (operation : SessionOperation) :
    (clientAfter client operation).On config (line.replay config (callsOf client operation)) ∧
      line.ConnectsWhenClosed config (callsOf client operation) := by
  have connecting : client.afterConnect.2.On config
        (line.replay config (if client.driver.connected then [] else [client.attemptCall])) ∧
      line.ConnectsWhenClosed config
        (if client.driver.connected then [] else [client.attemptCall]) := by
    by_cases connected : client.driver.connected = true
    · rw [Client.afterConnect, if_pos connected, if_pos connected]
      exact ⟨on, trivial⟩
    · rw [Client.afterConnect, if_neg connected, if_neg connected]
      exact ⟨on.attempt connected, fun _ _ _ _ => on.allClosed connected, trivial⟩
  have closing : client.afterClose.2.On config (line.replay config
        (if client.driver.connection.isSome then [.close, .waitClosed] else [])) ∧
      line.ConnectsWhenClosed config
        (if client.driver.connection.isSome then [.close, .waitClosed] else []) := by
    refine ⟨on.close, ?_⟩
    split
    · refine ⟨?_, ?_, trivial⟩
      · rintro _ _ _ ⟨⟩
      · rintro _ _ _ ⟨⟩
    · exact trivial
  cases operation with
  | connect => exact connecting
  | enter => exact connecting
  | close => exact closing
  | leave => exact closing
  | _ => exact ⟨on, trivial⟩

/-- What is known of a client stays known over any steps, and attempts are only made where
no stream is open. -/
theorem exists_calls (on : scene.state.client.On config line) (operations : List SessionOperation) :
    ∃ made, (after operations scene).state.client.On config (line.replay config made) ∧
      line.ConnectsWhenClosed config made := by
  induction operations generalizing scene line with
  | nil => exact ⟨[], on, trivial⟩
  | cons operation operations ih =>
      obtain ⟨stepped, whenClosed⟩ := on_clientAfter on operation
      rw [← client_of_perform on.networked operation] at stepped
      obtain ⟨made, reached, later⟩ := ih stepped
      refine ⟨callsOf scene.state.client operation ++ made, ?_, whenClosed.append later⟩
      rw [Line.replay_append]
      exact reached

/-- Only steps that connect make attempts, and only while the driver is not connected. -/
theorem not_connected_of_attempt {operation : SessionOperation} {host : Option String}
    {port : Option Nat} {encrypted : Bool}
    (made : Call.connect host port encrypted ∈ callsOf client operation) :
    client.driver.connected = false := by
  cases connected : client.driver.connected with
  | false => rfl
  | true =>
      cases operation with
      | connect => simp [callsOf, connected] at made
      | enter => simp [callsOf, connected] at made
      | close => simp [callsOf] at made
      | leave => simp [callsOf] at made
      | _ => cases made

theorem calls_of_perform (on : scene.state.client.On config line) (operation : SessionOperation) :
    ((perform operation).run scene).2.state.client.network.calls =
      scene.state.client.network.calls ++ callsOf scene.state.client operation := by
  rw [client_of_perform on.networked, (on_clientAfter on operation).1.network_eq, on.network_eq,
    Line.calls_of_replay]

theorem freshAttempt {operation : SessionOperation} (connects : Connects operation)
    (on : scene.state.client.On config line) (away : scene.state.client.driver.connected ≠ true) :
    scene.state.client.FreshAttempt ((perform operation).run scene).1
      ((perform operation).run scene).2.state.client := by
  obtain ⟨outcome, reached⟩ := run_connects connects on.networked
  rw [outcome, reached, Client.afterConnect, if_neg away]
  exact Client.freshAttempt_of_afterAttempt on away _

/-- In every state that a new driver can reach, it is connected exactly if it holds a
stream.  That stream is the one it has opened last; before it opened another one it has
closed all it had opened, so that at no call more than one is open.  Connecting makes one
fresh attempt where the driver is not connected, which is the only way to make one, and no
call at all where it is. -/
theorem connected_driver_holds_only_open_stream (scene : Scene Session)
    (networked : scene.state.client.driver.backend ≠ .memory)
    (isNew : scene.state.client.driver.IsDisconnected) (operations : List SessionOperation) :
    let start := scene.state.client
    let client := (after operations scene).state.client
    let line := Line.replay start.driver.config ⟨start.network, [], []⟩
    (client.driver.connected = true ↔ client.driver.connection.isSome = true) ∧
      (∃ made, client.network.calls = start.network.calls ++ made ∧
        client.network = (line made).network ∧
        Holds (line made).streams client.driver.connection ∧
        ∀ earlier later, made = earlier ++ later →
          (line earlier).openStreams.length ≤ 1 ∧
          ∀ host port encrypted others, later = .connect host port encrypted :: others →
            AllClosed (line earlier).streams) ∧
      ∀ operation,
        let ran := (perform operation).run (after operations scene)
        (∃ calls, ran.2.state.client.network.calls = client.network.calls ++ calls ∧
          ∀ host port encrypted, .connect host port encrypted ∈ calls →
            client.driver.connected = false) ∧
        (Connects operation →
          if client.driver.connected then
            ran.1 = .ok (.value (.bool true)) ∧ ran.2.state.client = client
          else client.FreshAttempt ran.1 ran.2.state.client) := by
  intro start client line
  have begun : start.On start.driver.config ⟨start.network, [], []⟩ :=
    .ofNew networked isNew
  obtain ⟨made, on, whenClosed⟩ := exists_calls begun operations
  have connected_iff : client.driver.connected = true ↔ client.driver.connection.isSome = true := by
    rw [on.connected_eq]
  refine ⟨connected_iff, ⟨made, ?_, on.network_eq, on.holds, ?_⟩, ?_⟩
  · rw [on.network_eq, Line.calls_of_replay]
  · intro earlier later split
    rw [split] at whenClosed
    obtain ⟨held, holds⟩ := whenClosed.take.holds begun.holds
    refine ⟨Line.openStreams_of_holds holds, ?_⟩
    intro host port encrypted others attempted
    rw [attempted] at whenClosed
    exact whenClosed.drop.1 host port encrypted rfl
  · intro operation ran
    refine ⟨⟨_, calls_of_perform on operation, fun _ _ _ => not_connected_of_attempt⟩, ?_⟩
    intro connects
    by_cases connected : client.driver.connected = true
    · obtain ⟨outcome, reached⟩ := run_connects connects on.networked
      rw [Client.afterConnect, if_pos connected] at outcome reached
      rw [if_pos connected]
      exact ⟨outcome, reached⟩
    · rw [if_neg connected]
      exact freshAttempt connects on connected

theorem refused_driver_connects_afresh :
    let refusal : SystemError := .coded 111 "Connection refused"
    let station : Station := ⟨some "h", some 7687, [.refused refusal, .opened {}]⟩
    let driver : Driver :=
      { backend := .direct, uri := "bolt://h", host := some "h", port := some 7687
        config := { connectionTimeout := .int 30 } }
    let scene : Scene Session := ⟨⟨⟨driver, ⟨[station], []⟩⟩, []⟩, {}, []⟩
    let refused := (after [.connect] scene).state.client
    let ran := (perform .enter).run (after [.connect] scene)
    driver.backend ≠ .memory ∧ driver.IsDisconnected ∧
      refused.driver.connected = false ∧ refused.heard = .opened {} ∧
      refused.FreshAttempt ran.1 ran.2.state.client ∧ ran.2.state.client.driver.connected = true := by
  intro refusal station driver scene refused ran
  have networked : driver.backend ≠ .memory := by decide
  have isNew : driver.IsDisconnected := ⟨rfl, rfl⟩
  have away : refused.driver.connected = false := by rfl
  have heard : refused.heard = .opened {} := by rfl
  have lived := connected_driver_holds_only_open_stream scene networked isNew [.connect]
  have attempted := (lived.2.2 .enter).2 (.inr rfl)
  rw [if_neg (Bool.eq_false_iff.mp away)] at attempted
  refine ⟨networked, isNew, away, heard, attempted, ?_⟩
  rw [attempted.opened _ heard]
  rfl

end Session

end QueryCursor
