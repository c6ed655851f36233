import QueryCursor.Proofs.Line

/-!
# Connecting and closing

What one attempt to connect and one call to close come to: what they answer, and what
they do to the driver and to the network.  The driver writes its own messages and no
others.
-/

namespace QueryCursor

namespace Driver

/-- The outage that a driver tells of when an attempt ends in a given answer: it was late,
or the operating system failed it. -/
inductive Tells (driver : Driver) : Answer → Outage → Prop
  | late {answer : Answer} {timeout : String} : answer.isLate = true →
      driver.config.connectionTimeout.text = .ok timeout →
      Tells driver answer (.timedOut driver.addressText timeout)
  | system {answer : Answer} {reason : String} : answer.isLate = false →
      answer.systemText? = some reason →
      Tells driver answer (.unreachable driver.addressText reason)

/-- A timeout that is waited for has a text. -/
theorem exists_text_of_patience {config : Config}
    (accepted : ∀ fault, config.patience ≠ .refused fault) :
    ∃ text, config.connectionTimeout.text = .ok text := by
  obtain ⟨timeout, encrypted⟩ := config
  cases timeout with
  | null => exact ⟨_, rfl⟩
  | bool _ => exact ⟨_, rfl⟩
  | int _ => exact ⟨_, rfl⟩
  | double _ => exact ⟨_, rfl⟩
  | _ => exact absurd rfl (accepted _)

theorem Tells.isOutage {driver : Driver} {answer : Answer} {cause : Outage}
    (tells : driver.Tells answer cause) :
    answer.isLate = true ∨ answer.systemText?.isSome = true := by
  cases tells with
  | late late _ => exact .inl late
  | system _ failed => exact .inr (failed ▸ rfl)

/-- A driver that is not connected and holds no stream, as every new one. -/
def IsDisconnected (driver : Driver) : Prop := driver.connected = false ∧ driver.connection = none

/-- The driver without a connection. -/
def disconnected (driver : Driver) : Driver :=
  { driver with connected := false, connection := none }

/-- The driver connected by a stream. -/
def connectedBy (driver : Driver) (stream : Stream) : Driver :=
  { driver with connected := true, connection := some stream }

/-- The messages are the driver's own. -/
def Logged (driver : Driver) (notes : List Message) : Prop :=
  ∀ note ∈ notes, note.logger = "DB." ++ driver.backend.name

theorem logged_message (driver : Driver) (level : Level) (text : String) :
    driver.Logged [driver.message level text] := by
  intro note member
  rw [List.mem_singleton.mp member]
  rfl

theorem Logged.append {driver : Driver} {first second : List Message} (one : driver.Logged first)
    (other : driver.Logged second) : driver.Logged (first ++ second) := by
  intro note member
  rcases List.mem_append.mp member with member | member
  · exact one note member
  · exact other note member

end Driver

/-- The fault that waiting for a stream to be closed lets through. -/
def Stream.refusal? (stream : Stream) : Option Fault :=
  stream.closeFault.filter fun fault => !fault.isSystem

theorem Stream.refusal?_eq_some {stream : Stream} {fault : Fault} :
    stream.refusal? = some fault ↔ stream.closeFault = some fault ∧ fault.isSystem = false := by
  rw [refusal?, Option.filter_eq_some_iff, Bool.not_eq_true']

namespace Client

variable {client : Client} {scene : Scene Client} {driver : Driver} {answer : Answer}

/-! ## What an answer comes to -/

theorem streamOf_of_late (late : answer.isLate = true) :
    streamOf driver answer = timedOut driver >>= throw := by
  cases answer with
  | opened stream => cases late
  | timedOut => rfl
  | silent => cases late
  | refused error => exact if_pos late
  | failed fault =>
      have named : fault.kind = "TimeoutError" := of_decide_eq_true late
      have isSystem : fault.isSystem = true := by
        rw [Fault.isSystem, named]
        rfl
      simp only [streamOf, isSystem, named, if_true]

theorem streamOf_of_system {reason : String} (inTime : answer.isLate = false)
    (failed : answer.systemText? = some reason) :
    streamOf driver answer = .error (.outage (.unreachable driver.addressText reason)) := by
  cases answer with
  | opened stream => cases failed
  | timedOut => cases failed
  | silent => cases failed
  | refused error =>
      cases failed
      exact if_neg (Bool.eq_false_iff.mp inTime)
  | failed fault =>
      have otherKind : fault.kind ≠ "TimeoutError" := of_decide_eq_false inTime
      simp only [Answer.systemText?, Option.ite_none_right_eq_some, Option.some.injEq] at failed
      obtain ⟨isSystem, rfl⟩ := failed
      simp only [streamOf, isSystem, if_true, if_neg otherKind]

theorem streamOf_of_tells {cause : Outage} (tells : driver.Tells answer cause) :
    streamOf driver answer = .error (.outage cause) := by
  cases tells with
  | late late text =>
      rw [streamOf_of_late late, timedOut, text]
      rfl
  | system inTime failed => exact streamOf_of_system inTime failed

/-- An answer that gives no stream leaves the streams that were opened as they are. -/
theorem streams_of_hear_of_error {fault : Fault} (failed : streamOf driver answer = .error fault)
    (network : Network) (line : Line) : (line.hear answer network).streams = line.streams := by
  rcases line.streams_of_hear answer network with same | ⟨stream, rfl, _⟩
  · exact same
  · cases failed

/-! ## What an attempt hears -/

/-- The call by which the driver attempts to open a stream. -/
def attemptCall (client : Client) : Call :=
  .connect client.driver.host client.driver.port client.driver.encrypted

/-- What an attempt would hear. -/
def heard (client : Client) : Answer :=
  (client.network.attemptWithin client.driver.config.patience client.driver.host
    client.driver.port client.driver.encrypted).1

/-- The client after an attempt that opened no stream. -/
def attempted (client : Client) : Client where
  driver := client.driver
  network :=
    (client.network.attemptWithin client.driver.config.patience client.driver.host
      client.driver.port client.driver.encrypted).2

theorem heard_of_refused {fault : WaitFault} (refused : client.driver.config.patience = .refused fault) :
    client.heard = .failed (.wait fault) := by
  rw [heard, refused]
  rfl

theorem patience_ne_refused (late : client.heard.isLate = true) (fault : WaitFault) :
    client.driver.config.patience ≠ .refused fault := by
  intro refused
  rw [heard_of_refused refused] at late
  cases fault <;> cases late

/-- Every attempt opens a stream, is told as an outage, fails otherwise with the fault at hand,
or is never answered. -/
theorem stream_cases (client : Client) :
    (∃ stream, client.heard = .opened stream ∧
        streamOf client.driver client.heard = .ok stream) ∨
      (∃ cause, client.driver.Tells client.heard cause ∧
        streamOf client.driver client.heard = .error (.outage cause)) ∨
      (∃ fault, client.heard = .failed fault ∧ client.heard.isLate = false ∧
        fault.isSystem = false ∧ streamOf client.driver client.heard = .error fault) ∨
      (client.heard = .silent ∧
        streamOf client.driver client.heard = .error (.wait .endless)) := by
  cases late : client.heard.isLate with
  | true =>
      obtain ⟨timeout, text⟩ := Driver.exists_text_of_patience (patience_ne_refused late)
      have tells : client.driver.Tells client.heard _ := .late late text
      exact .inr (.inl ⟨_, tells, streamOf_of_tells tells⟩)
  | false =>
      cases failed : client.heard.systemText? with
      | some reason =>
          have tells : client.driver.Tells client.heard _ := .system late failed
          exact .inr (.inl ⟨_, tells, streamOf_of_tells tells⟩)
      | none =>
          cases heard : client.heard with
          | opened stream => exact .inl ⟨stream, rfl, rfl⟩
          | timedOut => simp [heard, Answer.isLate] at late
          | silent => exact .inr (.inr (.inr ⟨rfl, rfl⟩))
          | refused error => simp [heard, Answer.systemText?] at failed
          | failed fault =>
              have foreign : fault.isSystem = false := by
                simpa [heard, Answer.systemText?] using failed
              refine .inr (.inr (.inl ⟨fault, rfl, rfl, foreign, ?_⟩))
              simp only [streamOf, foreign, Bool.false_eq_true, if_false]

theorem stream_eq_ok {stream : Stream} :
    streamOf client.driver client.heard = .ok stream ↔ client.heard = .opened stream := by
  constructor
  · intro result
    rcases client.stream_cases with
      ⟨other, opened, same⟩ | ⟨_, _, failed⟩ | ⟨_, _, _, _, failed⟩ | ⟨_, failed⟩
    · rw [same] at result
      cases result
      exact opened
    · cases failed.symm.trans result
    · cases failed.symm.trans result
    · cases failed.symm.trans result
  · intro opened
    rw [opened]
    rfl

/-- A fault of an attempt is an unavailable service exactly if the attempt was late or the
operating system failed it. -/
theorem unavailable_iff {fault : Fault}
    (failed : streamOf client.driver client.heard = .error fault) :
    fault.kind = "ServiceUnavailable" ↔
      client.heard.isLate = true ∨ client.heard.systemText?.isSome = true := by
  rcases client.stream_cases with
    ⟨stream, _, result⟩ | ⟨cause, tells, result⟩ | ⟨other, same, inTime, foreign, result⟩ |
      ⟨silent, result⟩
  · cases failed.symm.trans result
  · cases failed.symm.trans result
    exact ⟨fun _ => tells.isOutage, fun _ => rfl⟩
  · cases failed.symm.trans result
    rw [inTime, same, Answer.systemText?, foreign]
    refine ⟨?_, by simp⟩
    intro named
    rw [Fault.isSystem, named] at foreign
    cases foreign
  · cases failed.symm.trans result
    rw [silent]
    exact ⟨fun named => absurd named (by decide), by simp [Answer.isLate, Answer.systemText?]⟩

/-- A fault that is neither late nor of the system is that of the attempt itself. -/
theorem heard_eq_failed {fault : Fault}
    (failed : streamOf client.driver client.heard = .error fault)
    (answered : client.heard ≠ .silent) (inTime : client.heard.isLate = false)
    (noSystem : client.heard.systemText? = none) : client.heard = .failed fault := by
  rcases client.stream_cases with
    ⟨stream, _, result⟩ | ⟨cause, tells, _⟩ | ⟨other, same, _, _, result⟩ | ⟨silent, _⟩
  · cases failed.symm.trans result
  · rcases tells.isOutage with late | system
    · cases inTime.symm.trans late
    · simp [noSystem] at system
  · cases failed.symm.trans result
    exact same
  · exact absurd silent answered

/-- Asking whether the driver is closed has an answer and changes nothing but the journal. -/
theorem run_isClosed (scene : Scene Client) :
    ∃ notes, isClosed.run scene =
      (.ok (!scene.state.driver.connected), ⟨scene.state, scene.clock, scene.journal ++ notes⟩) := by
  rw [isClosed, Action.run_bind, Action.run_present]
  dsimp only
  cases scene.state.driver.connected with
  | true =>
      refine ⟨[], ?_⟩
      rw [List.append_nil]
      rfl
  | false => exact ⟨_, rfl⟩

/-! ## Attempting to connect -/

/-- The client after an attempt that opened a stream. -/
def attached (stream : Stream) (client : Client) : Client :=
  { client.attempted with driver := client.driver.connectedBy stream }

/-- The outcome of an attempt and the client after it. -/
def afterAttempt (client : Client) : Except Fault Unit × Client :=
  match streamOf client.driver client.heard with
  | .ok stream => (.ok (), client.attached stream)
  | .error fault => (.error fault, client.attempted)

/-- One attempt is made where there is no connection, and none where there is one. -/
def afterConnect (client : Client) : Except Fault Unit × Client :=
  if client.driver.connected then (.ok (), client) else client.afterAttempt

theorem run_attempt (scene : Scene Client) :
    attempt.run scene = (.ok scene.state.heard, scene.withState scene.state.attempted) := rfl

theorem run_openStream (scene : Scene Client) :
    ∃ notes, scene.state.driver.Logged notes ∧
      openStream.run scene =
        (scene.state.afterConnect.1,
          ⟨scene.state.afterConnect.2, scene.clock, scene.journal ++ notes⟩) := by
  obtain ⟨client, clock, journal⟩ := scene
  rw [openStream, Action.run_bind, Action.run_present]
  dsimp only
  cases connected : client.driver.connected with
  | true =>
      refine ⟨[], nofun, ?_⟩
      rw [afterConnect, if_pos connected, List.append_nil]
      rfl
  | false =>
      rw [afterConnect, connected, if_neg Bool.false_ne_true, if_neg Bool.false_ne_true,
        afterAttempt]
      have connecting := client.driver.logged_message .debug
        (client.driver.backend.scheme ++ ": " ++ ("Connecting to " ++ client.driver.addressText))
      rw [Action.run_bind, Action.run_report]
      dsimp only
      rw [Action.run_bind, run_attempt]
      dsimp only [Scene.withState]
      cases streamOf client.driver client.heard with
      | error fault => exact ⟨_, connecting, rfl⟩
      | ok stream =>
          refine ⟨_, connecting.append (client.driver.logged_message .debug
            (client.driver.backend.scheme ++ ": " ++
              ("Connected at " ++ client.driver.addressText))), ?_⟩
          rw [← List.append_assoc]
          rfl

theorem run_connect (scene : Scene Client) (networked : scene.state.driver.backend ≠ .memory) :
    ∃ notes, scene.state.driver.Logged notes ∧
      connect.run scene =
        (scene.state.afterConnect.1,
          ⟨scene.state.afterConnect.2, scene.clock, scene.journal ++ notes⟩) := by
  obtain ⟨notes, logged, opened⟩ := run_openStream scene
  rw [connect, Action.run_bind, Action.run_present]
  dsimp only
  cases kind : scene.state.driver.backend with
  | memory => exact absurd kind networked
  | direct => exact ⟨notes, logged, opened⟩
  | routed =>
      dsimp only
      rw [Action.run_bind, opened]
      cases scene.state.afterConnect.1 with
      | error fault => exact ⟨notes, logged, rfl⟩
      | ok _ =>
          refine ⟨_, logged.append (scene.state.driver.logged_message .debug
            (scene.state.driver.backend.scheme ++ ": " ++
              ("Entry point " ++ scene.state.driver.addressText ++ " is available"))), ?_⟩
          rw [← List.append_assoc]
          rfl

/-- Entering is connecting, except that it says nothing where the driver is connected. -/
theorem run_enter (scene : Scene Client) (networked : scene.state.driver.backend ≠ .memory) :
    ∃ notes, scene.state.driver.Logged notes ∧
      enter.run scene =
        (scene.state.afterConnect.1,
          ⟨scene.state.afterConnect.2, scene.clock, scene.journal ++ notes⟩) := by
  rw [enter, Action.run_bind, Action.run_present]
  dsimp only
  by_cases connected : scene.state.driver.connected = true
  · rw [if_pos connected, afterConnect, if_pos connected]
    refine ⟨[], nofun, ?_⟩
    rw [List.append_nil]
    rfl
  · rw [if_neg connected]
    exact run_connect scene networked

/-! ## Closing -/

/-- The client after it has called to close its stream. -/
def hungUp (client : Client) : Client :=
  { client with network := (client.network.trace .close).trace .waitClosed }

/-- The client without a connection. -/
def released (client : Client) : Client := { client with driver := client.driver.disconnected }

/-- The outcome of closing and the client after it. -/
def afterClose (client : Client) : Except Fault Unit × Client :=
  match client.driver.connection with
  | none => (.ok (), client.released)
  | some stream =>
    match stream.refusal? with
    | none => (.ok (), client.hungUp.released)
    | some fault => (.error fault, client.hungUp)

/-- Waiting fails with nothing but the fault that it lets through. -/
theorem run_awaitClosed (stream : Stream) (scene : Scene Client) :
    ∃ notes, (awaitClosed stream).run scene =
      (match stream.refusal? with
        | none => .ok ()
        | some fault => .error fault,
        ⟨{ scene.state with network := scene.state.network.trace .waitClosed }, scene.clock,
          scene.journal ++ notes⟩) := by
  obtain ⟨closeFault⟩ := stream
  rw [awaitClosed, Action.run_bind, trace, Action.run_change, Stream.refusal?]
  dsimp only
  cases closeFault with
  | none =>
      refine ⟨[], ?_⟩
      rw [List.append_nil]
      rfl
  | some fault =>
      by_cases isSystem : fault.isSystem = true
      · simp only [isSystem, if_true, Option.filter_some, Bool.not_true]
        exact ⟨_, rfl⟩
      · simp only [isSystem, Bool.false_eq_true, if_false, Option.filter_some, Bool.not_false,
          if_true]
        refine ⟨[], ?_⟩
        rw [List.append_nil]
        rfl

theorem run_close (scene : Scene Client) :
    ∃ notes, close.run scene =
      (scene.state.afterClose.1,
        ⟨scene.state.afterClose.2, scene.clock, scene.journal ++ notes⟩) := by
  obtain ⟨client, clock, journal⟩ := scene
  rw [close, Action.run_bind, closeStream, Action.run_bind, Action.run_present, afterClose]
  dsimp only
  cases client.driver.connection with
  | none =>
      refine ⟨[], ?_⟩
      rw [List.append_nil]
      rfl
  | some stream =>
      obtain ⟨notes, waited⟩ := run_awaitClosed stream
        ⟨{ client with network := client.network.trace .close }, clock, journal⟩
      refine ⟨notes, ?_⟩
      dsimp only
      rw [Action.run_bind, trace, Action.run_change]
      simp only [Scene.withState, waited]
      cases stream.refusal? <;> rfl

/-- Closing gives the connection up, or fails with what the stream at hand lets through and
leaves the driver as it is. -/
theorem afterClose_cases (client : Client) :
    (client.afterClose.1 = .ok () ∧ client.afterClose.2.driver = client.driver.disconnected ∧
        ∀ stream, client.driver.connection = some stream → stream.refusal? = none) ∨
      ∃ stream fault, client.driver.connection = some stream ∧ stream.refusal? = some fault ∧
        client.afterClose = (.error fault, client.hungUp) := by
  rw [afterClose]
  cases client.driver.connection with
  | none => exact .inl ⟨rfl, rfl, nofun⟩
  | some stream =>
      dsimp only
      cases refused : stream.refusal? with
      | none =>
          refine .inl ⟨rfl, rfl, ?_⟩
          rintro _ ⟨⟩
          exact refused
      | some fault => exact .inr ⟨stream, fault, rfl, refused, rfl⟩

end Client

end QueryCursor
