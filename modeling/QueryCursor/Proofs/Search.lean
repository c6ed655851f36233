import QueryCursor.Discovery
import QueryCursor.Proofs.Connecting
import QueryCursor.Proofs.Setup

/-!
# Searching for a server

The search for a server goes through the addresses in order and makes one attempt at
each.  It passes those at which the attempt is an outage, with one warning for each of
them, and ends at the first other address, or after the last one.
-/

namespace QueryCursor

/-- The URI of a cluster has the scheme of one, whatever the address looks like. -/
theorem Uri.scheme_of_split_cluster {address : String} {parts : Uri}
    (split : Uri.split (Driver.clusterUri address) = .ok parts) :
    parts.scheme = Backend.routed.scheme := by
  have spelled : (Driver.clusterUri address).toList = "bolt+routing://".toList ++ address.toList := by
    rw [Driver.clusterUri, String.toList_append]
    rfl
  have scheme : (splitScheme (clean ("bolt+routing://".toList ++ address.toList))).1 =
      "bolt+routing".toList := rfl
  rw [(of_split split).1, spelled, scheme]
  rfl

namespace Driver

variable {options : DriverOptions} {address : String} {scene : Scene Network}
  {site : Option String × Option Nat} {driver : Driver}

/-! ## The driver of an address -/

/-- The host and the port that the URI of a cluster names, or what is wrong with it. -/
def siteOfUri (uri : String) : Except Fault (Option String × Option Nat) :=
  match Uri.split uri with
  | .error reason => .error (.uri reason)
  | .ok _ => Backend.routed.parseAddress uri

/-- The host and the port that an address names, or what is wrong with it. -/
def siteOf (address : String) : Except Fault (Option String × Option Nat) :=
  siteOfUri (clusterUri address)

/-- The new driver of a cluster that is entered at an address. -/
def ofSite (options : DriverOptions) (address : String) (site : Option String × Option Nat) :
    Driver where
  backend := .routed
  uri := clusterUri address
  host := site.1
  port := site.2
  auth := options.auth.getD .anonymous
  config := options.config.getD .standard

/-- What is wrong with an address is never an outage. -/
theorem siteOf_ne_outage (address : String) (cause : Outage) :
    siteOf address ≠ .error (.outage cause) := by
  rw [siteOf, siteOfUri]
  cases split : Uri.split (clusterUri address) with
  | error reason => exact nofun
  | ok parts =>
      dsimp only
      rw [Backend.routed.parseAddress_of_split split]
      cases parts.port? <;> exact nofun

theorem run_ofUri_cluster {σ : Type} (options : DriverOptions) (address : String)
    (scene : Scene σ) :
    (ofUri (clusterUri address) options).run scene =
      ((siteOf address).map (ofSite options address), scene) := by
  rw [siteOf, siteOfUri]
  cases split : Uri.split (clusterUri address) with
  | error reason => exact run_ofUri_of_malformed split options scene
  | ok parts =>
      have supported : Backend.ofScheme? parts.scheme = some .routed := by
        rw [Uri.scheme_of_split_cluster split]
        rfl
      have parsed := Backend.routed.parseAddress_of_split split
      rw [run_ofUri_of_supported split supported, make, Action.run_bind]
      dsimp only
      rw [parsed]
      cases parts.port? with
      | error reason => rfl
      | ok port => rfl

/-! ## One attempt -/

/-- What one attempt of a new driver comes to, and the network after it. -/
theorem run_connecting (driver : Driver) (networked : driver.backend ≠ .memory)
    (isNew : driver.IsDisconnected) (scene : Scene Network) :
    ∃ notes, driver.Logged notes ∧
      driver.connecting.run scene =
        ((Client.streamOf driver (Client.heard ⟨driver, scene.state⟩)).map driver.connectedBy,
          ⟨(Client.attempted ⟨driver, scene.state⟩).network, scene.clock,
            scene.journal ++ notes⟩) := by
  obtain ⟨notes, logged, connected⟩ :=
    Client.run_connect (scene.withState (Client.mk driver scene.state)) networked
  refine ⟨notes, logged, ?_⟩
  have attempted : (Client.mk driver scene.state).afterConnect =
      (Client.mk driver scene.state).afterAttempt := if_neg (Bool.eq_false_iff.mp isNew.1)
  rw [Scene.state_withState, attempted, Client.afterAttempt] at connected
  simp only [connecting, connected]
  cases Client.streamOf driver (Client.heard ⟨driver, scene.state⟩) <;> rfl

/-! ## The search -/

/-- An attempt that a search goes on after. -/
structure Visit where
  address : String
  site : Option String × Option Nat
  answer : Answer
  cause : Outage

namespace Visit

/-- The attempt at the address ended in an outage. -/
def IsOutage (options : DriverOptions) (visit : Visit) : Prop :=
  siteOf visit.address = .ok visit.site ∧
    (ofSite options visit.address visit.site).Tells visit.answer visit.cause

/-- The warning that reports the outage. -/
def warning (visit : Visit) : Message :=
  ⟨"root", .warning,
    "Server " ++ visit.address ++ " is not available: " ++ (Fault.outage visit.cause).text⟩

end Visit

/-- The attempt that is made at a site. -/
def callAt (options : DriverOptions) (site : Option String × Option Nat) : Call :=
  .connect site.1 site.2 (options.config.getD .standard).encrypted.truth

/-- The messages that no driver writes. -/
def rootMessages (journal : List Message) : List Message :=
  journal.filter fun message => message.logger = "root"

/-- How a search ends with the addresses that remain: the calls it still makes, what it
hears, the streams that this opens, and the outcome.  Without an address it ends in the
outage of all of them.  An address that names no site ends it without a call.  At any
other it ends with a single call: with a driver by the stream that was opened, or with the
fault of the attempt itself.  Without a timeout it never comes back from a server that does
not answer. -/
inductive Ends (options : DriverOptions) :
    List String → List Call → List Answer → List OpenedStream → Except Fault Driver → Prop
  | unavailable : Ends options [] [] [] [] (.error (.outage .noneAvailable))
  | malformed {address : String} {others : List String} {fault : Fault} :
      siteOf address = .error fault → Ends options (address :: others) [] [] [] (.error fault)
  | connected {address : String} {others : List String} {site : Option String × Option Nat}
      {stream : Stream} : siteOf address = .ok site →
      Ends options (address :: others) [callAt options site] [.opened stream] [⟨stream, true⟩]
        (.ok ((ofSite options address site).connectedBy stream))
  | failed {address : String} {others : List String} {site : Option String × Option Nat}
      {fault : Fault} : siteOf address = .ok site → fault.isSystem = false →
      Ends options (address :: others) [callAt options site] [.failed fault] [] (.error fault)
  | endless {address : String} {others : List String} {site : Option String × Option Nat} :
      siteOf address = .ok site → (options.config.getD .standard).patience = .unlimited →
      Ends options (address :: others) [callAt options site] [.silent] []
        (.error (.wait .endless))

/-- Only a search that has passed all addresses finds none available. -/
theorem Ends.noneAvailable_iff {rest : List String} {calls : List Call} {answers : List Answer}
    {streams : List OpenedStream} {outcome : Except Fault Driver}
    (ends : Ends options rest calls answers streams outcome) :
    outcome = .error (.outage .noneAvailable) ↔ rest = [] := by
  cases ends with
  | unavailable => exact ⟨fun _ => rfl, fun _ => rfl⟩
  | @malformed address _ _ wrong =>
      refine ⟨?_, nofun⟩
      rintro ⟨⟩
      exact absurd wrong (siteOf_ne_outage address _)
  | connected _ => exact ⟨nofun, nofun⟩
  | failed _ foreign =>
      refine ⟨?_, nofun⟩
      rintro ⟨⟩
      cases foreign
  | endless _ _ => exact ⟨nofun, nofun⟩

theorem rootMessages_of_logged {notes : List Message} (networked : driver.backend = .routed)
    (logged : driver.Logged notes) : rootMessages notes = [] := by
  rw [rootMessages, List.filter_eq_nil_iff]
  intro note member
  rw [logged note member, networked]
  decide

/-- A search that has passed some addresses and ends with the rest, from what was known of
the network to what is known afterwards.  It has made one call for each address it passed,
in their order, and heard the outages there. -/
structure Searched (options : DriverOptions) (before : Line) (addresses : List String)
    (passed : List Visit) (rest : List String) (outcome : Except Fault Driver) (after : Line) :
    Prop where
  addresses_eq : addresses = passed.map Visit.address ++ rest
  isOutage : ∀ visit ∈ passed, visit.IsOutage options
  ends : ∃ calls answers streams, Ends options rest calls answers streams outcome ∧
    after = before.replay (options.config.getD .standard)
      (passed.map (fun visit => callAt options visit.site) ++ calls) ∧
    after.answers = before.answers ++ (passed.map Visit.answer ++ answers) ∧
    after.streams = streams ++ before.streams

/-- The client that a search connects at a site. -/
def clientAt (options : DriverOptions) (address : String) (site : Option String × Option Nat)
    (network : Network) : Client :=
  ⟨ofSite options address site, network⟩

/-- An attempt at a site, as a call on the line of the search. -/
theorem call_callAt (options : DriverOptions) (address : String)
    (site : Option String × Option Nat) (line : Line) :
    line.call (options.config.getD .standard) (callAt options site) =
      line.hear (clientAt options address site line.network).heard
        (clientAt options address site line.network).attempted.network := rfl

theorem rootMessages_append (first second : List Message) :
    rootMessages (first ++ second) = rootMessages first ++ rootMessages second :=
  List.filter_append first second

/-- What a search does at an address that names a site: where the attempt is an outage, it
goes on with the others and a warning, and otherwise it ends. -/
theorem run_firstAvailable_cons (options : DriverOptions) (others : List String)
    (named : siteOf address = .ok site) (scene : Scene Network) :
    let client := clientAt options address site scene.state
    ∃ between : Scene Network, between.state = client.attempted.network ∧
      rootMessages between.journal = rootMessages scene.journal ∧
      ((∃ cause, (ofSite options address site).Tells client.heard cause ∧
          (firstAvailable options (address :: others)).run scene =
            (firstAvailable options others).run { between with
              journal := between.journal ++ [Visit.warning ⟨address, site, client.heard, cause⟩] }) ∨
        ∃ streams outcome,
          Ends options (address :: others) [callAt options site] [client.heard] streams outcome ∧
          (∀ line : Line, (line.hear client.heard client.attempted.network).streams =
            streams ++ line.streams) ∧
          (firstAvailable options (address :: others)).run scene = (outcome, between)) := by
  intro client
  obtain ⟨notes, logged, connecting⟩ := run_connecting client.driver nofun ⟨rfl, rfl⟩ scene
  have attempted : client.driver.connecting.run scene =
      ((Client.streamOf client.driver client.heard).map client.driver.connectedBy,
        ⟨client.attempted.network, scene.clock, scene.journal ++ notes⟩) := connecting
  have silent : rootMessages notes = [] := rootMessages_of_logged rfl logged
  have made : (ofUri (clusterUri address) options).run scene = (.ok client.driver, scene) := by
    rw [run_ofUri_cluster, named]
    rfl
  refine ⟨⟨client.attempted.network, scene.clock, scene.journal ++ notes⟩, rfl, ?_, ?_⟩
  · rw [rootMessages_append, silent, List.append_nil]
  · rw [firstAvailable, Action.run_bind, made]
    simp only [Action.recover, attempted]
    rcases client.stream_cases with
      ⟨stream, opened, result⟩ | ⟨cause, tells, result⟩ | ⟨fault, failed, _, foreign, result⟩ |
        ⟨silent, result⟩
    · rw [result]
      refine .inr ⟨[⟨stream, true⟩], .ok (client.driver.connectedBy stream), ?_, ?_, rfl⟩
      · rw [opened]
        exact .connected named
      · rw [opened]
        exact fun _ => rfl
    · rw [result]
      exact .inl ⟨cause, tells, rfl⟩
    · have same := Client.streams_of_hear_of_error result client.attempted.network
      rw [result]
      refine .inr ⟨[], .error fault, ?_, same, ?_⟩
      · rw [failed]
        exact .failed named foreign
      · cases fault with
        | outage cause => cases foreign
        | _ => rfl
    · have same := Client.streams_of_hear_of_error result client.attempted.network
      rw [result]
      refine .inr ⟨[], .error (.wait .endless), ?_, same, rfl⟩
      rw [silent]
      exact .endless named (Network.attemptWithin_eq_silent.mp silent).1

theorem run_firstAvailable_nil (options : DriverOptions) (scene : Scene Network) :
    (firstAvailable options []).run scene = (.error (.outage .noneAvailable), scene) := by
  rw [firstAvailable]
  rfl

theorem run_firstAvailable_of_malformed {others : List String} {fault : Fault}
    (malformed : siteOf address = .error fault) (options : DriverOptions) (scene : Scene Network) :
    (firstAvailable options (address :: others)).run scene = (.error fault, scene) := by
  rw [firstAvailable, Action.run_bind, run_ofUri_cluster, malformed]
  rfl

theorem Searched.ofEnds {addresses : List String} {outcome : Except Fault Driver} {line : Line}
    (ends : Ends options addresses [] [] [] outcome) :
    Searched options line addresses [] addresses outcome line where
  addresses_eq := rfl
  isOutage := List.forall_mem_nil _
  ends := ⟨[], [], [], ends, rfl, (List.append_nil _).symm, rfl⟩

theorem Searched.ofCall {addresses : List String} {outcome : Except Fault Driver} {line : Line}
    {streams : List OpenedStream} {answer : Answer} {network : Network}
    (called : line.call (options.config.getD .standard) (callAt options site) =
      line.hear answer network)
    (opened : (line.hear answer network).streams = streams ++ line.streams)
    (ends : Ends options addresses [callAt options site] [answer] streams outcome) :
    Searched options line addresses [] addresses outcome (line.hear answer network) where
  addresses_eq := rfl
  isOutage := List.forall_mem_nil _
  ends := ⟨_, _, _, ends, called.symm, rfl, opened⟩

theorem Searched.pass {visit : Visit} {others rest : List String} {passed : List Visit}
    {outcome : Except Fault Driver} {before after : Line} {network : Network}
    (isOutage : visit.IsOutage options)
    (called : before.call (options.config.getD .standard) (callAt options visit.site) =
      before.hear visit.answer network)
    (unopened : (before.hear visit.answer network).streams = before.streams)
    (later : Searched options (before.hear visit.answer network) others passed rest outcome after) :
    Searched options before (visit.address :: others) (visit :: passed) rest outcome after where
  addresses_eq := congrArg (visit.address :: ·) later.addresses_eq
  isOutage := List.forall_mem_cons.mpr ⟨isOutage, later.isOutage⟩
  ends := by
    obtain ⟨calls, answers, streams, ends, replayed, heard, opened⟩ := later.ends
    refine ⟨calls, answers, streams, ends, ?_, ?_, ?_⟩
    · rw [replayed, ← called]
      rfl
    · have grown : (before.hear visit.answer network).answers =
          before.answers ++ [visit.answer] := rfl
      rw [heard, grown, List.append_assoc]
      rfl
    · rw [opened, unopened]

theorem exists_searched (options : DriverOptions) (addresses : List String)
    (scene : Scene Network) (line : Line) (network_eq : line.network = scene.state) :
    ∃ passed rest after,
      Searched options line addresses passed rest ((firstAvailable options addresses).run scene).1
        after ∧
      ((firstAvailable options addresses).run scene).2.state = after.network ∧
      rootMessages ((firstAvailable options addresses).run scene).2.journal =
        rootMessages scene.journal ++ passed.map Visit.warning := by
  induction addresses generalizing scene line with
  | nil =>
      rw [run_firstAvailable_nil]
      exact ⟨[], [], line, .ofEnds .unavailable, network_eq.symm, (List.append_nil _).symm⟩
  | cons address others ih =>
      cases named : siteOf address with
      | error fault =>
          rw [run_firstAvailable_of_malformed named]
          exact ⟨[], address :: others, line, .ofEnds (.malformed named), network_eq.symm,
            (List.append_nil _).symm⟩
      | ok site =>
          obtain ⟨between, reached, quiet, step⟩ := run_firstAvailable_cons options others named scene
          have called := call_callAt options address site line
          rw [network_eq] at called
          generalize clientAt options address site scene.state = client at reached step called
          rcases step with ⟨cause, tells, goesOn⟩ | ⟨streams, outcome, ends, opened, ended⟩
          · have unopened := Client.streams_of_hear_of_error (Client.streamOf_of_tells tells)
              client.attempted.network line
            obtain ⟨passed, rest, after, searched, last, warned⟩ := ih { between with
              journal := between.journal ++ [Visit.warning ⟨address, site, client.heard, cause⟩] }
              (line.hear client.heard client.attempted.network) reached.symm
            have isOutage : Visit.IsOutage options ⟨address, site, client.heard, cause⟩ :=
              ⟨named, tells⟩
            rw [goesOn]
            refine ⟨_ :: passed, rest, after, .pass isOutage called unopened searched, last, ?_⟩
            rw [warned, rootMessages_append, quiet, List.append_assoc]
            rfl
          · rw [ended]
            refine ⟨[], address :: others, _, .ofCall called (opened line) ends, reached, ?_⟩
            rw [quiet]
            exact (List.append_nil _).symm

/-- The streams are those that an outcome accounts for: none where there is no driver, and
otherwise the open one that connects it. -/
def AccountsFor (streams : List OpenedStream) : Except Fault Driver → Prop
  | .error _ => streams = []
  | .ok driver => driver.connected = true ∧
      ∃ stream, driver.connection = some stream ∧ streams = [⟨stream, true⟩]

theorem Ends.accountsFor {rest : List String} {calls : List Call} {answers : List Answer}
    {streams : List OpenedStream} {outcome : Except Fault Driver}
    (ends : Ends options rest calls answers streams outcome) : AccountsFor streams outcome := by
  cases ends with
  | connected _ => exact ⟨rfl, _, rfl, rfl⟩
  | _ => rfl

/-- A search passes the addresses, in order and with one attempt and one warning for each,
at which the attempt is an outage.  It ends at the first other one, with a connected driver
of that address or with its very fault, and makes no attempt after that.  It finds none
available exactly if it has passed them all.  Where it fails it has opened no stream, and
where it succeeds only that of its driver. -/
theorem search_ends_at_first_without_outage (options : DriverOptions) (addresses : List String)
    (scene : Scene Network) :
    let ran := (firstAvailable options addresses).run scene
    ∃ (passed : List Visit) (rest : List String) (calls : List Call) (answers : List Answer)
      (streams : List OpenedStream),
      addresses = passed.map Visit.address ++ rest ∧
      (∀ visit ∈ passed, visit.IsOutage options) ∧
      Ends options rest calls answers streams ran.1 ∧
      (let made := passed.map (fun visit => callAt options visit.site) ++ calls
        let line := Line.replay (options.config.getD .standard) ⟨scene.state, [], []⟩ made
        ran.2.state.calls = scene.state.calls ++ made ∧ ran.2.state = line.network ∧
          line.answers = passed.map Visit.answer ++ answers ∧ line.streams = streams) ∧
      rootMessages ran.2.journal = rootMessages scene.journal ++ passed.map Visit.warning ∧
      (ran.1 = .error (.outage .noneAvailable) ↔ rest = []) ∧
      AccountsFor streams ran.1 := by
  intro ran
  obtain ⟨passed, rest, after, searched, reached, warned⟩ :=
    exists_searched options addresses scene ⟨scene.state, [], []⟩ rfl
  obtain ⟨calls, answers, streams, ends, replayed, heard, opened⟩ := searched.ends
  refine ⟨passed, rest, calls, answers, streams, searched.addresses_eq, searched.isOutage, ends, ?_,
    warned, ends.noneAvailable_iff, ends.accountsFor⟩
  rw [List.append_nil] at opened
  refine ⟨?_, ?_, ?_, ?_⟩
  · rw [reached, replayed, Line.calls_of_replay]
  · rw [reached, replayed]
  · rw [← replayed]
    exact heard
  · rw [← replayed]
    exact opened

/-- The first address refuses, the second one answers, and the third is not asked. -/
example :
    let station (port : Nat) (answer : Answer) : Station := ⟨some "h", some port, [answer]⟩
    let refusal : SystemError := .coded 111 "Connection refused"
    let network : Network := ⟨[station 1 (.refused refusal), station 2 (.opened {})], []⟩
    let options : DriverOptions := { config := some { connectionTimeout := .int 5 } }
    let ran := (firstAvailable options ["h:1", "h:2", "h:3"]).run ⟨network, {}, []⟩
    ran.1.map address? = .ok (some "h:2") ∧ ran.2.state.calls.length = 2 := by
  exact ⟨rfl, rfl⟩

end Driver

end QueryCursor
