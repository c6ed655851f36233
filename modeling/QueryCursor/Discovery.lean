import QueryCursor.Client

/-!
# Discovering a server

A cluster is entered through the first of several addresses that answers.
-/

namespace QueryCursor

namespace Driver

/-- The URI that names a cluster by one of its addresses. -/
def clusterUri (address : String) : String :=
  Backend.routed.scheme ++ "://" ++ address

/-- Connects a driver, leaving it and the network as they are afterwards. -/
def connecting (driver : Driver) : Action Network Driver :=
  ⟨fun scene =>
    let (outcome, after) := Client.connect.run (scene.withState ⟨driver, scene.state⟩)
    (outcome.map fun _ => after.state.driver, after.withState after.state.network)⟩

/-- A connected driver for the first address that answers.  The addresses are
tried in order and once each; an outage is reported and leads to the next one,
any other failure ends the search. -/
def firstAvailable (options : DriverOptions) : List String → Action Network Driver
  | [] => throw (Fault.outage .noneAvailable)
  | address :: others => do
    let driver ← ofUri (clusterUri address) options
    Action.recover driver.connecting fun fault =>
      match fault with
      | .outage cause => do
        Action.report ⟨"root", .warning,
          "Server " ++ address ++ " is not available: " ++ (Fault.outage cause).text⟩
        firstAvailable options others
      | other => throw other

end Driver

end QueryCursor
