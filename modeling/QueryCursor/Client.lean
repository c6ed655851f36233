import QueryCursor.Cursor
import QueryCursor.Driver
import QueryCursor.RowStream

/-!
# Connections

A client is a driver in a network.  It opens a stream when it connects, keeps it
until it is closed, and runs statements.  Timeouts and errors of the operating
system are outages; every other failure of the network comes out as it is.
-/

namespace QueryCursor

/-- A driver and the network it is in. -/
structure Client where
  driver : Driver
  network : Network := {}

namespace Client

/-- Changes the driver. -/
def changeDriver (update : Driver → Driver) : Action Client Unit :=
  .change fun client => { client with driver := update client.driver }

/-- Adds a call to the trace. -/
def trace (call : Call) : Action Client Unit :=
  .change fun client => { client with network := client.network.trace call }

/-- Marks the driver as connected. -/
def markConnected : Action Client Unit := do
  changeDriver fun driver => { driver with connected := true }
  let client ← Action.present
  Action.report (client.driver.notice ("Connected at " ++ client.driver.addressText))

/-- Attempts to open a stream, for as long as the timeout allows. -/
def attempt : Action Client Answer :=
  .ofState fun client =>
    let driver := client.driver
    let (answer, network) :=
      client.network.attemptWithin driver.config.patience driver.host driver.port driver.encrypted
    (.ok answer, { client with network })

/-- The fault of a server that did not answer in time. -/
def timedOut (driver : Driver) : Except Fault Fault := do
  let timeout ← Unhashable.lift driver.config.connectionTimeout.text
  return .outage (.timedOut driver.addressText timeout)

/-- The stream of an answer.  Timeouts and errors of the operating system are
outages, everything else comes out as it is.  Without an answer there is none ever. -/
def streamOf (driver : Driver) : Answer → Except Fault Stream
  | .opened stream => .ok stream
  | .timedOut => timedOut driver >>= throw
  | .silent => .error (.wait .endless)
  | .refused error =>
    if error.isTimeout then timedOut driver >>= throw
    else .error (.outage (.unreachable driver.addressText error.text))
  | .failed fault =>
    if fault.isSystem then
      if fault.kind = "TimeoutError" then timedOut driver >>= throw
      else .error (.outage (.unreachable driver.addressText fault.text))
    else .error fault

/-- Opens a stream to the server, unless there is one. -/
def openStream : Action Client Unit := do
  let client ← Action.present
  if client.driver.connected then return ()
  else
    Action.report (client.driver.notice ("Connecting to " ++ client.driver.addressText))
    let answer ← attempt
    let stream ← Action.ofExcept (streamOf client.driver answer)
    changeDriver fun driver => { driver with connection := some stream }
    markConnected

/-- Connects the driver, or verifies that it is connected. -/
def connect : Action Client Unit := do
  let client ← Action.present
  match client.driver.backend with
  | .memory => markConnected
  | .direct => openStream
  | .routed =>
    openStream
    Action.report
      (client.driver.notice ("Entry point " ++ client.driver.addressText ++ " is available"))

/-- Waits until a stream is closed.  An error of the operating system is only
reported. -/
def awaitClosed (stream : Stream) : Action Client Unit := do
  trace .waitClosed
  match stream.closeFault with
  | none => return ()
  | some fault =>
    if fault.isSystem then
      let client ← Action.present
      Action.report (client.driver.message .warning
        ("Error closing " ++ client.driver.addressText ++ ": " ++ fault.text))
    else throw fault

/-- Closes the stream, if there is one. -/
def closeStream : Action Client Unit := do
  let client ← Action.present
  match client.driver.connection with
  | none => return ()
  | some stream =>
    trace .close
    awaitClosed stream

/-- Closes the stream and disconnects the driver. -/
def close : Action Client Unit := do
  closeStream
  changeDriver fun driver => { driver with connected := false, connection := none }

/-- Connects the driver unless it is connected. -/
def enter : Action Client Unit := do
  let client ← Action.present
  if client.driver.connected then return ()
  else connect

/-- Whether the driver is not connected, which is reported. -/
def isClosed : Action Client Bool := do
  let client ← Action.present
  if client.driver.connected then return false
  else
    Action.report
      (client.driver.message .debug ("Connection closed on: " ++ client.driver.addressText))
    return true

/-- Runs a statement of the table: a cursor over its rows, under the keys of the
first one.  Only the driver in memory runs statements. -/
def run (statement : Value) (parameters : Entries) :
    Action Client (Cursor RowStream Record Summary) := do
  let client ← Action.present
  match client.driver.backend with
  | .memory =>
    if !statement.truth then throw Fault.emptyStatement
    enter
    let rows ← Action.ofExcept (client.driver.table.rows statement)
    let keys ← Action.ofExcept rows.columns
    let summary : Summary :=
      { statement, parameters, server := Value.ofString? client.driver.address? }
    let stream ← RowStream.start keys rows summary
    return Cursor.ofSource keys stream RowStream.summary
  | other => throw (Fault.table (.noMember other.name "run"))

end Client

end QueryCursor
