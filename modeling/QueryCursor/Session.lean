import QueryCursor.Client
import QueryCursor.Cursor.Operation

/-!
# Sessions

A session is a driver with the cursors that its statements gave, each kept under
a name.  All of them share one clock and one journal.
-/

namespace QueryCursor

/-- A cursor over the rows of a statement. -/
abbrev RowCursor := Cursor RowStream Record Summary

/-- A driver and its cursors by name. -/
structure Session where
  client : Client
  cursors : List (String × RowCursor) := []

/-- What a step of a session gives. -/
inductive SessionAnswer where
  | value (value : Value)
  | summary (summary : Summary)

/-- A step of a session. -/
inductive SessionOperation where
  | connect
  | close
  | isConnected
  | isClosed
  | hasConnection
  | enter
  | leave
  | literal
  | encryption
  | parseAddress (uri : String)
  | run (name : String) (statement : Value) (parameters : Entries)
  | cursor (name : String) (operation : CursorOperation)

namespace Session

/-- The cursor under a name. -/
def cursor? (session : Session) (name : String) : Option RowCursor :=
  (session.cursors.find? (·.1 = name)).map Prod.snd

/-- Keeps a cursor under a name, in place of the one that was there. -/
def keep (name : String) (cursor : RowCursor) (session : Session) : Session :=
  { session with
    cursors := (name, cursor) :: session.cursors.filter (·.1 ≠ name) }

/-- An action of the driver. -/
def onClient {α : Type} (action : Action Client α) : Action Session α :=
  .within Session.client (fun client session => { session with client }) action

/-- An operation of one cursor, which leaves the others as they are. -/
def onCursor (name : String) (cursor : RowCursor) (operation : CursorOperation) :
    Action Session SessionAnswer := do
  let answer ← Action.within (fun _ => cursor) (keep name) (Cursor.perform operation)
  match answer with
  | .value value => return .value value
  | .summary summary => return .summary summary

/-- The fault of naming a cursor that there is none of. -/
def unknownCursor (name : String) : Fault := .foreign "KeyError" name

/-- Performs a step. -/
def perform : SessionOperation → Action Session SessionAnswer
  | .connect => do
    onClient Client.connect
    return .value (.bool true)
  | .close => do
    onClient Client.close
    return .value .null
  | .isConnected => do
    let session ← Action.present
    return .value (.bool session.client.driver.connected)
  | .isClosed => do
    let closed ← onClient Client.isClosed
    return .value (.bool closed)
  | .hasConnection => do
    let session ← Action.present
    return .value (.bool session.client.driver.connection.isSome)
  | .enter => do
    onClient Client.enter
    return .value (.bool true)
  | .leave => do
    onClient Client.close
    return .value .null
  | .literal => do
    let session ← Action.present
    return .value (.string session.client.driver.literal)
  | .encryption => do
    let session ← Action.present
    let encrypted ← Action.ofExcept session.client.driver.encryption?
    return .value (.bool encrypted)
  | .parseAddress uri => do
    let session ← Action.present
    let (host, port) ← Action.ofExcept (session.client.driver.backend.parseAddress uri)
    let portValue :=
      match port with
      | none => Value.null
      | some port => Value.int port
    return .value (.tuple [Value.ofString? host, portValue])
  | .run name statement parameters => do
    let cursor ← onClient (Client.run statement parameters)
    Action.change (keep name cursor)
    let literal ← Action.ofExcept cursor.literal
    return .value (.string literal)
  | .cursor name operation => do
    let session ← Action.present
    match session.cursor? name with
    | none => throw (unknownCursor name)
    | some cursor => onCursor name cursor operation

end Session

end QueryCursor
