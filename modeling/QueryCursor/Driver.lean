import QueryCursor.Action
import QueryCursor.Backend
import QueryCursor.Network
import QueryCursor.Settings
import QueryCursor.Table

/-!
# Drivers

A driver holds the address and the settings of a server and at most one stream
to it.  A new driver is not connected.
-/

namespace QueryCursor

/-- A driver, its connection and, for the one in memory, its table. -/
structure Driver where
  backend : Backend
  uri : String
  host : Option String
  port : Option Nat
  auth : AuthToken := .anonymous
  config : Config := .standard
  table : Table := []
  connected : Bool := false
  connection : Option Stream := none

/-- What a driver is made of besides its URI. -/
structure DriverOptions where
  auth : Option AuthToken := none
  config : Option Config := none
  data : Value := .null

namespace Driver

/-- The address of the server: its host, and its port if it has one. -/
def address? (driver : Driver) : Option String :=
  driver.host.map fun host =>
    match driver.port with
    | none => host
    | some port => host ++ ":" ++ toString port

/-- The address as it is written in messages. -/
def addressText (driver : Driver) : String := driver.address?.getD "None"

/-- The literal of a driver. -/
def literal (driver : Driver) : String :=
  "<" ++ driver.backend.name ++ " " ++ driver.addressText ++ ">"

/-- A message of the driver in the journal. -/
def message (driver : Driver) (level : Level) (text : String) : Message :=
  ⟨"DB." ++ driver.backend.name, level, text⟩

/-- A message that begins with the scheme of the driver. -/
def notice (driver : Driver) (text : String) : Message :=
  driver.message .debug (driver.backend.scheme ++ ": " ++ text)

/-- A new driver of a given kind, which is not connected. -/
def make {σ : Type} (backend : Backend) (uri : String) (options : DriverOptions) :
    Action σ Driver := do
  let (host, port) ← Action.ofExcept (backend.parseAddress uri)
  let driver : Driver := {
    backend, uri, host, port
    auth := options.auth.getD .anonymous
    config := options.config.getD .standard }
  match backend with
  | .memory =>
    let table ← Action.ofExcept (Table.ofValue options.data)
    Action.report
      (driver.message .debug ("Dummy driver with " ++ toString table.length ++ " statements"))
    return { driver with table }
  | _ => return driver

/-- A new driver of a given kind, at the URI given or at the default one. -/
def ofBackend {σ : Type} (backend : Backend) (uri? : Option String) (options : DriverOptions) :
    Action σ Driver :=
  match uri?.or backend.defaultUri? with
  | some uri => make backend uri options
  | none => throw (Fault.missingUri Backend.direct.name)

/-- A new driver of the kind that the scheme of the URI chooses.  A setup fault
of the driver comes out as it is, any other failure is reported and comes out as
a driver that cannot be loaded.  The URI is split before anything is guarded, so
a malformed one is a fault of its own. -/
def ofUri {σ : Type} (uri : String) (options : DriverOptions) : Action σ Driver := do
  let parts ← Action.ofExcept ((Uri.split uri).mapError Fault.uri)
  match Backend.ofScheme? parts.scheme with
  | none => throw (Fault.setup (.unsupportedScheme parts.scheme uri))
  | some backend =>
    Action.recover (make backend uri options) fun fault =>
      match fault with
      | .setup cause => throw (Fault.setup cause)
      | other => do
        Action.report ⟨"root", .error, other.text⟩
        throw (Fault.setup (.notLoaded backend.name))

/-- Whether connections are encrypted. -/
def encrypted (driver : Driver) : Bool := driver.config.encrypted.truth

/-- Whether a connection can be encrypted, for the drivers that open streams. -/
def encryption? (driver : Driver) : Except Fault Bool :=
  match driver.backend with
  | .memory => .error (.table (.noMember driver.backend.name "ssl_context"))
  | _ => .ok driver.encrypted

end Driver

end QueryCursor
