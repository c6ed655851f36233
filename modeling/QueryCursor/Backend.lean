import QueryCursor.Fault
import QueryCursor.Uri

/-!
# Kinds of drivers

There are three kinds of drivers: one answers from a table in memory, one
connects to a server directly, and one connects to the entry point of a cluster.
The scheme of a URI chooses the kind, and the kind decides which port an address
without one means.
-/

namespace QueryCursor

/-- The kinds of drivers. -/
inductive Backend where
  | memory
  | direct
  | routed
  deriving DecidableEq

namespace Backend

/-- The name of the driver. -/
def name : Backend → String
  | .memory => "dummy"
  | .direct => "bolt"
  | .routed => "routing"

/-- The scheme under which the driver is chosen, which it also signs its
messages with. -/
def scheme : Backend → String
  | .memory => "dummy"
  | .direct => "bolt"
  | .routed => "bolt+routing"

/-- The port that an address without one means. -/
def defaultPort : Backend → Option Nat
  | .memory => none
  | .direct => some 7687
  | .routed => some 7687

/-- The URI of a driver that is given none; only the driver in memory has one. -/
def defaultUri? : Backend → Option String
  | .memory => some "dummy://localhost"
  | _ => none

/-- Every kind of driver. -/
def all : List Backend := [.memory, .direct, .routed]

/-- The kind of driver that a scheme chooses. -/
def ofScheme? (scheme : String) : Option Backend :=
  all.find? fun backend => backend.scheme = scheme

/-- The kind of driver of a given name. -/
def ofName? (name : String) : Option Backend :=
  all.find? fun backend => backend.name = name

/-- The host and port of a URI.  A missing port, or port zero, is the default
one. -/
def parseAddress (backend : Backend) (uri : String) :
    Except Fault (Option String × Option Nat) :=
  let parsed : Except UriFault (Option String × Option Nat) := do
    let parts ← Uri.split uri
    let port ← parts.port?
    return (parts.host?, (port.filter (· ≠ 0)).or backend.defaultPort)
  parsed.mapError fun reason => .setup (.invalidAddress uri reason)

end Backend

end QueryCursor
