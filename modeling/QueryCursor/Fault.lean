import QueryCursor.Uri.Fault
import QueryCursor.Value.Hash

/-!
# Faults

Everything that can go wrong is a cause.  Each cause has a kind, the name of the
class of errors it belongs to, and a message.  The end of a sequence is a fault
like any other to the one who asks for the next item, and is recognized by
`Fault.isStop`.
-/

namespace QueryCursor

/-- The two signals that end a sequence: of plain sources and of awaited ones. -/
inductive StopSignal where
  | plain
  | awaited
  deriving DecidableEq

/-- A cursor operation was called in violation of its precondition. -/
inductive Misuse where
  | negativeSkip
  | negativeLimit
  | closed
  | alreadyClosed
  /-- Bulk reading away from the first record. -/
  | notAtFirst (position : Int)
  deriving DecidableEq

/-- The requested record cannot exist at this point of the result. -/
inductive Absence where
  /-- No record is current. -/
  | noCurrent
  /-- Nothing follows the current record. -/
  | pastLast
  /-- The cursor has left the first record. -/
  | leftFirst
  /-- There is no first record. -/
  | emptyResult
  /-- The first record is not the only one. -/
  | several
  deriving DecidableEq

/-- No server could be reached. -/
inductive Outage where
  | timedOut (address timeout : String)
  | unreachable (address reason : String)
  | noneAvailable
  deriving DecidableEq

/-- A wait for an answer that cannot begin, or that does not end by itself. -/
inductive WaitFault where
  /-- The timeout is of a type that is in no order with numbers. -/
  | unordered (type : String)
  /-- The timeout is an integer that no double can hold. -/
  | tooLong
  /-- Nothing ends the wait but its being cancelled from outside. -/
  | endless
  deriving DecidableEq

/-- A driver cannot be configured or loaded. -/
inductive SetupFault where
  | invalidAddress (uri : String) (reason : UriFault)
  | unsupportedScheme (scheme uri : String)
  | notLoaded (backend : String)
  deriving DecidableEq

/-- A record was asked for something it does not have, or to change. -/
inductive RecordFault where
  | arity (columns values : Nat)
  | noColumn (column : String)
  | noAttribute (name record : String)
  | hiddenAttribute (name : String)
  | indexOutOfRange
  | indexTooLarge
  | immutable
  deriving DecidableEq

/-- A table of statements cannot be made of the given data, or its rows are not
rows. -/
inductive TableFault where
  | notIterable (type : String)
  | notSequence (place : Nat)
  | entryLength (place length : Nat)
  | notSubscriptable (type : String)
  | unsized (type : String)
  | noRow (place : Nat)
  | noMember (type name : String)
  deriving DecidableEq

/-- A driver class cannot be found where it is looked for. -/
inductive ImportFault where
  | noProvider (name : String)
  | noDriver (path name : String)
  | emptyName
  | relative (path : String)
  deriving DecidableEq

/-- A failure of any operation of the library or of a party it depends on. -/
inductive Fault where
  | stop (signal : StopSignal) (text : String)
  | misuse (cause : Misuse)
  | absent (cause : Absence)
  | outage (cause : Outage)
  | wait (cause : WaitFault)
  | setup (cause : SetupFault)
  | emptyStatement
  | record (cause : RecordFault)
  | unhashable (part : Unhashable)
  | table (cause : TableFault)
  | uri (cause : UriFault)
  | notImported (cause : ImportFault)
  | missingUri (driver : String)
  | frozen (field : String)
  /-- A duration that no integer can count. -/
  | infiniteDuration
  | undefinedDuration
  /-- A failure of another party, passed on as it is. -/
  | foreign (kind text : String)
  deriving DecidableEq

namespace Misuse

/-- The message of a misuse. -/
def message : Misuse → String
  | .negativeSkip => "Cannot skip negative number of elements"
  | .negativeLimit => "Cannot limit negative number of elements"
  | .closed => "Cursor already closed"
  | .alreadyClosed => "Already closed"
  | .notAtFirst position =>
    "Can't retain records when cursor is not pointing at the first record "
      ++ "(currently at position " ++ toString position ++ ")"

end Misuse

namespace Absence

/-- The message of an absence. -/
def message : Absence → String
  | .noCurrent =>
    "In order to access the fields of a record in a result, "
      ++ "you must first call next() to point the result to the next record in the result stream."
  | .pastLast => "Cannot peek past the last record of this result."
  | .leftFirst =>
    "Cannot retrieve the first record, because this result cursor has been moved already. "
      ++ "Please ensure you are not calling \x60first\x60 multiple times, or are mixing it with "
      ++ "calls to \x60next\x60, \x60single\x60, \x60list\x60 or any other method that changes the "
      ++ "position of the cursor."
  | .emptyResult => "Cannot retrieve the first record, because this result is empty."
  | .several =>
    "Expected a result with a single record, but this result contains at least one more. "
      ++ "Ensure your query returns only one record, or use \x60first\x60 instead of "
      ++ "\x60single\x60 if you do not care about the number of records in the result."

end Absence

namespace Outage

/-- The message of an outage. -/
def message : Outage → String
  | .timedOut address timeout =>
    "Timed out connecting to " ++ address ++ " after " ++ timeout ++ " seconds"
  | .unreachable address reason => "Unable to connect to " ++ address ++ ": " ++ reason
  | .noneAvailable => "Failed to discover an available server"

end Outage

namespace WaitFault

/-- The kind of a wait fault. -/
def kind : WaitFault → String
  | .unordered _ => "TypeError"
  | .tooLong => "OverflowError"
  | .endless => "CancelledError"

/-- The message of a wait fault. -/
def message : WaitFault → String
  | .unordered type => "'<=' not supported between instances of '" ++ type ++ "' and 'int'"
  | .tooLong => "int too large to convert to float"
  | .endless => ""

end WaitFault

namespace SetupFault

/-- The message of a setup that failed. -/
def message : SetupFault → String
  | .invalidAddress uri reason =>
    "Invalid address on URI " ++ Text.quote uri ++ ": " ++ reason.message
  | .unsupportedScheme scheme uri =>
    "Unsupported URI scheme " ++ Text.quote scheme ++ " on " ++ Text.quote uri
  | .notLoaded backend => "Cannot Load Backend " ++ backend

end SetupFault

namespace RecordFault

/-- The kind of a record fault. -/
def kind : RecordFault → String
  | .arity _ _ => "ValueError"
  | .noColumn _ => "KeyError"
  | .noAttribute _ _ => "AttributeError"
  | .hiddenAttribute _ => "AttributeError"
  | .indexOutOfRange => "IndexError"
  | .indexTooLarge => "IndexError"
  | .immutable => "TypeError"

/-- The message of a record fault. -/
def message : RecordFault → String
  | .arity columns values =>
    "Record: " ++ toString columns ++ " keys given for " ++ toString values ++ " values"
  | .noColumn column => "Record Error: invalid column name " ++ column
  | .noAttribute name record =>
    "Record Error: invalid column name " ++ name ++ " on " ++ record
  | .hiddenAttribute name => name
  | .indexOutOfRange => "tuple index out of range"
  | .indexTooLarge => "cannot fit 'int' into an index-sized integer"
  | .immutable => "Record is immutable"

end RecordFault

namespace TableFault

/-- The kind of a table fault. -/
def kind : TableFault → String
  | .notIterable _ => "TypeError"
  | .notSequence _ => "TypeError"
  | .entryLength _ _ => "ValueError"
  | .notSubscriptable _ => "TypeError"
  | .unsized _ => "TypeError"
  | .noRow _ => "KeyError"
  | .noMember _ _ => "AttributeError"

/-- The message of a table fault. -/
def message : TableFault → String
  | .notIterable type => "'" ++ type ++ "' object is not iterable"
  | .notSequence place =>
    "cannot convert dictionary update sequence element #" ++ toString place ++ " to a sequence"
  | .entryLength place length =>
    "dictionary update sequence element #" ++ toString place ++ " has length "
      ++ toString length ++ "; 2 is required"
  | .notSubscriptable type => "'" ++ type ++ "' object is not subscriptable"
  | .unsized type => "object of type '" ++ type ++ "' has no len()"
  | .noRow place => toString place
  | .noMember type name => "'" ++ type ++ "' object has no attribute '" ++ name ++ "'"

end TableFault

namespace ImportFault

/-- The kind of an import fault. -/
def kind : ImportFault → String
  | .noProvider _ => "ImportError"
  | .noDriver _ _ => "ImportError"
  | .emptyName => "ValueError"
  | .relative _ => "TypeError"

/-- The message of an import fault. -/
def message : ImportFault → String
  | .noProvider name => "No Provider " ++ name ++ " Found"
  | .noDriver path name => "Module " ++ path ++ " has no driver " ++ name
  | .emptyName => "Empty module name"
  | .relative path =>
    "the 'package' argument is required to perform a relative import for " ++ Text.quote path

end ImportFault

/-- What cannot be hashed, by the name of its type. -/
def Unhashable.message : Unhashable → String
  | .list => "unhashable type: 'list'"
  | .mapping => "unhashable type: 'dict'"

/-- The kind of a stop signal. -/
def StopSignal.kind : StopSignal → String
  | .plain => "StopIteration"
  | .awaited => "StopAsyncIteration"

/-- The error that stands for a stop signal inside a frame. -/
def StopSignal.inside (signal : StopSignal) (frame : String) : Fault :=
  .foreign "RuntimeError" (frame ++ " raised " ++ signal.kind)

namespace Fault

/-- How a fault leaves a coroutine that does not catch it.  A plain stop would be taken for
the coroutine's own end. -/
def leavingCoroutine : Fault → Fault
  | .stop .plain _ => StopSignal.inside .plain "coroutine"
  | other => other

/-- The end of an awaited sequence, said without words. -/
def ended : Fault := .stop .awaited ""

/-- Whether a fault only says that a sequence has ended. -/
def isStop : Fault → Bool
  | .stop _ _ => true
  | _ => false

/-- The fault that a party outside the library reports under a kind. -/
def ofKind (kind text : String) : Fault :=
  if kind = StopSignal.plain.kind then .stop .plain text
  else if kind = StopSignal.awaited.kind then .stop .awaited text
  else .foreign kind text

/-- The name of the class of errors that a fault belongs to. -/
def kind : Fault → String
  | .stop signal _ => signal.kind
  | .misuse _ => "ClientError"
  | .absent _ => "NoSuchRecord"
  | .outage _ => "ServiceUnavailable"
  | .wait cause => cause.kind
  | .setup _ => "DriverError"
  | .emptyStatement => "EmptyStatement"
  | .record cause => cause.kind
  | .unhashable _ => "TypeError"
  | .table cause => cause.kind
  | .uri _ => "ValueError"
  | .notImported cause => cause.kind
  | .missingUri _ => "TypeError"
  | .frozen _ => "FrozenInstanceError"
  | .infiniteDuration => "OverflowError"
  | .undefinedDuration => "ValueError"
  | .foreign kind _ => kind

/-- The message of a fault. -/
def message : Fault → String
  | .stop _ text => text
  | .misuse cause => cause.message
  | .absent cause => cause.message
  | .outage cause => cause.message
  | .wait cause => cause.message
  | .setup cause => cause.message
  | .emptyStatement => "asynccursor.drivers.dummy Error: cannot use an empty statement"
  | .record cause => cause.message
  | .unhashable part => part.message
  | .table cause => cause.message
  | .uri cause => cause.message
  | .notImported cause => cause.message
  | .missingUri driver =>
    driver ++ ".__init__() missing 1 required positional argument: 'uri'"
  | .frozen field => "cannot assign to field " ++ Text.quote field
  | .infiniteDuration => "cannot convert float infinity to integer"
  | .undefinedDuration => "cannot convert float NaN to integer"
  | .foreign _ text => text

/-- The kinds of errors that are the library's own. -/
def libraryKinds : List String :=
  ["AsyncCursorException", "ClientError", "NoSuchRecord", "ServiceUnavailable", "DriverError",
    "EmptyStatement"]

/-- How a fault is written into a message or the journal: the library's own
faults begin with their kind, and a missing key is quoted. -/
def text (fault : Fault) : String :=
  if libraryKinds.contains fault.kind then fault.kind ++ ": " ++ fault.message
  else if fault.kind = "KeyError" then Text.quote fault.message
  else fault.message

/-- The kinds of operating-system errors.  An unavailable service is one of
them. -/
def systemKinds : List String :=
  ["OSError", "IOError", "EnvironmentError", "BlockingIOError", "ChildProcessError",
    "ConnectionError", "BrokenPipeError", "ConnectionAbortedError", "ConnectionRefusedError",
    "ConnectionResetError", "FileExistsError", "FileNotFoundError", "InterruptedError",
    "IsADirectoryError", "NotADirectoryError", "PermissionError", "ProcessLookupError",
    "TimeoutError", "ServiceUnavailable"]

/-- Whether a fault is an operating-system error. -/
def isSystem (fault : Fault) : Bool :=
  systemKinds.contains fault.kind

/-- Whether a fault says that a lookup found nothing. -/
def isLookup : Fault → Bool
  | .record (.noColumn _) => true
  | .record .indexOutOfRange => true
  | .record .indexTooLarge => true
  | _ => false

end Fault

/-- The outcome of hashing, as an outcome of the library. -/
def Unhashable.lift {α : Type} (outcome : Except Unhashable α) : Except Fault α :=
  outcome.mapError .unhashable

end QueryCursor
