import QueryCursor.Record

/-!
# Reported failures

The failures that the library reports to its users carry a message and a code.
They belong to classes that callers can tell apart: a mistake of the caller, a
record that cannot exist, a server that cannot be reached, a driver that cannot
be set up, an empty statement.
-/

namespace QueryCursor

/-- The classes of failures. -/
inductive FailureClass where
  | general
  | clientError
  | noSuchRecord
  | serviceUnavailable
  | driverError
  | emptyStatement
  deriving DecidableEq

namespace FailureClass

/-- Every class. -/
def all : List FailureClass :=
  [.general, .clientError, .noSuchRecord, .serviceUnavailable, .driverError, .emptyStatement]

/-- The name of a class. -/
def name : FailureClass → String
  | .general => "AsyncCursorException"
  | .clientError => "ClientError"
  | .noSuchRecord => "NoSuchRecord"
  | .serviceUnavailable => "ServiceUnavailable"
  | .driverError => "DriverError"
  | .emptyStatement => "EmptyStatement"

/-- The class of a given name. -/
def ofName? (name : String) : Option FailureClass :=
  all.find? fun failureClass => failureClass.name = name

/-- The classes that a failure belongs to besides the general one and its own: a
record that cannot exist is a failed lookup, a server that cannot be reached is a
connection error. -/
def others : FailureClass → List String
  | .noSuchRecord => ["LookupError"]
  | .serviceUnavailable => ["ConnectionError", "OSError"]
  | _ => []

/-- Every class that a failure of this class belongs to. -/
def memberships (failureClass : FailureClass) : List String :=
  let own := if failureClass = .general then [] else [failureClass.name]
  FailureClass.general.name :: (own ++ failureClass.others)

end FailureClass

/-- A failure as its receiver sees it. -/
structure Failure where
  failureClass : FailureClass
  message : Value
  code : Value
  arguments : List Value

namespace Failure

/-- The failure with the given arguments.  Without a message the text of the
first argument becomes the message.  Only the message is kept of the
arguments. -/
def make (failureClass : FailureClass) (arguments : List Value) (message code : Value) :
    Except Fault Failure := do
  let message ←
    match arguments with
    | first :: _ =>
      if message.truth then pure message
      else do
        let text ← Unhashable.lift first.text
        pure (Value.string text)
    | [] => pure message
  return { failureClass, message, code, arguments := [message] }

/-- The text of a failure. -/
def text (failure : Failure) : Except Fault String := do
  let message ← Unhashable.lift failure.message.text
  return failure.failureClass.name ++ ": " ++ message

/-- The literal of a failure. -/
def literal (failure : Failure) : Except Fault String := do
  let message ← Unhashable.lift failure.message.literal
  return failure.failureClass.name ++ "(" ++ message ++ ")"

end Failure

end QueryCursor
