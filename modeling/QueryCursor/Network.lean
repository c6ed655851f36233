import QueryCursor.Action
import QueryCursor.Timeout

/-!
# Networks

A network answers each attempt to open a stream to an address with the next of
the outcomes that the address has in store; the last one remains.  It keeps a
trace of every call that is made on it.
-/

namespace QueryCursor

/-- An error of the operating system. -/
inductive SystemError where
  | coded (code : Int) (text : String)
  | described (text : String)
  | silent
  deriving DecidableEq

namespace SystemError

/-- The text of a system error. -/
def text : SystemError → String
  | .coded code text => "[Errno " ++ toString code ++ "] " ++ text
  | .described text => text
  | .silent => ""

/-- The code by which the system says that a connection timed out. -/
def timeoutCode : Int := 110

/-- Whether a system error is a timeout. -/
def isTimeout : SystemError → Bool
  | .coded code _ => code = timeoutCode
  | _ => false

end SystemError

/-- An open stream.  Waiting for it to be closed can fail. -/
structure Stream where
  closeFault : Option Fault := none
  deriving DecidableEq

/-- What an attempt to open a stream comes to. -/
inductive Answer where
  | opened (stream : Stream)
  | refused (error : SystemError)
  | timedOut
  /-- No answer at all; only the caller's patience ends the attempt. -/
  | silent
  | failed (fault : Fault)
  deriving DecidableEq

/-- What is heard of an answer by one who stops waiting for it. -/
def Answer.inTime : Answer → Answer
  | .silent => .timedOut
  | answer => answer

/-- A call on the network.  A stream is asked for before the timeout is looked at. -/
inductive Call where
  | connect (host : Option String) (port : Option Nat) (encrypted : Bool)
  | close
  | waitClosed
  deriving DecidableEq

/-- The outcomes that an address has in store. -/
structure Station where
  host : Option String
  port : Option Nat
  answers : List Answer

/-- The stations that can be reached and the calls so far. -/
structure Network where
  stations : List Station := []
  calls : List Call := []

namespace Network

/-- The answer for an address that no station has. -/
def unreachable : Answer := .refused (.coded 101 "Network is unreachable")

/-- Adds a call to the trace. -/
def trace (call : Call) (network : Network) : Network :=
  { network with calls := network.calls ++ [call] }

/-- The next answer among the outcomes in store, and what remains in store. -/
def draw : List Answer → Answer × List Answer
  | [] => (unreachable, [])
  | [last] => (last, [last])
  | answer :: later => (answer, later)

/-- Draws the answer of the first station with the given address. -/
def drawAt (host : Option String) (port : Option Nat) :
    List Station → Answer × List Station
  | [] => (unreachable, [])
  | station :: others =>
    if station.host = host ∧ station.port = port then
      let (answer, later) := draw station.answers
      (answer, { station with answers := later } :: others)
    else
      let (answer, others) := drawAt host port others
      (answer, station :: others)

/-- One attempt to open a stream to an address. -/
def attempt (host : Option String) (port : Option Nat) (encrypted : Bool)
    (network : Network) : Answer × Network :=
  let (answer, stations) := drawAt host port network.stations
  (answer, { network with stations }.trace (.connect host port encrypted))

/-- What is heard of one attempt, and the network after it.  An attempt that does not begin
takes nothing that the address has in store. -/
def attemptWithin (patience : Patience) (host : Option String) (port : Option Nat)
    (encrypted : Bool) (network : Network) : Answer × Network :=
  match patience with
  | .refused fault => (.failed (.wait fault), network.trace (.connect host port encrypted))
  | .expired => (.timedOut, network.trace (.connect host port encrypted))
  | .limited =>
    let (answer, after) := network.attempt host port encrypted
    (answer.inTime, after)
  | .unlimited => network.attempt host port encrypted

end Network

end QueryCursor
