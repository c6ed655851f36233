import QueryCursor.Client

/-!
# Replaying calls

The calls of a caller, replayed on the network that it has found, tell what it has
heard: the answer to each attempt to connect, and the streams that were opened.  A call
to close is for the stream that was opened last, because a caller has no other at hand.
-/

namespace QueryCursor

namespace Answer

/-- The attempt ran out of time, by what the system says or by the timeout. -/
def isLate : Answer → Bool
  | .opened _ => false
  | .refused error => error.isTimeout
  | .timedOut => true
  | .silent => false
  | .failed fault => fault.kind = "TimeoutError"

/-- The error of the operating system that ended the attempt, as text. -/
def systemText? : Answer → Option String
  | .refused error => some error.text
  | .failed fault => if fault.isSystem then some fault.text else none
  | _ => none

end Answer

namespace Network

variable {patience : Patience} {host : Option String} {port : Option Nat} {encrypted : Bool}
  {network : Network}

/-- An attempt is traced, whether it begins or not. -/
theorem calls_of_attemptWithin :
    (network.attemptWithin patience host port encrypted).2.calls =
      network.calls ++ [.connect host port encrypted] := by
  cases patience <;> rfl

/-- Nothing is heard at all only from a network that does not answer, without a timeout. -/
theorem attemptWithin_eq_silent :
    (network.attemptWithin patience host port encrypted).1 = .silent ↔
      patience = .unlimited ∧ (network.attempt host port encrypted).1 = .silent := by
  cases patience with
  | refused fault => exact ⟨nofun, nofun⟩
  | expired => exact ⟨nofun, nofun⟩
  | limited =>
      refine ⟨?_, nofun⟩
      rw [attemptWithin]
      rcases network.attempt host port encrypted with ⟨answer, after⟩
      cases answer <;> exact nofun
  | unlimited => exact ⟨fun silent => ⟨rfl, silent⟩, And.right⟩

end Network

/-- A stream that was opened. -/
structure OpenedStream where
  stream : Stream
  isOpen : Bool := true

namespace OpenedStream

/-- The streams after a call to close, with the one opened last in front. -/
def closeLast : List OpenedStream → List OpenedStream
  | [] => []
  | last :: earlier => { last with isOpen := false } :: earlier

/-- No stream of these is open. -/
def AllClosed (streams : List OpenedStream) : Prop :=
  ∀ opened ∈ streams, opened.isOpen = false

/-- The stream at hand is the one that was opened last, and all others are closed. -/
def Holds (streams : List OpenedStream) : Option Stream → Prop
  | none => AllClosed streams
  | some stream => ∃ isOpen earlier, streams = ⟨stream, isOpen⟩ :: earlier ∧ AllClosed earlier

end OpenedStream

/-- A network with what a caller has heard from it: the answers in order, and the streams
that were opened, the last one in front. -/
structure Line where
  network : Network
  answers : List Answer := []
  streams : List OpenedStream := []

namespace Line

open OpenedStream

variable {config : Config} {line : Line}

/-- What is known after one more answer was heard. -/
def hear (answer : Answer) (network : Network) (line : Line) : Line where
  network
  answers := line.answers ++ [answer]
  streams :=
    match answer with
    | .opened stream => ⟨stream, true⟩ :: line.streams
    | _ => line.streams

/-- Makes a call. -/
def call (config : Config) (line : Line) : Call → Line
  | .connect host port encrypted =>
    let (answer, network) := line.network.attemptWithin config.patience host port encrypted
    line.hear answer network
  | .close => { line with network := line.network.trace .close, streams := closeLast line.streams }
  | .waitClosed => { line with network := line.network.trace .waitClosed }

/-- Makes calls one after the other. -/
def replay (config : Config) (line : Line) (calls : List Call) : Line :=
  calls.foldl (call config) line

/-- The streams that are open. -/
def openStreams (line : Line) : List OpenedStream := line.streams.filter OpenedStream.isOpen

theorem replay_append (config : Config) (line : Line) (first second : List Call) :
    line.replay config (first ++ second) = (line.replay config first).replay config second :=
  List.foldl_append

theorem calls_of_replay (config : Config) (line : Line) (calls : List Call) :
    (line.replay config calls).network.calls = line.network.calls ++ calls := by
  induction calls generalizing line with
  | nil => exact (List.append_nil _).symm
  | cons call calls ih =>
      have traced : (line.call config call).network.calls = line.network.calls ++ [call] := by
        cases call with
        | connect host port encrypted => exact Network.calls_of_attemptWithin
        | close => rfl
        | waitClosed => rfl
      change ((line.call config call).replay config calls).network.calls = _
      rw [ih, traced, List.append_assoc]
      rfl

/-- An attempt adds at most an open stream to the streams that were opened. -/
theorem streams_of_hear (answer : Answer) (network : Network) (line : Line) :
    (line.hear answer network).streams = line.streams ∨
      ∃ stream, answer = .opened stream ∧
        (line.hear answer network).streams = ⟨stream, true⟩ :: line.streams := by
  cases answer with
  | opened stream => exact .inr ⟨stream, rfl, rfl⟩
  | refused error => exact .inl rfl
  | timedOut => exact .inl rfl
  | silent => exact .inl rfl
  | failed fault => exact .inl rfl

theorem openStreams_eq_nil : line.openStreams = [] ↔ AllClosed line.streams := by
  simp [openStreams, AllClosed]

theorem openStreams_of_holds {held : Option Stream} (holds : Holds line.streams held) :
    line.openStreams.length ≤ 1 := by
  cases held with
  | none =>
      rw [openStreams_eq_nil.mpr holds]
      exact Nat.zero_le 1
  | some stream =>
      obtain ⟨isOpen, earlier, streams, closed⟩ := holds
      have others : earlier.filter OpenedStream.isOpen = [] := by simpa [AllClosed] using closed
      rw [openStreams, streams, List.filter_cons, others]
      split <;> simp

end Line

end QueryCursor
