import QueryCursor.LookAhead

/-!
# Operations of a look-ahead

The operations that a user can ask of a look-ahead, as data.
-/

namespace QueryCursor

/-- An operation of a look-ahead.  Taking the next item is asked for directly or
by walking over the items, one or several at a time. -/
inductive LookAheadOperation where
  | hasNext
  | peek
  | next
  | advance
  | discard
  | collect (bound : Option Nat)
  deriving DecidableEq

/-- What an operation gives. -/
inductive LookAheadAnswer (α : Type) where
  | done
  | flag (value : Bool)
  | item (item : α)
  | items (items : List α)

namespace LookAhead

variable {σ α : Type} [Source σ α]

/-- Performs an operation. -/
def perform : LookAheadOperation → Action (LookAhead σ α) (LookAheadAnswer α)
  | .hasNext => LookAheadAnswer.flag <$> hasNext
  | .peek => LookAheadAnswer.item <$> peek
  | .next => LookAheadAnswer.item <$> next
  | .advance => LookAheadAnswer.item <$> Source.pull
  | .discard => (fun _ => LookAheadAnswer.done) <$> discard
  | .collect bound => LookAheadAnswer.items <$> Source.collect bound

end LookAhead

end QueryCursor
