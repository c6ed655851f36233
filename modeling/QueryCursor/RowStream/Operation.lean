import QueryCursor.RowStream

/-!
# Operations of a row stream

The operations that a user can ask of a row stream, as data.
-/

namespace QueryCursor

/-- An operation of a row stream. -/
inductive RowStreamOperation where
  | pull
  | close
  | collect (bound : Option Nat)
  deriving DecidableEq

/-- What an operation gives. -/
inductive RowStreamAnswer where
  | done
  | record (record : Option Record)
  | records (records : List (Option Record))

namespace RowStream

/-- Performs an operation. -/
def perform : RowStreamOperation → Action RowStream RowStreamAnswer
  | .pull => RowStreamAnswer.record <$> pull
  | .close => (fun _ => RowStreamAnswer.done) <$> close
  | .collect bound => RowStreamAnswer.records <$> Source.collect bound

end RowStream

end QueryCursor
