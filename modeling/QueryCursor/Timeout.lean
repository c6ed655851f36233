import QueryCursor.Fault
import QueryCursor.Value.Items

/-!
# Timeouts

How long an answer is waited for.  A timeout is a number of seconds, or null where there is
none.  It is looked at after an attempt was asked for and before the attempt begins.
-/

namespace QueryCursor

/-- How long an answer is waited for. -/
inductive Patience where
  /-- The timeout is not one to wait for, so that the attempt does not begin. -/
  | refused (fault : WaitFault)
  /-- The time is over before the attempt can begin. -/
  | expired
  /-- The wait ends by itself where no answer comes in time. -/
  | limited
  /-- The wait ends with an answer only. -/
  | unlimited
  deriving DecidableEq

/-- What a timeout allows.  Positive seconds are added to the clock, for which they have to
fit into a double; those that are infinite never pass. -/
def Patience.ofTimeout : Value → Patience
  | .null => .unlimited
  | timeout =>
    match timeout.quantity? with
    | none => .refused (.unordered timeout.typeName)
    | some (.finite seconds) =>
      if seconds ≤ 0 then .expired
      else if Double.ofRat seconds = Double.infinity false then .refused .tooLong
      else .limited
    | some (.infinite negative) => if negative then .expired else .unlimited
    -- A timer that is set so is due at once, but not before the attempt has begun.
    | some (.nan _) => .limited

end QueryCursor
