/-!
# Event-loop policy

A faster event loop is installed as the policy of the process when it is
available and not in force already.
-/

namespace QueryCursor

/-- The policy in force. -/
inductive LoopPolicy where
  | standard
  | fast
  deriving DecidableEq

/-- What an installation did. -/
structure Installation where
  installed : Bool
  policy : LoopPolicy
  replaced : Bool
  deriving DecidableEq

namespace LoopPolicy

/-- Installs the fast policy if it is available; one that is in force stays. -/
def install (policy : LoopPolicy) (available : Bool) : Installation :=
  if !available then ⟨false, policy, false⟩
  else ⟨true, .fast, policy != .fast⟩

/-- What a sequence of installations did, one after the other. -/
def installAll (policy : LoopPolicy) : List Bool → List Installation
  | [] => []
  | available :: others =>
    let installation := policy.install available
    installation :: installation.policy.installAll others

end LoopPolicy

end QueryCursor
