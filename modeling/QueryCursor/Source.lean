import QueryCursor.Action

/-!
# Sources

A source produces the items of a finite sequence one at a time and can be
released before its end.  Asking a source that has nothing left is answered by a
stop fault.  Every item that is produced brings the source nearer to its end,
which is why every loop over a source ends.
-/

namespace QueryCursor

/-- A party that produces items of type `α`. -/
class Source (σ : Type) (α : outParam Type) where
  /-- Produces the next item. -/
  pull : Action σ α
  /-- Gives up the items that are left. -/
  release : Action σ Unit
  /-- A bound on the number of items that are left. -/
  remaining : σ → Nat
  remaining_lt_of_pull : ∀ {before after : Scene σ} {item : α},
    pull.run before = (.ok item, after) → remaining after.state < remaining before.state

namespace Source

variable {σ α : Type} [Source σ α]

/-- Takes items until the sequence ends, or until as many as the bound allows
have been taken.  A source is not asked for an item beyond the bound. -/
def collectFrom (bound : Option Nat) (scene : Scene σ) : Except Fault (List α) × Scene σ :=
  if bound = some 0 then (.ok [], scene)
  else
    match _ : pull.run scene with
    | (.ok item, after) =>
      let (rest, last) := collectFrom (bound.map Nat.pred) after
      (rest.map (item :: ·), last)
    | (.error fault, after) => (if fault.isStop then .ok [] else .error fault, after)
termination_by remaining scene.state
decreasing_by exact remaining_lt_of_pull ‹_›

/-- A walk takes items until the bound is reached or the source has none. -/
theorem collectFrom_eq {bound : Option Nat} (more : bound ≠ some 0) (scene : Scene σ) :
    collectFrom bound scene =
      match pull.run scene with
      | (.ok item, after) =>
          ((collectFrom (bound.map Nat.pred) after).1.map (item :: ·),
            (collectFrom (bound.map Nat.pred) after).2)
      | (.error fault, after) => (if fault.isStop then .ok [] else .error fault, after) := by
  rw [collectFrom, if_neg more]
  split <;> simp_all

/-- The items that are left, or the first of them up to a bound. -/
def collect (bound : Option Nat) : Action σ (List α) := ⟨collectFrom bound⟩

end Source

end QueryCursor
