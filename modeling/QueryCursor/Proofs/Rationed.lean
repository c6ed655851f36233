import QueryCursor.Proofs.Custody
import QueryCursor.Proofs.Overheard

/-!
# Rationed sources

A rationed source gives only so many items of the source inside it, and says then that
it has ended.  A cursor that never asks it for more runs as one over the source
itself.
-/

namespace QueryCursor

/-- A source of which only so many items are left to take. -/
structure Rationed (σ : Type) where
  source : σ
  left : Nat

namespace SourceCall

variable {α : Type} {ration : Nat} {calls : List (SourceCall α)}

/-- Every request among the calls was made when fewer items had been given than the
ration allows. -/
def Within (ration : Nat) (calls : List (SourceCall α)) : Prop :=
  ∀ earlier outcome, earlier ++ [.pull outcome] <+: calls → (itemsFrom earlier).length < ration

theorem Within.pull (within : Within ration calls) (outcome : Except Fault α)
    (left : (itemsFrom calls).length < ration) : Within ration (calls ++ [.pull outcome]) := by
  intro earlier outcome' begun
  rcases List.prefix_concat_iff.mp begun with same | before
  · rw [(List.append_inj' same rfl).1]
    exact left
  · exact within earlier outcome' before

theorem Within.release (within : Within ration calls) (outcome : Except Fault Unit) :
    Within ration (calls ++ [.release outcome]) := by
  intro earlier outcome' begun
  rcases List.prefix_concat_iff.mp begun with same | before
  · cases (List.append_inj' same rfl).2
  · exact within earlier outcome' before

end SourceCall

namespace Rationed

variable {σ α : Type} [Source σ α]

/-- What is left after an item was asked for. -/
def leftAfter (left : Nat) : Except Fault α → Nat
  | .ok _ => left - 1
  | .error _ => left

/-- Takes the next item as long as one is left to take. -/
def pull : Action (Rationed σ) α :=
  ⟨fun scene =>
    if scene.state.left = 0 then (.error Fault.ended, scene)
    else
      let outcome := Source.pull.run (scene.withState scene.state.source)
      (outcome.1,
        outcome.2.withState ⟨outcome.2.state, leftAfter scene.state.left outcome.1⟩)⟩

theorem run_pull_of_spent {scene : Scene (Rationed σ)} (spent : scene.state.left = 0) :
    (pull : Action (Rationed σ) α).run scene = (.error Fault.ended, scene) :=
  if_pos spent

theorem run_pull_of_left {scene : Scene (Rationed σ)} (left : scene.state.left ≠ 0)
    {outcome : Except Fault α} {after : Scene σ}
    (pulled : Source.pull.run (scene.withState scene.state.source) = (outcome, after)) :
    (pull : Action (Rationed σ) α).run scene =
      (outcome, after.withState ⟨after.state, leftAfter scene.state.left outcome⟩) := by
  simp only [pull, if_neg left, pulled]

instance : Source (Rationed σ) α where
  pull := pull
  release :=
    .within Rationed.source (fun source rationed => { rationed with source }) Source.release
  remaining rationed := Source.remaining rationed.source
  remaining_lt_of_pull := fun {before after item} taken => by
    by_cases left : before.state.left = 0
    · rw [run_pull_of_spent left] at taken
      cases taken
    · rcases pulled : Source.pull.run (before.withState before.state.source) with ⟨outcome, last⟩
      rw [run_pull_of_left left pulled, Prod.mk.injEq] at taken
      obtain ⟨rfl, rfl⟩ := taken
      exact Source.remaining_lt_of_pull pulled

/-- As long as items are left to take, a rationed source does as the one inside. -/
theorem wraps : Source.Wraps (source : Rationed σ → σ) fun rationed => rationed.left ≠ 0 where
  pull scene left := by
    rcases pulled : Source.pull.run (scene.withState scene.state.source) with ⟨outcome, after⟩
    rw [Action.SeenAs, show Source.pull.run scene = _ from run_pull_of_left left pulled, pulled]
    rfl
  release _ := rfl

/-- What is left of a ration of calls to a source that is overheard. -/
structure Spends (ration : Nat) (rationed : Rationed (Overheard σ α)) : Prop where
  taken_add_left : (itemsFrom rationed.source.calls).length + rationed.left = ration
  within : SourceCall.Within ration rationed.source.calls

/-- However a rationed source is used, no more than the ration is taken of the source
inside. -/
theorem custody (ration : Nat) :
    Source.Custody (Spends (σ := σ) (α := α) ration) (Spends ration) where
  pull := by
    intro scene spends
    by_cases left : scene.state.left = 0
    · rw [show Source.pull.run scene = _ from run_pull_of_spent left]
      exact spends
    · have total := spends.taken_add_left
      have fewer : (itemsFrom scene.state.source.calls).length < ration := by omega
      rcases pulled : Source.pull.run (scene.withState scene.state.source.source) with
        ⟨outcome, after⟩
      have heard : Source.pull.run (scene.withState scene.state.source) = (outcome, _) :=
        Overheard.run_pull pulled
      rw [show Source.pull.run scene = _ from run_pull_of_left left heard]
      refine ⟨?_, spends.within.pull outcome fewer⟩
      cases outcome with
      | ok item =>
          simp only [Scene.state_withState, itemsFrom_append, itemsFrom_pull_ok, itemsFrom_nil,
            List.length_append, List.length_singleton, leftAfter]
          omega
      | error fault =>
          simp only [Scene.state_withState, itemsFrom_append, itemsFrom_pull_error, itemsFrom_nil,
            List.append_nil, leftAfter]
          exact total
  release := by
    intro scene spends
    refine ⟨?_, spends.within.release _⟩
    show (itemsFrom (scene.state.source.calls ++ [.release _])).length + scene.state.left = ration
    rw [itemsFrom_append, itemsFrom_release, itemsFrom_nil, List.append_nil]
    exact spends.taken_add_left

end Rationed

/-- The same scene over a source with only so many items left to take. -/
def Cursor.rationed {σ ρ τ : Type} (left : Nat) (scene : Scene (Cursor σ ρ τ)) :
    Scene (Cursor (Rationed σ) ρ τ) :=
  scene.withState (scene.state.wrap (⟨·, left⟩) Rationed.source)

end QueryCursor
