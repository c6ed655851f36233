import QueryCursor.Proofs.Upholding

/-!
# The custody of a source

A cursor turns to its source to ask for items, and once to release it.  What asking
leaves of a source holds until the rest is given up, and what the release makes of
it holds from then on.
-/

namespace QueryCursor

/-- What holds of a source as long as it is only asked for items, and what its release
makes of that, whether it succeeds or fails. -/
structure Source.Custody {σ α : Type} [Source σ α] (held released : σ → Prop) : Prop where
  pull : ∀ scene : Scene σ, held scene.state → held (pull.run scene).2.state
  release : ∀ scene : Scene σ, held scene.state → released (release.run scene).2.state

namespace LookAhead

variable {σ α : Type} {held released : σ → Prop}

/-- The source is held, or was released when the rest was given up. -/
def InCustody (held released : σ → Prop) (ahead : LookAhead σ α) : Prop :=
  match ahead.stage with
  | .exhausted => released ahead.source
  | _ => held ahead.source

theorem InCustody.of_exhausted {ahead : LookAhead σ α} (inCustody : InCustody held released ahead)
    (exhausted : ahead.stage = .exhausted) : released ahead.source := by
  rw [InCustody, exhausted] at inCustody
  exact inCustody

theorem InCustody.of_left {ahead : LookAhead σ α} (inCustody : InCustody held released ahead)
    (left : ahead.stage ≠ .exhausted) : held ahead.source := by
  rw [InCustody] at inCustody
  split at inCustody
  · contradiction
  · exact inCustody

/-- What the release leaves as it is holds in any case. -/
theorem inCustody_same {ahead : LookAhead σ α} :
    InCustody held held ahead ↔ held ahead.source := by
  rw [InCustody]
  split <;> exact Iff.rfl

variable [Source σ α]

theorem InCustody.discard (custody : Source.Custody held released)
    {scene : Scene (LookAhead σ α)} (inCustody : InCustody held released scene.state) :
    InCustody held released (LookAhead.discard.run scene).2.state := by
  obtain ⟨⟨source, stage⟩, clock, journal⟩ := scene
  cases stage with
  | exhausted => exact inCustody
  | empty =>
      rw [run_discard clock journal rfl]
      exact custody.release ⟨source, clock, journal⟩ inCustody
  | holding =>
      rw [run_discard clock journal rfl]
      exact custody.release ⟨source, clock, journal⟩ inCustody

theorem InCustody.fetch (custody : Source.Custody held released)
    {scene : Scene (LookAhead σ α)} (inCustody : InCustody held released scene.state) :
    InCustody held released (LookAhead.fetch.run scene).2.state := by
  obtain ⟨⟨source, stage⟩, clock, journal⟩ := scene
  cases stage with
  | exhausted => exact inCustody
  | holding => exact inCustody
  | empty =>
      have pulled := custody.pull ⟨source, clock, journal⟩ inCustody
      rw [run_fetch_empty, run_refill]
      rcases ran : Source.pull.run (⟨source, clock, journal⟩ : Scene σ) with ⟨fault | item, after⟩
      · rw [ran] at pulled
        simp only
        split
        · exact discard custody pulled
        · exact pulled
      · rw [ran] at pulled
        exact pulled

end LookAhead

namespace Source.Custody

open Cursor

variable {σ ρ τ : Type} [Source σ (Option ρ)] {held released : σ → Prop}

theorem upholds {α : Type} [Source σ α] (custody : Custody held released) :
    LookAhead.Upholds fun (ahead : LookAhead σ α) _ => ahead.InCustody held released where
  fetch _ inCustody := LookAhead.InCustody.fetch custody inCustody
  take _ _ _ inCustody := inCustody
  discard _ inCustody := LookAhead.InCustody.discard custody inCustody

theorem move (custody : Custody held released) (move : Move) (scene : Scene (Cursor σ ρ τ))
    (allowed : move.Allowed scene.state)
    (inCustody : scene.state.ahead.InCustody held released) :
    (move.action.run scene).2.state.ahead.InCustody held released :=
  upholds_move custody.upholds move scene allowed inCustody

theorem sceneAfter {σ τ : Type} [Source σ (Option Record)] {held released : σ → Prop}
    (custody : Custody held released) (operations : List CursorOperation)
    {scene : Scene (Cursor σ Record τ)} (inCustody : scene.state.ahead.InCustody held released) :
    (Cursor.sceneAfter operations scene).state.ahead.InCustody held released :=
  keeps_sceneAfter custody.move operations inCustody

theorem ofSource {σ τ : Type} [Source σ (Option Record)] {held released : σ → Prop}
    (custody : Custody held released) {source : σ} (isHeld : held source) (keys : List Value)
    (summary : σ → τ) (clock : Clock) (journal : List Message)
    (operations : List CursorOperation) :
    (Cursor.sceneAfter operations
      ⟨Cursor.ofSource keys source summary, clock, journal⟩).state.ahead.InCustody held released :=
  custody.sceneAfter operations isHeld

end Source.Custody

end QueryCursor
