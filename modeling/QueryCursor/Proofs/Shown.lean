import QueryCursor.Proofs.Custody
import QueryCursor.Proofs.Progress

/-!
# What a summary shows

The producer of the records completes the summary while they are read.  A view of
the summary that neither producing nor releasing changes, such as the whole of it
for a source that does not touch it, is the same at every point of a run.
-/

namespace QueryCursor

/-- An answer whose summary is seen through a view. -/
def CursorAnswer.map {τ υ : Type} (view : τ → υ) : CursorAnswer τ → CursorAnswer υ
  | .value answer => .value answer
  | .summary final => .summary (view final)

/-- Neither pulling nor releasing changes what the view shows of the source. -/
def Source.Steady {σ α υ : Type} [Source σ α] (view : σ → υ) : Prop :=
  ∀ scene : Scene σ,
    view (pull.run scene).2.state = view scene.state ∧
      view (release.run scene).2.state = view scene.state

theorem Source.Steady.custody {σ α υ : Type} [Source σ α] {view : σ → υ}
    (steady : Source.Steady view) (given : υ) :
    Source.Custody (fun source => view source = given) fun source => view source = given where
  pull scene shown := (steady scene).1.trans shown
  release scene shown := (steady scene).2.trans shown

namespace Cursor

variable {σ ρ τ υ α : Type} [Source σ (Option ρ)] {view : τ → υ} {given : υ}

/-- The summary of a cursor as it is now. -/
def summaryNow (cursor : Cursor σ ρ τ) : τ := cursor.summary cursor.ahead.source

/-- The view of the summary shows the given value, and goes on to do so. -/
def Shows (view : τ → υ) (given : υ) (scene : Scene (Cursor σ ρ τ)) : Prop :=
  (Source.Steady fun source => view (scene.state.summary source)) ∧
    view scene.state.summaryNow = given

theorem Shows.move (move : Move) (scene : Scene (Cursor σ ρ τ)) (allowed : move.Allowed scene.state)
    (shows : Shows view given scene) : Shows view given (move.action.run scene).2 := by
  obtain ⟨steady, shown⟩ := shows
  have progress := Progress.move move scene allowed
  have kept := (steady.custody given).move move scene allowed
    (LookAhead.inCustody_same.mpr shown)
  rw [Shows, summaryNow, progress.summary_eq]
  exact ⟨steady, LookAhead.inCustody_same.mp kept⟩

section Operations

variable {σ τ υ α : Type}

/-- What is seen of an operation: its outcome, and where it leaves the cursor. -/
def observe (view : τ → υ) (performed : Except Fault (CursorAnswer τ) × Scene (Cursor σ Record τ)) :
    Except Fault (CursorAnswer υ) × Place Record :=
  (performed.1.map (CursorAnswer.map view), performed.2.state.toPlace)

/-- The action never answers with a summary. -/
def NoSummary (action : Action (Cursor σ Record τ) (CursorAnswer τ)) : Prop :=
  ∀ scene final after, action.run scene ≠ (.ok (.summary final), after)

theorem NoSummary.bind {action : Action (Cursor σ Record τ) α}
    {rest : α → Action (Cursor σ Record τ) (CursorAnswer τ)}
    (none : ∀ value, NoSummary (rest value)) : NoSummary (action >>= rest) := by
  intro scene final after ran
  obtain ⟨value, between, _, answered⟩ := Action.of_run_bind_ok ran
  exact none value between final after answered

@[simp] theorem run_answering (action : Action (Cursor σ Record τ) α) (make : α → Value)
    (scene : Scene (Cursor σ Record τ)) :
    (answering action make).run scene =
      ((action.run scene).1.map fun value => .value (make value), (action.run scene).2) := by
  rw [answering, Action.run_bind]
  rcases action.run scene with ⟨_ | _, after⟩ <;> rfl

theorem NoSummary.answering {action : Action (Cursor σ Record τ) α} {make : α → Value} :
    NoSummary (answering action make) :=
  bind fun _ _ _ _ same => nomatch same

variable [Source σ (Option Record)]

theorem summary_of_summarize {scene after : Scene (Cursor σ Record τ)} {final : τ}
    (summarized : summarize.run scene = (.ok final, after)) : final = after.state.summaryNow := by
  rw [summarize] at summarized
  obtain ⟨_, drained, _, summarized⟩ := Action.of_run_bind_ok summarized
  obtain ⟨_, discarded, _, summarized⟩ := Action.of_run_bind_ok summarized
  cases summarized
  rfl

theorem summary_of_perform {operation : CursorOperation} {scene after : Scene (Cursor σ Record τ)}
    {final : τ} (performed : (perform operation).run scene = (.ok (.summary final), after)) :
    final = after.state.summaryNow := by
  cases operation with
  | summarize =>
      obtain ⟨summary, last, summarized, answered⟩ := Action.of_run_bind_ok performed
      cases answered
      exact summary_of_summarize summarized
  | first => exact absurd performed (NoSummary.bind (fun _ => .answering) _ _ _)
  | single => exact absurd performed (NoSummary.bind (fun _ => .answering) _ _ _)
  | enter => exact nomatch performed
  | _ => exact absurd performed (NoSummary.answering _ _ _)

theorem Shows.perform {view : τ → υ} {given : υ} {scene : Scene (Cursor σ Record τ)}
    (shows : Shows view given scene)
    (operation : CursorOperation) : Shows view given ((perform operation).run scene).2 :=
  (trail_of_perform operation scene).keeps Shows.move shows

end Operations

end Cursor

end QueryCursor
