import QueryCursor.Proofs.Wrapping

/-!
# Overheard sources

An overheard source keeps every call that is made to it, with what came of it: the
requests for an item, and the releases.  Listening changes nothing about what a
source does, so what is overheard under a cursor is what the source of any cursor
goes through.
-/

namespace QueryCursor

/-- A call to a source, and how it ended. -/
inductive SourceCall (α : Type) where
  | pull (outcome : Except Fault α)
  | release (outcome : Except Fault Unit)

/-- The item that a call gave, if it gave one. -/
def SourceCall.item? {α : Type} : SourceCall α → Option α
  | .pull (.ok item) => some item
  | _ => none

/-- The items that calls gave, in order. -/
def itemsFrom {α : Type} (calls : List (SourceCall α)) : List α := calls.filterMap SourceCall.item?

@[simp] theorem itemsFrom_append {α : Type} (first second : List (SourceCall α)) :
    itemsFrom (first ++ second) = itemsFrom first ++ itemsFrom second :=
  List.filterMap_append

@[simp] theorem itemsFrom_nil {α : Type} : itemsFrom ([] : List (SourceCall α)) = [] := rfl

@[simp] theorem itemsFrom_pull_ok {α : Type} (item : α) (calls : List (SourceCall α)) :
    itemsFrom (.pull (.ok item) :: calls) = item :: itemsFrom calls := rfl

@[simp] theorem itemsFrom_pull_error {α : Type} (fault : Fault) (calls : List (SourceCall α)) :
    itemsFrom (.pull (.error fault) :: calls) = itemsFrom calls := rfl

@[simp] theorem itemsFrom_release {α : Type} (outcome : Except Fault Unit)
    (calls : List (SourceCall α)) : itemsFrom (.release outcome :: calls) = itemsFrom calls := rfl

/-- A source, and the calls that were made to it. -/
structure Overheard (σ α : Type) where
  source : σ
  calls : List (SourceCall α) := []

namespace Overheard

variable {σ α β : Type}

/-- An action on the source, which is heard as a call. -/
def hearing (call : Except Fault β → SourceCall α) (action : Action σ β) :
    Action (Overheard σ α) β :=
  ⟨fun scene =>
    let outcome := action.run (scene.withState scene.state.source)
    (outcome.1, outcome.2.withState ⟨outcome.2.state, scene.state.calls ++ [call outcome.1]⟩)⟩

variable [Source σ α]

instance : Source (Overheard σ α) α where
  pull := hearing .pull Source.pull
  release := hearing .release Source.release
  remaining overheard := Source.remaining overheard.source
  remaining_lt_of_pull := fun {before after item} taken => by
    rcases pulled : Source.pull.run (before.withState before.state.source) with ⟨outcome, last⟩
    simp only [hearing, pulled, Prod.mk.injEq] at taken
    obtain ⟨rfl, rfl⟩ := taken
    exact Source.remaining_lt_of_pull pulled

theorem run_pull {scene : Scene (Overheard σ α)} {outcome : Except Fault α} {after : Scene σ}
    (pulled : Source.pull.run (scene.withState scene.state.source) = (outcome, after)) :
    Source.pull.run scene =
      (outcome, after.withState ⟨after.state, scene.state.calls ++ [.pull outcome]⟩) := by
  rw [show Source.pull.run scene = (hearing .pull Source.pull).run scene from rfl, hearing]
  simp only [pulled]

/-- Listening changes nothing about what the source does. -/
theorem wraps : Source.Wraps (source : Overheard σ α → σ) fun _ => True where
  pull _ _ := rfl
  release _ := rfl

end Overheard

namespace Cursor

variable {σ ρ τ : Type}

/-- The same scene over a source that is overheard from now on. -/
def overheard (scene : Scene (Cursor σ ρ τ)) : Scene (Cursor (Overheard σ (Option ρ)) ρ τ) :=
  scene.withState (scene.state.wrap (⟨·, []⟩) Overheard.source)

/-- A cursor over an overheard source runs as one over the source itself, and leaves it
as that does. -/
theorem overheard_unnoticed {σ τ : Type} [Source σ (Option Record)]
    (scene : Scene (Cursor σ Record τ)) (operations : List CursorOperation) :
    (Action.runAll (operations.map perform) (overheard scene)).map (observe id) =
        (Action.runAll (operations.map perform) scene).map (observe id) ∧
      Wrapped Overheard.source (fun _ => True) (sceneAfter operations (overheard scene))
        (sceneAfter operations scene) := by
  have inStep : InStep (Wrapped (σ := σ) (ρ := Record) (τ := τ) Overheard.source fun _ => True)
      fun _ => True :=
    Wrapped.inStep Overheard.wraps (fun _ _ _ => trivial) (fun _ _ _ _ _ => trivial)
  exact Wrapped.runAll_eq inStep (fun _ _ => trivial) (fun _ _ => trivial)
    (.ofWrap (fun _ => rfl) trivial)

/-- The calls that operations make to the source. -/
def callsDuring {σ τ : Type} [Source σ (Option Record)] (operations : List CursorOperation)
    (scene : Scene (Cursor σ Record τ)) : List (SourceCall (Option Record)) :=
  (sceneAfter operations (overheard scene)).state.ahead.source.calls

theorem callsDuring_of_exhausted {σ τ : Type} [Source σ (Option Record)]
    {scene : Scene (Cursor σ Record τ)} (exhausted : scene.state.ahead.stage = .exhausted)
    (operations : List CursorOperation) : callsDuring operations scene = [] := by
  have progress := Progress.sceneAfter operations (overheard scene)
  rw [callsDuring, progress.ahead_eq exhausted]
  rfl

end Cursor

end QueryCursor
