import QueryCursor.Proofs.Accord
import QueryCursor.Proofs.Progress

/-!
# Wrapped sources

A source can wrap another one: it keeps something besides, and passes on what it is
asked for as long as it is ready to.  A cursor over such a source runs as one over
the source inside, if it only asks the wrapped source when that is ready.
-/

namespace QueryCursor

/-- Seen through a view of the state, the first action does in a scene what the second
does. -/
def Action.SeenAs {σ ρ α : Type} (view : σ → ρ) (first : Action σ α) (second : Action ρ α)
    (scene : Scene σ) : Prop :=
  second.run (scene.withState (view scene.state)) =
    ((first.run scene).1, (first.run scene).2.withState (view (first.run scene).2.state))

/-- A source that does what the one inside it does, where it is ready to. -/
structure Source.Wraps {ω σ α : Type} [Source ω α] [Source σ α] (inner : ω → σ)
    (ready : ω → Prop) : Prop where
  pull : ∀ scene : Scene ω, ready scene.state → Action.SeenAs inner pull pull scene
  release : ∀ scene : Scene ω, Action.SeenAs inner release release scene

namespace LookAhead

variable {ω σ α : Type} [Source ω α] [Source σ α] {inner : ω → σ} {ready : ω → Prop}

/-- The look-ahead at the source inside. -/
def unwrap (inner : ω → σ) (ahead : LookAhead ω α) : LookAhead σ α :=
  ⟨inner ahead.source, ahead.stage⟩

theorem discard_unwrap (wraps : Source.Wraps inner ready) (scene : Scene (LookAhead ω α)) :
    Action.SeenAs (unwrap inner) discard discard scene := by
  obtain ⟨⟨source, stage⟩, clock, journal⟩ := scene
  have released := wraps.release ⟨source, clock, journal⟩
  simp only [Action.SeenAs, Scene.withState] at released ⊢
  cases stage with
  | exhausted => rfl
  | empty =>
      rw [run_discard clock journal rfl, unwrap, run_discard clock journal rfl]
      simp only [released]
      rfl
  | holding =>
      rw [run_discard clock journal rfl, unwrap, run_discard clock journal rfl]
      simp only [released]
      rfl

/-- An empty look-ahead is to have a source that is ready. -/
theorem fetch_unwrap (wraps : Source.Wraps inner ready) (scene : Scene (LookAhead ω α))
    (isReady : scene.state.stage = .empty → ready scene.state.source) :
    Action.SeenAs (unwrap inner) fetch fetch scene := by
  obtain ⟨⟨source, stage⟩, clock, journal⟩ := scene
  cases stage with
  | exhausted => rfl
  | holding => rfl
  | empty =>
      have pulled := wraps.pull ⟨source, clock, journal⟩ (isReady rfl)
      simp only [Action.SeenAs, Scene.withState] at pulled ⊢
      rw [run_fetch_empty, run_refill, unwrap, run_fetch_empty, run_refill, pulled]
      rcases ran : Source.pull.run (⟨source, clock, journal⟩ : Scene ω) with ⟨fault | item, after⟩
      · simp only
        split
        · exact discard_unwrap wraps (after.withState ⟨after.state, .empty⟩)
        · rfl
      · rfl

end LookAhead

namespace Cursor

variable {ω σ ρ τ : Type} {inner : ω → σ} {ready : ω → Prop} {summary : σ → τ}

/-- The cursor over the source inside. -/
def unwrap (inner : ω → σ) (summary : σ → τ) (cursor : Cursor ω ρ τ) : Cursor σ ρ τ where
  toPlace := cursor.toPlace
  ahead := cursor.ahead.unwrap inner
  summary := summary

/-- The cursor over the source wrapped. -/
def wrap (outer : σ → ω) (inner : ω → σ) (cursor : Cursor σ ρ τ) : Cursor ω ρ τ where
  toPlace := cursor.toPlace
  ahead := cursor.ahead.unwrap outer
  summary := fun source => cursor.summary (inner source)

theorem onAhead_unwrap {α : Type} {action : Action (LookAhead ω (Option ρ)) α}
    {action' : Action (LookAhead σ (Option ρ)) α} {scene : Scene (Cursor ω ρ τ)}
    (seen : Action.SeenAs (LookAhead.unwrap inner) action action'
      (scene.withState scene.state.ahead)) :
    Action.SeenAs (unwrap inner summary) (onAhead action) (onAhead action') scene := by
  simp only [Action.SeenAs, Scene.withState] at seen
  simp only [Action.SeenAs, run_onAhead, Scene.withState, unwrap, seen]

variable [Source ω (Option ρ)] [Source σ (Option ρ)]

theorem discard_unwrap (wraps : Source.Wraps inner ready) (scene : Scene (Cursor ω ρ τ)) :
    Action.SeenAs (unwrap inner summary) discard discard scene := by
  by_cases exhausted : scene.state.ahead.stage = .exhausted
  · have exhausted' : (scene.withState (unwrap inner summary scene.state)).state.ahead.stage =
        .exhausted := exhausted
    rw [Action.SeenAs, run_discard_of_exhausted exhausted, run_discard_of_exhausted exhausted']
  · have left : (scene.withState (unwrap inner summary scene.state)).state.ahead.stage ≠
        .exhausted := exhausted
    have discarded : Action.SeenAs (unwrap inner summary) (onAhead LookAhead.discard)
        (onAhead LookAhead.discard)
        { scene with journal := scene.journal ++ [discarding scene.state.toPlace] } :=
      onAhead_unwrap (LookAhead.discard_unwrap wraps _)
    rw [Action.SeenAs, run_discard_of_left exhausted, run_discard_of_left left]
    exact discarded

theorem move_unwrap (wraps : Source.Wraps inner ready) (move : Move) {scene : Scene (Cursor ω ρ τ)}
    (allowed : move.Allowed scene.state)
    (isReady : scene.state.ahead.stage = .empty → ready scene.state.ahead.source) :
    Action.SeenAs (unwrap inner summary) move.action move.action scene := by
  cases move with
  | look => exact onAhead_unwrap (LookAhead.fetch_unwrap wraps _ isReady)
  | clear => rfl
  | shut => rfl
  | discard => exact discard_unwrap wraps scene
  | cap records =>
      rw [Action.SeenAs, run_cap, run_cap]
      split
      · exact discard_unwrap wraps (limitedTo records scene)
      · rfl
  | step =>
      obtain ⟨_, record, held⟩ := allowed
      have held' : (scene.withState (unwrap inner summary scene.state)).state.ahead.stage =
          .holding record := held
      rw [Action.SeenAs, Move.action, Move.action, run_step_of_holding held,
        run_step_of_holding held']
      by_cases atLimit : scene.state.position + 1 = scene.state.limit
      · rw [if_pos atLimit]
        exact (if_pos atLimit).trans (discard_unwrap wraps (stepped scene record))
      · rw [if_neg atLimit]
        exact if_neg atLimit

/-- A cursor over a wrapped source, in a good scene, and the cursor over the source
inside. -/
structure Wrapped (inner : ω → σ) (good : Scene (Cursor ω ρ τ) → Prop)
    (outside : Scene (Cursor ω ρ τ)) (inside : Scene (Cursor σ ρ τ)) : Prop where
  inside_eq : inside = outside.withState (outside.state.unwrap inner inside.state.summary)
  summary_eq : outside.state.summary = fun source => inside.state.summary (inner source)
  isGood : good outside

namespace Wrapped

variable {good : Scene (Cursor ω ρ τ) → Prop} {kind : Move → Prop}
  {outside : Scene (Cursor ω ρ τ)} {inside : Scene (Cursor σ ρ τ)}

omit [Source ω (Option ρ)] [Source σ (Option ρ)] in
theorem ofWrap {outer : σ → ω} (within : ∀ source, inner (outer source) = source)
    (isGood : good (inside.withState (inside.state.wrap outer inner))) :
    Wrapped inner good (inside.withState (inside.state.wrap outer inner)) inside := by
  refine ⟨?_, rfl, isGood⟩
  obtain ⟨⟨place, ⟨source, stage⟩, summary⟩, clock, journal⟩ := inside
  simp only [Scene.withState, wrap, unwrap, LookAhead.unwrap, within]

omit [Source ω (Option ρ)] [Source σ (Option ρ)] in
theorem toPlace_eq (wrapped : Wrapped inner good outside inside) :
    outside.state.toPlace = inside.state.toPlace :=
  congrArg (fun scene => scene.state.toPlace) wrapped.inside_eq.symm

omit [Source ω (Option ρ)] [Source σ (Option ρ)] in
theorem ahead_eq (wrapped : Wrapped inner good outside inside) :
    outside.state.ahead.unwrap inner = inside.state.ahead :=
  congrArg (fun scene => scene.state.ahead) wrapped.inside_eq.symm

omit [Source ω (Option ρ)] [Source σ (Option ρ)] in
theorem summaryNow_eq (wrapped : Wrapped inner good outside inside) :
    outside.state.summaryNow = inside.state.summaryNow := by
  rw [summaryNow, summaryNow, ← wrapped.ahead_eq, wrapped.summary_eq]
  rfl

/-- The two cursors make the moves alike that lead from a good scene to a good one,
where the wrapped source is ready in every good scene. -/
theorem inStep (wraps : Source.Wraps inner ready)
    (isReady : ∀ scene, good scene → scene.state.ahead.stage = .empty →
      ready scene.state.ahead.source)
    (kept : ∀ (move : Move) scene, kind move → move.Allowed scene.state → good scene →
      good (move.action.run scene).2) :
    InStep (Wrapped inner good) kind where
  toPlace_eq := toPlace_eq
  stage_eq wrapped := congrArg LookAhead.stage wrapped.ahead_eq
  move move isKind outside inside wrapped allowed := by
    have seen : Action.SeenAs (unwrap inner inside.state.summary) move.action move.action outside :=
      move_unwrap wraps move allowed (isReady outside wrapped.isGood)
    have progress := Progress.move move outside allowed
    rw [Action.SeenAs, ← wrapped.inside_eq] at seen
    rw [seen]
    refine ⟨.of_eq rfl, rfl, ?_, kept move outside isKind allowed wrapped.isGood⟩
    rw [progress.summary_eq, wrapped.summary_eq]
    rfl

/-- A run over the wrapped source is seen to be the run over the source inside, and
leaves the cursors as they belong together. -/
theorem runAll_eq {τ : Type} [Source ω (Option Record)] [Source σ (Option Record)]
    {good : Scene (Cursor ω Record τ) → Prop} (inStep : InStep (Wrapped inner good) kind)
    (keeps : ∀ move, move.KeepsLimit → kind move) {operations : List CursorOperation}
    (limits : ∀ records, .limit records ∈ operations → kind (.cap records))
    {outside : Scene (Cursor ω Record τ)} {inside : Scene (Cursor σ Record τ)}
    (wrapped : Wrapped inner good outside inside) :
    (Action.runAll (operations.map perform) outside).map (observe id) =
        (Action.runAll (operations.map perform) inside).map (observe id) ∧
      Wrapped inner good (sceneAfter operations outside) (sceneAfter operations inside) := by
  have accord := inStep.accord keeps
  have sameLimits : ∀ records, .limit records ∈ operations →
      Concur (Wrapped inner good) (setLimit records) (setLimit records) :=
    fun records member => accord.setLimit (inStep.move (.cap records) (limits records member))
  exact ⟨accord.runAll_eq summaryNow_eq sameLimits wrapped, accord.sceneAfter sameLimits wrapped⟩

end Wrapped

end Cursor

end QueryCursor
