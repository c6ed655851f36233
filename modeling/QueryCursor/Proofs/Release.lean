import QueryCursor.Proofs.Bounds
import QueryCursor.Proofs.Course.RowStream
import QueryCursor.Proofs.Course.Script
import QueryCursor.Proofs.Custody
import QueryCursor.Proofs.Overheard

/-!
# Releasing the source

A cursor releases its source once, when it gives up the rest, and does not turn to it
afterwards.  It has done so as soon as nothing is left to it: no record was found, all
of them were read or summarized, the limit is reached, or the cursor is closed.
-/

namespace QueryCursor

/-! ## Sources of every kind -/

/-- The calls are requests for items. -/
def Asked {α : Type} (calls : List (SourceCall α)) : Prop :=
  ∃ outcomes : List (Except Fault α), calls = outcomes.map .pull

/-- The calls are requests for items, and one release after them. -/
def AskedAndReleased {α : Type} (calls : List (SourceCall α)) : Prop :=
  ∃ (outcomes : List (Except Fault α)) (closing : Except Fault Unit),
    calls = outcomes.map .pull ++ [.release closing]

/-- A source that is overheard is asked for items, and released once. -/
theorem Overheard.custody {σ α : Type} [Source σ α] :
    Source.Custody (fun overheard : Overheard σ α => Asked overheard.calls)
      fun overheard => AskedAndReleased overheard.calls where
  pull := by
    rintro scene ⟨outcomes, calls⟩
    refine ⟨outcomes ++ [(Source.pull.run (scene.withState scene.state.source)).1], ?_⟩
    rw [List.map_append, ← calls]
    rfl
  release := by
    rintro scene ⟨outcomes, calls⟩
    refine ⟨outcomes, (Source.release.run (scene.withState scene.state.source)).1, ?_⟩
    rw [← calls]
    rfl

namespace Script

variable {α : Type}

theorem form_of_play (script : Script α) :
    script.play.2.form = script.form ∧ script.play.2.releases = script.releases := by
  unfold play
  split
  · exact ⟨rfl, rfl⟩
  · split <;> exact ⟨rfl, rfl⟩

theorem custody_iterator (releaseFault : Option Fault) :
    Source.Custody
      (fun script : Script α => script.form = .iterator releaseFault ∧ script.releases = 0)
      (fun script => script.releases = 1) where
  pull := by
    rintro scene ⟨form, releases⟩
    obtain ⟨sameForm, sameReleases⟩ := form_of_play scene.state
    exact ⟨sameForm.trans form, sameReleases.trans releases⟩
  release := by
    rintro ⟨script, clock, journal⟩ ⟨form, releases⟩
    show script.drop.2.releases = 1
    rw [drop, form, releases]

theorem custody_generator :
    Source.Custody (fun script : Script α => script.form = .generator)
      (fun script => script.finished = true) where
  pull scene form := (form_of_play scene.state).1.trans form
  release := by
    rintro ⟨script, clock, journal⟩ form
    show script.drop.2.finished = true
    rw [drop, form]

end Script

theorem RowStream.custody :
    Source.Custody (fun _ : RowStream => True) (fun stream => stream.closed = true) where
  pull _ _ := trivial
  release := by
    rintro ⟨stream, clock, journal⟩ _
    show (RowStream.close.run ⟨stream, clock, journal⟩).2.state.closed = true
    cases closed : stream.closed with
    | true =>
        rw [RowStream.run_close_of_closed closed]
        exact closed
    | false =>
        obtain ⟨after, closedAfter, ran⟩ := RowStream.run_close_of_open closed clock
        rw [ran journal]
        exact closedAfter

namespace Cursor

/-! ## What leaves nothing behind -/

section Actions

variable {σ ρ τ α : Type} [Source σ (Option ρ)] {scene after : Scene (Cursor σ ρ τ)}

theorem exhausted_of_skipUpTo {wanted moved : Nat}
    (skipped : (skipUpTo wanted).run scene = (.ok moved, after)) (less : moved < wanted) :
    after.state.ahead.stage = .exhausted := by
  induction wanted generalizing scene moved with
  | zero => exact absurd less (Nat.not_lt_zero moved)
  | succ wanted ih =>
      rw [skipUpTo] at skipped
      obtain ⟨more, between, ran, skipped⟩ := Action.of_run_bind_ok skipped
      cases more with
      | false =>
          cases skipped
          exact exhausted_of_next_false ran
      | true =>
          obtain ⟨count, last, others, skipped⟩ := Action.of_run_bind_ok skipped
          cases skipped
          exact ih others (Nat.lt_of_succ_lt_succ less)

theorem exhausted_of_skip {wanted : Int} {moved : Nat}
    (skipped : (skip wanted).run scene = (.ok moved, after)) (less : (moved : Int) < wanted) :
    after.state.ahead.stage = .exhausted := by
  have notNegative : ¬wanted < 0 := by omega
  simp only [skip, if_neg notNegative] at skipped
  obtain ⟨_, opened, _, skipped⟩ := Action.of_run_bind_ok skipped
  exact exhausted_of_skipUpTo skipped (by omega)

/-- What ends with giving up the rest leaves nothing, if it does not fail before. -/
theorem exhausted_of_bind_discard {β γ : Type} {action : Action (Cursor σ ρ τ) β} {value : γ}
    (rest : β → Action (Cursor σ ρ τ) γ)
    (keeps : ∀ value scene, ((rest value).run scene).2 = scene)
    (ran : (action >>= fun value => discard >>= fun _ => rest value).run scene =
      (.ok value, after)) : after.state.ahead.stage = .exhausted := by
  obtain ⟨result, between, _, ran⟩ := Action.of_run_bind_ok ran
  obtain ⟨_, last, discarded, ran⟩ := Action.of_run_bind_ok ran
  have exhausted := exhausted_of_run_discard between
  have last_eq : last = after := (keeps result last).symm.trans (congrArg Prod.snd ran)
  rw [discarded, last_eq] at exhausted
  exact exhausted

theorem exhausted_of_gather {map : Place ρ → Except Fault α} {values : List α}
    (gathered : (gather map).run scene = (.ok values, after)) :
    after.state.ahead.stage = .exhausted :=
  exhausted_of_bind_discard pure (fun _ _ => rfl) gathered

theorem exhausted_of_list {map : Place ρ → Except Fault α} {values : List α}
    (listed : (list map).run scene = (.ok values, after)) :
    after.state.ahead.stage = .exhausted := by
  rw [list] at listed
  obtain ⟨_, opened, _, listed⟩ := Action.of_run_bind_ok listed
  obtain ⟨cursor, present, _, listed⟩ := Action.of_run_bind_ok listed
  split at listed
  · obtain ⟨more, between, looked, listed⟩ := Action.of_run_bind_ok listed
    cases more with
    | false =>
        cases listed
        exact stage_of_hasNext looked
    | true =>
        obtain ⟨_, last, _, listed⟩ := Action.of_run_bind_ok listed
        exact exhausted_of_gather listed
  · split at listed
    · exact exhausted_of_gather listed
    · cases listed

theorem exhausted_of_summarize {final : τ}
    (summarized : summarize.run scene = (.ok final, after)) :
    after.state.ahead.stage = .exhausted :=
  exhausted_of_bind_discard
    (fun _ => Action.present >>= fun cursor => pure (cursor.summary cursor.ahead.source))
    (fun _ _ => rfl) summarized

theorem exhausted_of_setLimit_zero (isOpen : scene.state.isOpen = true) :
    ((setLimit 0).run scene).2.state.ahead.stage = .exhausted := by
  rw [scene_of_setLimit isOpen (Int.le_refl 0), run_cap, if_pos rfl]
  exact exhausted_of_run_discard _

end Actions

section Operations

variable {σ τ α : Type} [Source σ (Option Record)] {scene after : Scene (Cursor σ Record τ)}

omit [Source σ (Option Record)] in
theorem of_run_answering {action : Action (Cursor σ Record τ) α} {make : α → Value}
    {answer : CursorAnswer τ} (answered : (answering action make).run scene = (.ok answer, after)) :
    ∃ value, action.run scene = (.ok value, after) ∧ answer = .value (make value) :=
  have mapped : ((fun value => .value (make value)) <$> action).run scene = (.ok answer, after) :=
    answered
  Action.of_run_map_ok mapped

/-- The ways in which an operation, performed in a scene, shows that it leaves nothing
behind: by what it says, by what it was asked for, or by where it leads. -/
inductive Depletes (scene : Scene (Cursor σ Record τ)) :
    CursorOperation → Except Fault (CursorAnswer τ) × Scene (Cursor σ Record τ) → Prop where
  | next {after : Scene (Cursor σ Record τ)} :
      Depletes scene .next (.ok (.value (.bool false)), after)
  | skip {wanted moved : Int} {after : Scene (Cursor σ Record τ)} :
      moved < wanted → Depletes scene (.skip wanted) (.ok (.value (.int moved)), after)
  | list {map : Place Record → Except Fault Value} {answer : CursorAnswer τ}
      {after : Scene (Cursor σ Record τ)} : Depletes scene (.list map) (.ok answer, after)
  | summarize {answer : CursorAnswer τ} {after : Scene (Cursor σ Record τ)} :
      Depletes scene .summarize (.ok answer, after)
  | limit {performed : Except Fault (CursorAnswer τ) × Scene (Cursor σ Record τ)} :
      scene.state.isOpen = true → Depletes scene (.limit 0) performed
  | reached {operation : CursorOperation}
      {performed : Except Fault (CursorAnswer τ) × Scene (Cursor σ Record τ)} :
      scene.state.position < performed.2.state.position →
      performed.2.state.position = performed.2.state.limit → Depletes scene operation performed
  | closed {operation : CursorOperation}
      {performed : Except Fault (CursorAnswer τ) × Scene (Cursor σ Record τ)} :
      performed.2.state.isOpen = false → Depletes scene operation performed

/-- An operation that shows that it leaves nothing does so. -/
theorem Depletes.exhausted (bounded : Bounded scene) {operation : CursorOperation}
    (depletes : Depletes scene operation ((perform operation).run scene)) :
    ((perform operation).run scene).2.state.ahead.stage = .exhausted := by
  have boundedAfter : Bounded ((perform operation).run scene).2 := bounded.sceneAfter [operation]
  generalize performed_eq : (perform operation).run scene = performed at depletes boundedAfter
  cases depletes with
  | next =>
      obtain ⟨more, ran, answer⟩ := of_run_answering performed_eq
      cases answer
      exact exhausted_of_next_false ran
  | skip less =>
      obtain ⟨moved, ran, answer⟩ := of_run_answering performed_eq
      cases answer
      exact exhausted_of_skip ran less
  | list =>
      obtain ⟨values, ran, _⟩ := of_run_answering performed_eq
      exact exhausted_of_list ran
  | summarize =>
      obtain ⟨final, last, ran, answered⟩ := Action.of_run_bind_ok performed_eq
      cases answered
      exact exhausted_of_summarize ran
  | limit isOpen =>
      rw [← performed_eq, perform, run_answering]
      exact exhausted_of_setLimit_zero isOpen
  | reached moved atLimit =>
      have start_le := bounded.start_le
      exact boundedAfter.exhausted_of_limit (by omega) atLimit
  | closed closed => exact boundedAfter.exhausted_of_closed closed

/-- How the source of a cursor fares when operations are performed from a scene on:
listening to it does not show, it is asked for items and, when the rest is given up,
released, and then it stays as it is. -/
structure ReleasedOnce (start : Scene (Cursor σ Record τ)) (operations : List CursorOperation) :
    Prop where
  unnoticed : (Action.runAll (operations.map perform) (overheard start)).map (observe id) =
    (Action.runAll (operations.map perform) start).map (observe id)
  overheard : (sceneAfter operations (overheard start)).state.ahead.unwrap Overheard.source =
    (sceneAfter operations start).state.ahead
  asked : (sceneAfter operations start).state.ahead.stage ≠ .exhausted →
    Asked (callsDuring operations start)
  released : (sceneAfter operations start).state.ahead.stage = .exhausted →
    AskedAndReleased (callsDuring operations start)
  untouched : (sceneAfter operations start).state.ahead.stage = .exhausted → ∀ later,
    callsDuring later (sceneAfter operations start) = [] ∧
      (sceneAfter later (sceneAfter operations start)).state.ahead =
        (sceneAfter operations start).state.ahead

theorem releasedOnce {start : Scene (Cursor σ Record τ)}
    (fresh : start.state.ahead.stage = .empty) (operations : List CursorOperation) :
    ReleasedOnce start operations := by
  obtain ⟨unnoticed, wrapped⟩ := overheard_unnoticed start operations
  have heard := wrapped.ahead_eq
  have stage : (sceneAfter operations (Cursor.overheard start)).state.ahead.stage =
      (sceneAfter operations start).state.ahead.stage := congrArg LookAhead.stage heard
  have inCustody : (sceneAfter operations (Cursor.overheard start)).state.ahead.InCustody
      (fun heard => Asked heard.calls) fun heard => AskedAndReleased heard.calls := by
    apply Overheard.custody.sceneAfter
    rw [LookAhead.InCustody, show (Cursor.overheard start).state.ahead.stage = .empty from fresh]
    exact ⟨[], rfl⟩
  refine ⟨unnoticed, heard, ?_, ?_, ?_⟩
  · intro left
    exact inCustody.of_left (stage ▸ left)
  · intro exhausted
    exact inCustody.of_exhausted (stage.trans exhausted)
  · intro exhausted later
    exact ⟨callsDuring_of_exhausted exhausted later,
      (Progress.sceneAfter later _).ahead_eq exhausted⟩

end Operations

/-- The source is released exactly once, and never turned to again. -/
theorem source_is_released_once (keys : List Value) (clock : Clock) (journal : List Message)
    (operations : List CursorOperation) :
    (∀ {σ τ : Type} [Source σ (Option Record)] (source : σ) (summary : σ → τ),
      let start : Scene (Cursor σ Record τ) := ⟨ofSource keys source summary, clock, journal⟩
      let scene := sceneAfter operations start
      ReleasedOnce start operations ∧
        (∀ moment, Passes start moment → Bounded moment) ∧
        ∀ operation, Depletes scene operation ((perform operation).run scene) →
          ((perform operation).run scene).2.state.ahead.stage = .exhausted) ∧
    (∀ {τ : Type} (script : Script (Option Record)) (summary : Script (Option Record) → τ)
      (releaseFault : Option Fault), script.form = .iterator releaseFault → script.releases = 0 →
      let scene := sceneAfter operations ⟨ofSource keys script summary, clock, journal⟩
      scene.state.ahead.source.releases = if scene.state.ahead.exhausted then 1 else 0) ∧
    (∀ {τ : Type} (script : Script (Option Record)) (summary : Script (Option Record) → τ),
      script.form = .generator →
      let scene := sceneAfter operations ⟨ofSource keys script summary, clock, journal⟩
      scene.state.ahead.stage = .exhausted → scene.state.ahead.source.finished = true) ∧
    (∀ {τ : Type} (stream : RowStream) (summary : RowStream → τ),
      let scene := sceneAfter operations ⟨ofSource keys stream summary, clock, journal⟩
      scene.state.ahead.stage = .exhausted → scene.state.ahead.source.closed = true) := by
  refine ⟨?_, ?_, ?_, ?_⟩
  · intro σ τ _ source summary
    have bounded := Bounded.ofSource (ρ := Record) keys source summary clock journal
    exact ⟨releasedOnce rfl operations, fun moment => bounded.passes,
      fun operation => Depletes.exhausted (bounded.sceneAfter operations)⟩
  · intro τ script summary releaseFault form releases
    have inCustody := (Script.custody_iterator releaseFault).ofSource ⟨form, releases⟩ keys summary
      clock journal operations
    intro scene
    rw [LookAhead.exhausted]
    cases stage : scene.state.ahead.stage with
    | exhausted => exact inCustody.of_exhausted stage
    | empty => exact (inCustody.of_left fun exhausted => nomatch stage.symm.trans exhausted).2
    | holding => exact (inCustody.of_left fun exhausted => nomatch stage.symm.trans exhausted).2
  · intro τ script summary form
    exact (Script.custody_generator.ofSource form keys summary clock journal
      operations).of_exhausted
  · intro τ stream summary
    exact (RowStream.custody.ofSource trivial keys summary clock journal operations).of_exhausted

/-- An iterator whose release fails at the limit is not released again when the cursor
is closed. -/
theorem faltering_is_released_once :
    let scene := sceneAfter [.limit 1, .next, .close, .next]
      ⟨ofSource (ρ := Record) [.string "n"] Script.faltering fun _ => (), {}, []⟩
    scene.state.ahead.source.releases = 1 :=
  (source_is_released_once [.string "n"] {} [] [.limit 1, .next, .close, .next]).2.1
    Script.faltering (fun _ => ()) _ rfl rfl

end Cursor

end QueryCursor
