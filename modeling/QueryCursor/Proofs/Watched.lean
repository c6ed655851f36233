import QueryCursor.Proofs.Alike

/-!
# Watched sources

A watched source remembers what was taken from it: the items and failures in
order, though not the signals that it has ended.  Watching changes nothing about
what the source does.
-/

namespace QueryCursor

/-- A source, and what was taken from it. -/
structure Watched (σ α : Type) where
  source : σ
  taken : List (Except Fault α) := []

namespace Watched

variable {σ α : Type}

/-- What is remembered of an outcome: an end is not. -/
def memory : Except Fault α → List (Except Fault α)
  | .ok item => [.ok item]
  | .error fault => if fault.isStop then [] else [.error fault]

variable [Source σ α]

/-- Takes the next item, and remembers what came. -/
def pull : Action (Watched σ α) α :=
  ⟨fun scene =>
    let outcome := Source.pull.run (scene.withState scene.state.source)
    (outcome.1, outcome.2.withState
      ⟨outcome.2.state, scene.state.taken ++ memory outcome.1⟩)⟩

instance : Source (Watched σ α) α where
  pull := pull
  release := .within Watched.source (fun source watched => { watched with source }) Source.release
  remaining watched := Source.remaining watched.source
  remaining_lt_of_pull := fun {before after item} taken => by
    rcases pulled : Source.pull.run (before.withState before.state.source) with ⟨outcome, last⟩
    simp only [pull, pulled, Prod.mk.injEq] at taken
    obtain ⟨rfl, rfl⟩ := taken
    exact Source.remaining_lt_of_pull pulled

theorem run_pull (source : σ) (taken : List (Except Fault α)) (clock : Clock)
    (journal : List Message) :
    Source.pull.run (⟨⟨source, taken⟩, clock, journal⟩ : Scene (Watched σ α)) =
      ((Source.pull.run ⟨source, clock, journal⟩).1,
        (Source.pull.run ⟨source, clock, journal⟩).2.withState
          ⟨(Source.pull.run ⟨source, clock, journal⟩).2.state,
            taken ++ memory (Source.pull.run ⟨source, clock, journal⟩).1⟩) := rfl

theorem run_release (source : σ) (taken : List (Except Fault α)) (clock : Clock)
    (journal : List Message) :
    Source.release.run (⟨⟨source, taken⟩, clock, journal⟩ : Scene (Watched σ α)) =
      ((Source.release.run ⟨source, clock, journal⟩).1,
        (Source.release.run ⟨source, clock, journal⟩).2.withState
          ⟨(Source.release.run ⟨source, clock, journal⟩).2.state, taken⟩) := rfl

theorem closes {source : σ} {clock : Clock} {closing : Except Fault Unit}
    (closes : Source.Closes source clock closing) (taken : List (Except Fault α)) :
    Source.Closes (⟨source, taken⟩ : Watched σ α) clock closing :=
  closes

theorem ends {source source' : σ} {clock clock' : Clock} {outcome : Except Fault α}
    (ends : Source.pull.Ends source clock outcome source' clock')
    (taken : List (Except Fault α)) :
    Source.pull.Ends (⟨source, taken⟩ : Watched σ α) clock outcome
      ⟨source', taken ++ memory outcome⟩ clock' := by
  intro journal
  obtain ⟨journal', pulled⟩ := ends journal
  refine ⟨journal', ?_⟩
  rw [run_pull, pulled]
  rfl

/-- A source that is watched follows the same course. -/
theorem follows {source : σ} {clock : Clock} {course : Course α}
    (follows : Source.Follows source clock course) (taken : List (Except Fault α)) :
    Source.Follows (⟨source, taken⟩ : Watched σ α) clock course := by
  induction follows generalizing taken with
  | ended closing pulled closed =>
      exact .ended (closes closing taken) (ends pulled taken) (closes closed _)
  | item closing pulled _ ih => exact .item (closes closing taken) (ends pulled taken) (ih _)
  | failure closing pulled goesOn _ ih =>
      exact .failure (closes closing taken) (ends pulled taken) goesOn (ih _)

end Watched

/-- A cursor over a watched source runs as one over the source itself. -/
theorem Cursor.runAll_watched {σ τ : Type} [Source σ (Option Record)] {keys : List Value}
    {source : σ} {summary : σ → τ} {clock : Clock} {journal : List Message}
    {course : Course (Option Record)} (follows : Source.Follows source clock course)
    (operations : List CursorOperation) :
    (Action.runAll (operations.map Cursor.perform)
        ⟨ofSource keys (⟨source, []⟩ : Watched σ (Option Record))
          fun watched => summary watched.source, clock, journal⟩).map (observe fun _ => ()) =
      (Action.runAll (operations.map Cursor.perform)
        ⟨ofSource keys source summary, clock, journal⟩).map (observe fun _ => ()) := by
  apply Alike.runAll_eq
  · exact ⟨_, course, .ofSource journal (Watched.follows follows []), .ofSource journal follows⟩
  · exact ⟨fun _ => ⟨rfl, rfl⟩, rfl⟩
  · exact ⟨fun _ => ⟨rfl, rfl⟩, rfl⟩

end QueryCursor
