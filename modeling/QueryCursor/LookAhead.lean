import QueryCursor.Source

/-!
# Looking ahead

A look-ahead keeps at most one item of a source, so that the next item can be
inspected without being consumed.  It is empty, holds an item, or is exhausted;
once exhausted it has released its source and never turns to it again.

A look-ahead is a source itself.  Releasing it as such does nothing: it has no
release operation that its user would call.
-/

namespace QueryCursor

/-- What a look-ahead has of its source. -/
inductive Stage (α : Type) where
  | empty
  | holding (item : α)
  | exhausted
  deriving DecidableEq

namespace Stage

variable {α : Type}

/-- The item that is held, if there is one. -/
def held? : Stage α → Option α
  | .holding item => some item
  | _ => none

/-- Whether the source has been given up. -/
def isExhausted : Stage α → Bool
  | .exhausted => true
  | _ => false

end Stage

/-- A source of which one item can be looked at in advance. -/
structure LookAhead (σ α : Type) where
  source : σ
  stage : Stage α := .empty

namespace LookAhead

variable {σ α : Type}

/-- Whether the source has been released. -/
def exhausted (ahead : LookAhead σ α) : Bool := ahead.stage.isExhausted

/-- Changes what is held. -/
def setStage (stage : Stage α) : Action (LookAhead σ α) Unit :=
  .change fun ahead => { ahead with stage }

/-- The fault of asking for an item when none is left. -/
def endOfSequence : Fault := .stop .awaited "End of sequence"

variable [Source σ α]

/-- A bound on the number of items that can still be taken. -/
def remaining (ahead : LookAhead σ α) : Nat :=
  match ahead.stage with
  | .empty => Source.remaining ahead.source
  | .holding _ => Source.remaining ahead.source + 1
  | .exhausted => 0

/-- An action on the source. -/
def onSource {β : Type} (action : Action σ β) : Action (LookAhead σ α) β :=
  .within LookAhead.source (fun source ahead => { ahead with source }) action

/-- Gives up the items that are left and releases the source, once.  The
look-ahead is exhausted even if the release fails. -/
def discard : Action (LookAhead σ α) Unit := do
  let ahead ← Action.present
  if ahead.exhausted then return ()
  else
    setStage .exhausted
    onSource Source.release

/-- Asks the source for an item and holds it.  A source that has ended is
released. -/
def refill : Action (LookAhead σ α) Unit :=
  Action.recover
    (do
      let item ← onSource Source.pull
      setStage (.holding item))
    fun fault => if fault.isStop then discard else throw fault

/-- Makes sure that an item is held, unless none is left. -/
def fetch : Action (LookAhead σ α) Unit := do
  let ahead ← Action.present
  match ahead.stage with
  | .empty => refill
  | _ => return ()

/-- Whether an item is left. -/
def hasNext : Action (LookAhead σ α) Bool := do
  fetch
  let ahead ← Action.present
  return ahead.stage.held?.isSome

/-- The next item, which stays. -/
def peek : Action (LookAhead σ α) α := do
  fetch
  let ahead ← Action.present
  match ahead.stage.held? with
  | some item => return item
  | none => throw endOfSequence

/-- The next item, which is consumed. -/
def next : Action (LookAhead σ α) α := do
  let item ← peek
  setStage .empty
  return item

@[simp] theorem run_discard_exhausted (source : σ) (clock : Clock) (journal : List Message) :
    (discard (α := α)).run ⟨⟨source, .exhausted⟩, clock, journal⟩ =
      (.ok (), ⟨⟨source, .exhausted⟩, clock, journal⟩) := rfl

/-- A discard that reaches the source leaves the look-ahead exhausted, whether
the release succeeds or fails. -/
theorem run_discard {ahead : LookAhead σ α} (clock : Clock) (journal : List Message)
    (left : ahead.exhausted = false) :
    discard.run ⟨ahead, clock, journal⟩ =
      let outcome := Source.release.run ⟨ahead.source, clock, journal⟩
      (outcome.1, outcome.2.withState ⟨outcome.2.state, .exhausted⟩) := by
  simp only [discard, Action.run_bind, Action.run_present, left, setStage, onSource,
    Action.within, Scene.withState]
  rfl

theorem exhausted_of_run_discard (scene : Scene (LookAhead σ α)) :
    (discard.run scene).2.state.stage = .exhausted := by
  obtain ⟨⟨source, stage⟩, clock, journal⟩ := scene
  cases stage <;> rfl

theorem run_refill (source : σ) (clock : Clock) (journal : List Message) :
    (refill (α := α)).run ⟨⟨source, .empty⟩, clock, journal⟩ =
      match Source.pull.run ⟨source, clock, journal⟩ with
      | (.ok item, after) => (.ok (), after.withState ⟨after.state, .holding item⟩)
      | (.error fault, after) =>
        if fault.isStop then discard.run (after.withState ⟨after.state, .empty⟩)
        else (.error fault, after.withState ⟨after.state, .empty⟩) := by
  simp only [refill, Action.recover, Action.run_bind, onSource, Action.within, Scene.withState]
  rcases Source.pull.run (⟨source, clock, journal⟩ : Scene σ) with ⟨_ | _, after⟩
  · simp only
    split <;> rfl
  · rfl

@[simp] theorem run_fetch_empty (source : σ) (clock : Clock) (journal : List Message) :
    (fetch (α := α)).run ⟨⟨source, .empty⟩, clock, journal⟩ =
      (refill (α := α)).run ⟨⟨source, .empty⟩, clock, journal⟩ := rfl

@[simp] theorem run_fetch_holding (source : σ) (item : α) (clock : Clock)
    (journal : List Message) :
    fetch.run ⟨⟨source, .holding item⟩, clock, journal⟩ =
      (.ok (), ⟨⟨source, .holding item⟩, clock, journal⟩) := rfl

@[simp] theorem run_fetch_exhausted (source : σ) (clock : Clock) (journal : List Message) :
    (fetch (α := α)).run ⟨⟨source, .exhausted⟩, clock, journal⟩ =
      (.ok (), ⟨⟨source, .exhausted⟩, clock, journal⟩) := rfl

/-- What a successful fetch leaves. -/
theorem remaining_of_run_fetch {before after : Scene (LookAhead σ α)}
    (step : fetch.run before = (.ok (), after)) :
    after.state.stage = .exhausted ∨
      ∃ item, after.state.stage = .holding item ∧
        Source.remaining after.state.source < before.state.remaining := by
  obtain ⟨⟨source, stage⟩, clock, journal⟩ := before
  cases stage with
  | holding item =>
    obtain ⟨rfl⟩ := (Prod.mk.inj step).2
    exact .inr ⟨item, rfl, Nat.lt_succ_self _⟩
  | exhausted =>
    obtain ⟨rfl⟩ := (Prod.mk.inj step).2
    exact .inl rfl
  | empty =>
    rw [run_fetch_empty, run_refill] at step
    split at step
    next item scene pulled =>
      obtain ⟨rfl⟩ := (Prod.mk.inj step).2
      exact .inr ⟨item, rfl, Source.remaining_lt_of_pull pulled⟩
    next fault scene pulled =>
      split at step
      · left
        have ended := exhausted_of_run_discard
          (scene.withState (⟨scene.state, .empty⟩ : LookAhead σ α))
        rwa [step] at ended
      · simp at step

theorem remaining_le_of_fetch {before after : Scene (LookAhead σ α)}
    (step : fetch.run before = (.ok (), after)) :
    after.state.remaining ≤ before.state.remaining := by
  rcases remaining_of_run_fetch step with ended | ⟨item, held, less⟩
  · simp [remaining, ended]
  · simp only [remaining, held] at less ⊢
    exact less

theorem run_hasNext (scene : Scene (LookAhead σ α)) :
    hasNext.run scene =
      match fetch.run scene with
      | (.ok _, after) => (.ok after.state.stage.held?.isSome, after)
      | (.error fault, after) => (.error fault, after) := by
  simp only [hasNext, Action.run_bind]
  rcases fetch.run scene with ⟨_ | _, after⟩ <;> rfl

theorem run_peek (scene : Scene (LookAhead σ α)) :
    peek.run scene =
      match fetch.run scene with
      | (.ok _, after) =>
        (match after.state.stage.held? with
          | some item => .ok item
          | none => .error endOfSequence, after)
      | (.error fault, after) => (.error fault, after) := by
  simp only [peek, Action.run_bind, Action.run_present]
  rcases fetch.run scene with ⟨_ | _, after⟩
  · rfl
  · simp only
    cases after.state.stage.held? <;> rfl

theorem run_next (scene : Scene (LookAhead σ α)) :
    next.run scene =
      match peek.run scene with
      | (.ok item, after) =>
        (.ok item, after.withState { after.state with stage := .empty })
      | (.error fault, after) => (.error fault, after) := by
  simp only [next, setStage, Action.run_bind]
  rcases peek.run scene with ⟨_ | _, after⟩ <;> rfl

theorem remaining_le_of_hasNext {before after : Scene (LookAhead σ α)} {more : Bool}
    (step : hasNext.run before = (.ok more, after)) :
    after.state.remaining ≤ before.state.remaining := by
  rw [run_hasNext] at step
  rcases fetched : fetch.run before with ⟨_ | _, scene⟩
  · simp [fetched] at step
  · rw [fetched] at step
    obtain ⟨rfl⟩ := (Prod.mk.inj step).2
    exact remaining_le_of_fetch fetched

theorem remaining_lt_of_next {before after : Scene (LookAhead σ α)} {item : α}
    (step : next.run before = (.ok item, after)) :
    after.state.remaining < before.state.remaining := by
  rw [run_next, run_peek] at step
  rcases fetched : fetch.run before with ⟨_ | _, scene⟩
  · simp [fetched] at step
  · rcases remaining_of_run_fetch fetched with ended | ⟨found, held, less⟩
    · simp [fetched, ended, Stage.held?] at step
    · simp only [fetched, held, Stage.held?] at step
      obtain ⟨rfl⟩ := (Prod.mk.inj step).2
      exact less

instance : Source (LookAhead σ α) α where
  pull := next
  release := pure ()
  remaining := remaining
  remaining_lt_of_pull := remaining_lt_of_next

end LookAhead

end QueryCursor
