import QueryCursor.Double
import QueryCursor.Fault

/-!
# Actions

An action works on a state and on what all parties share: the clock and the
journal that messages are written to.  It ends with a value or a fault and, in
either case, with a scene; an action that fails keeps what it did before it
failed, so that its caller can go on from there.
-/

namespace QueryCursor

/-- How serious a message is. -/
inductive Level where
  | debug
  | warning
  | error
  deriving DecidableEq

/-- A message in the journal. -/
structure Message where
  logger : String
  level : Level
  text : String
  deriving DecidableEq

/-- A clock that shows the given readings one after the other; the last one
remains. -/
structure Clock where
  reading : Double := ⟨0⟩
  later : List Double := []
  deriving DecidableEq

/-- The clock after one more reading was taken. -/
def Clock.advance (clock : Clock) : Clock :=
  match clock.later with
  | [] => clock
  | reading :: later => ⟨reading, later⟩

/-- The state at hand, the clock, and the journal so far. -/
structure Scene (σ : Type) where
  state : σ
  clock : Clock := {}
  journal : List Message := []

/-- The same clock and journal around another state. -/
def Scene.withState {σ ρ : Type} (scene : Scene σ) (state : ρ) : Scene ρ :=
  ⟨state, scene.clock, scene.journal⟩

@[simp] theorem Scene.state_withState {σ ρ : Type} (scene : Scene σ) (state : ρ) :
    (scene.withState state).state = state := rfl

/-- An operation on a state of type `σ` with a result of type `α`. -/
structure Action (σ α : Type) where
  run : Scene σ → Except Fault α × Scene σ

namespace Action

variable {σ ρ α β : Type}

/-- Does nothing and succeeds. -/
protected def pure (value : α) : Action σ α := ⟨fun scene => (.ok value, scene)⟩

/-- Goes on with the value of the first action, unless that fails. -/
protected def bind (first : Action σ α) (rest : α → Action σ β) : Action σ β :=
  ⟨fun scene =>
    match first.run scene with
    | (.ok value, after) => (rest value).run after
    | (.error fault, after) => (.error fault, after)⟩

instance : Monad (Action σ) where
  pure := Action.pure
  bind := Action.bind

/-- Fails at once. -/
protected def fail (fault : Fault) : Action σ α := ⟨fun scene => (.error fault, scene)⟩

/-- Hands a fault to a second action, which starts where the first one failed. -/
protected def recover (first : Action σ α) (rest : Fault → Action σ α) : Action σ α :=
  ⟨fun scene =>
    match first.run scene with
    | (.ok value, after) => (.ok value, after)
    | (.error fault, after) => (rest fault).run after⟩

instance : MonadExceptOf Fault (Action σ) where
  throw := Action.fail
  tryCatch := Action.recover

@[simp] theorem run_pure (value : α) (scene : Scene σ) :
    (pure value : Action σ α).run scene = (.ok value, scene) := rfl

@[simp] theorem run_bind (first : Action σ α) (rest : α → Action σ β) (scene : Scene σ) :
    (first >>= rest).run scene =
      match first.run scene with
      | (.ok value, after) => (rest value).run after
      | (.error fault, after) => (.error fault, after) := rfl

/-- A sequence that succeeds has succeeded in both of its parts. -/
theorem of_run_bind_ok {first : Action σ α} {rest : α → Action σ β} {value : β}
    {scene after : Scene σ} (ran : (first >>= rest).run scene = (.ok value, after)) :
    ∃ result between, first.run scene = (.ok result, between) ∧
      (rest result).run between = (.ok value, after) := by
  rw [run_bind] at ran
  rcases begun : first.run scene with ⟨fault | result, between⟩
  · rw [begun] at ran
    cases ran
  · rw [begun] at ran
    exact ⟨result, between, rfl, ran⟩

@[simp] theorem run_throw (fault : Fault) (scene : Scene σ) :
    (throw fault : Action σ α).run scene = (.error fault, scene) := rfl

theorem ext {first second : Action σ α} (same : ∀ scene, first.run scene = second.run scene) :
    first = second := by
  cases first
  cases second
  congr
  exact funext same

@[simp] theorem run_map (make : α → β) (action : Action σ α) (scene : Scene σ) :
    (make <$> action).run scene =
      ((action.run scene).1.map make, (action.run scene).2) := by
  simp only [Functor.map, Action.bind]
  rcases action.run scene with ⟨_ | _, after⟩ <;> rfl

/-- What succeeds with a value made of another succeeded with that other one. -/
theorem of_run_map_ok {make : α → β} {action : Action σ α} {answer : β} {scene after : Scene σ}
    (ran : (make <$> action).run scene = (.ok answer, after)) :
    ∃ value, action.run scene = (.ok value, after) ∧ answer = make value := by
  rw [run_map] at ran
  rcases begun : action.run scene with ⟨_ | value, last⟩
  · rw [begun] at ran
    cases ran
  · rw [begun] at ran
    cases ran
    exact ⟨value, rfl, rfl⟩

theorem id_map (action : Action σ α) : id <$> action = action :=
  ext fun scene => by
    rw [run_map]
    rcases action.run scene with ⟨_ | _, after⟩ <;> rfl

theorem bind_assoc (action : Action σ α) (first : α → Action σ β) {γ : Type}
    (second : β → Action σ γ) :
    action >>= first >>= second = action >>= fun value => first value >>= second :=
  ext fun scene => by
    simp only [run_bind]
    rcases action.run scene with ⟨_ | _, after⟩ <;> rfl

instance : LawfulMonad (Action σ) :=
  LawfulMonad.mk' (Action σ) id_map (fun _ _ => rfl) fun action first second =>
    bind_assoc action first second

/-- The present state. -/
def present : Action σ σ := ⟨fun scene => (.ok scene.state, scene)⟩

/-- Changes the state. -/
def change (update : σ → σ) : Action σ Unit :=
  ⟨fun scene => (.ok (), scene.withState (update scene.state))⟩

/-- Writes a message into the journal. -/
def report (message : Message) : Action σ Unit :=
  ⟨fun scene => (.ok (), { scene with journal := scene.journal ++ [message] })⟩

/-- Takes a reading of the clock. -/
def readClock : Action σ Double :=
  ⟨fun scene => (.ok scene.clock.reading, { scene with clock := scene.clock.advance })⟩

/-- An action whose journal holds only what it writes itself. -/
def journaled (action : Action σ α) : Action σ α :=
  ⟨fun scene => action.run { scene with journal := [] }⟩

/-- Performs actions one after the other, whether they succeed or fail: the
outcome of each with the scene after it. -/
def runAll : List (Action σ α) → Scene σ → List (Except Fault α × Scene σ)
  | [], _ => []
  | action :: actions, scene =>
    let outcome := action.run scene
    outcome :: runAll actions outcome.2

/-- An outcome that needs no state. -/
def ofExcept (outcome : Except Fault α) : Action σ α := ⟨fun scene => (outcome, scene)⟩

/-- An action that neither reads the clock nor writes a message. -/
def ofState (step : σ → Except Fault α × σ) : Action σ α :=
  ⟨fun scene => ((step scene.state).1, scene.withState (step scene.state).2)⟩

/-- An action on a part of the state, whether it succeeds or fails. -/
def within (part : σ → ρ) (restore : ρ → σ → σ) (action : Action ρ α) : Action σ α :=
  ⟨fun scene =>
    let outcome := action.run (scene.withState (part scene.state))
    (outcome.1, outcome.2.withState (restore outcome.2.state scene.state))⟩

@[simp] theorem run_present (scene : Scene σ) :
    (present : Action σ σ).run scene = (.ok scene.state, scene) := rfl

@[simp] theorem run_change (update : σ → σ) (scene : Scene σ) :
    (change update).run scene = (.ok (), scene.withState (update scene.state)) := rfl

@[simp] theorem run_report (message : Message) (scene : Scene σ) :
    (report message).run scene =
      (.ok (), { scene with journal := scene.journal ++ [message] }) := rfl

@[simp] theorem run_readClock (scene : Scene σ) :
    (readClock : Action σ Double).run scene =
      (.ok scene.clock.reading, { scene with clock := scene.clock.advance }) := rfl

@[simp] theorem run_ofExcept (outcome : Except Fault α) (scene : Scene σ) :
    (ofExcept outcome : Action σ α).run scene = (outcome, scene) := rfl

@[simp] theorem run_ofState (step : σ → Except Fault α × σ) (scene : Scene σ) :
    (ofState step).run scene =
      ((step scene.state).1, scene.withState (step scene.state).2) := rfl

end Action

end QueryCursor
