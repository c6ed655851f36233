import QueryCursor.LookAhead.Operation
import QueryCursor.Proofs.Accord
import QueryCursor.Proofs.Progress

/-!
# Counterparts

Two sources are counterparts when they produce the same items and failures, end together,
and are released alike.  They may say in different words that they have ended.  Nothing
that looks ahead into them can tell them apart, so a look-ahead or a cursor runs the same
over either.
-/

namespace QueryCursor

/-- The scene with one more message. -/
def Scene.noting {σ : Type} (message : Message) (scene : Scene σ) : Scene σ :=
  { scene with journal := scene.journal ++ [message] }

namespace Source

variable {σ σ' α : Type}

/-- How two sources are asked for an item: both produce it, or fail alike, and are held on;
or both have ended. -/
inductive PulledAlike (held ended : Scene σ → Scene σ' → Prop) :
    Except Fault α × Scene σ → Except Fault α × Scene σ' → Prop where
  | item {left : Scene σ} {right : Scene σ'} (item : α) :
      held left right → PulledAlike held ended (.ok item, left) (.ok item, right)
  | failure {left : Scene σ} {right : Scene σ'} {fault : Fault} :
      fault.isStop = false → held left right →
      PulledAlike held ended (.error fault, left) (.error fault, right)
  | stop {left : Scene σ} {right : Scene σ'} {first second : Fault} :
      first.isStop = true → second.isStop = true → ended left right →
      PulledAlike held ended (.error first, left) (.error second, right)

/-- Two kinds of sources that cannot be told apart as long as they are held, when they have
ended, and once they are released. -/
structure Counterparts [Source σ α] [Source σ' α] (held ended released : Scene σ → Scene σ' → Prop) :
    Prop where
  pull : ∀ {left right}, held left right →
    PulledAlike held ended (Source.pull.run left) (Source.pull.run right)
  release : ∀ {left right}, held left right ∨ ended left right →
    Agree Eq (Source.release.run left).1 (Source.release.run right).1 ∧
      released (Source.release.run left).2 (Source.release.run right).2
  note : ∀ {left right} message,
    (held left right → held (left.noting message) (right.noting message)) ∧
      (released left right → released (left.noting message) (right.noting message))

end Source

/-! ## Look-aheads -/

namespace LookAhead

variable {σ σ' α : Type} {held ended released : Scene σ → Scene σ' → Prop}

/-- Two look-aheads at the same stage, over sources that are held or were released
together. -/
structure Together (held released : Scene σ → Scene σ' → Prop) (left : Scene (LookAhead σ α))
    (right : Scene (LookAhead σ' α)) : Prop where
  stage_eq : left.state.stage = right.state.stage
  held : left.state.stage ≠ .exhausted →
    held (left.withState left.state.source) (right.withState right.state.source)
  released : left.state.stage = .exhausted →
    released (left.withState left.state.source) (right.withState right.state.source)

namespace Together

variable {left : Scene (LookAhead σ α)} {right : Scene (LookAhead σ' α)}

theorem ofHeld {left : Scene σ} {right : Scene σ'} (isHeld : held left right) {stage : Stage α}
    (some : stage ≠ .exhausted) :
    Together held released (left.withState ⟨left.state, stage⟩)
      (right.withState ⟨right.state, stage⟩) :=
  ⟨rfl, fun _ => isHeld, fun exhausted => absurd exhausted some⟩

end Together

variable [Source σ α] [Source σ' α]

omit [Source σ' α] in
/-- An item that was looked at is held. -/
theorem stage_of_peek {scene after : Scene (LookAhead σ α)} {item : α}
    (peeked : peek.run scene = (.ok item, after)) : after.state.stage = .holding item := by
  rw [run_peek] at peeked
  rcases fetched : fetch.run scene with ⟨_ | _, between⟩
  · rw [fetched] at peeked
    cases peeked
  · rw [fetched] at peeked
    cases stage : between.state.stage with
    | holding held =>
        simp only [stage, Stage.held?] at peeked
        obtain ⟨⟨⟩, rfl⟩ := Prod.mk.inj peeked
        exact stage
    | _ => simp [stage, Stage.held?] at peeked

theorem discard_of_left (counterparts : Source.Counterparts held ended released)
    {left : Scene σ} {right : Scene σ'} (alike : held left right ∨ ended left right)
    {stage : Stage α} (some : stage ≠ .exhausted) :
    Agree Eq (discard.run (left.withState ⟨left.state, stage⟩)).1
        (discard.run (right.withState ⟨right.state, stage⟩)).1 ∧
      Together held released (discard.run (left.withState (⟨left.state, stage⟩ : LookAhead σ α))).2
        (discard.run (right.withState (⟨right.state, stage⟩ : LookAhead σ' α))).2 := by
  have leftSome : (⟨left.state, stage⟩ : LookAhead σ α).exhausted = false := by
    cases stage with
    | exhausted => exact absurd rfl some
    | empty => rfl
    | holding => rfl
  have rightSome : (⟨right.state, stage⟩ : LookAhead σ' α).exhausted = false := leftSome
  obtain ⟨agree, isReleased⟩ := counterparts.release alike
  rw [Scene.withState, Scene.withState, run_discard _ _ leftSome, run_discard _ _ rightSome]
  exact ⟨agree, rfl, fun notExhausted => absurd rfl notExhausted, fun _ => isReleased⟩

namespace Together

theorem discard (counterparts : Source.Counterparts held ended released) :
    Simulates (Together (α := α) held released) Eq LookAhead.discard LookAhead.discard := by
  rintro ⟨⟨source, stage⟩, clock, journal⟩ ⟨⟨source', _⟩, clock', journal'⟩ ⟨⟨⟩, isHeld, isReleased⟩
  by_cases exhausted : stage = .exhausted
  · subst exhausted
    exact ⟨.ok rfl, rfl, isHeld, isReleased⟩
  · exact discard_of_left counterparts (.inl (isHeld exhausted)) exhausted

theorem fetch (counterparts : Source.Counterparts held ended released) :
    Simulates (Together (α := α) held released) Eq LookAhead.fetch LookAhead.fetch := by
  rintro ⟨⟨source, stage⟩, clock, journal⟩ ⟨⟨source', _⟩, clock', journal'⟩ ⟨⟨⟩, isHeld, isReleased⟩
  cases stage with
  | exhausted => exact ⟨.ok rfl, rfl, isHeld, isReleased⟩
  | holding item => exact ⟨.ok rfl, rfl, isHeld, isReleased⟩
  | empty =>
      have pulled := counterparts.pull (isHeld (by simp))
      rw [run_fetch_empty, run_refill, run_fetch_empty, run_refill]
      simp only [Scene.withState] at pulled
      generalize Source.pull.run (⟨source, clock, journal⟩ : Scene σ) = ran at pulled
      generalize Source.pull.run (⟨source', clock', journal'⟩ : Scene σ') = ran' at pulled
      cases pulled with
      | item item isHeld => exact ⟨.ok rfl, .ofHeld isHeld (by simp)⟩
      | failure goesOn isHeld =>
          simp only [goesOn]
          exact ⟨.error _, .ofHeld isHeld (by simp)⟩
      | stop stop stop' hasEnded =>
          simp only [stop, stop']
          exact discard_of_left counterparts (.inr hasEnded) (by simp)

omit [Source σ α] [Source σ' α] in
theorem present : Simulates (Together (α := α) held released)
    (fun left right => left.stage = right.stage) Action.present Action.present :=
  fun _ _ together => ⟨.ok together.stage_eq, together⟩

theorem hasNext (counterparts : Source.Counterparts held ended released) :
    Simulates (Together (α := α) held released) Eq LookAhead.hasNext LookAhead.hasNext := by
  apply (fetch counterparts).seq
  intro _
  apply present.bind
  intro left right same
  rw [same]
  exact .result rfl

theorem peek (counterparts : Source.Counterparts held ended released) :
    Simulates (Together (α := α) held released) Eq LookAhead.peek LookAhead.peek := by
  apply (fetch counterparts).seq
  intro _
  apply present.bind
  intro left right same
  rw [same]
  cases right.stage.held? with
  | none => exact .refusal
  | some item => exact .result rfl

theorem next (counterparts : Source.Counterparts held ended released) :
    Simulates (Together (α := α) held released) Eq LookAhead.next LookAhead.next := by
  intro left right together
  obtain ⟨agree, after⟩ := peek counterparts left right together
  rw [run_next, run_next]
  rcases ran : LookAhead.peek.run left with ⟨outcome, scene⟩
  rcases ran' : LookAhead.peek.run right with ⟨outcome', scene'⟩
  rw [ran, ran'] at agree after
  cases agree with
  | error fault => exact ⟨.error fault, after⟩
  | @ok item _ same =>
      have some : scene.state.stage ≠ .exhausted := by
        rw [stage_of_peek ran]
        nofun
      exact ⟨.ok same, .ofHeld (after.held some) nofun⟩

theorem perform (counterparts : Source.Counterparts held ended released)
    (operation : LookAheadOperation) :
    Simulates (Together (α := α) held released) Eq (LookAhead.perform operation)
      (LookAhead.perform operation) := by
  cases operation with
  | hasNext => exact (hasNext counterparts).map _
  | peek => exact (peek counterparts).map _
  | next => exact (next counterparts).map _
  | advance => exact (next counterparts).map _
  | discard => exact (discard counterparts).map _
  | collect bound => exact (Source.simulates_collect (next counterparts) bound).map _

end Together

end LookAhead

/-! ## Cursors -/

namespace Cursor

open LookAhead (Together)

variable {σ σ' ρ τ τ' α : Type} {held ended released : Scene σ → Scene σ' → Prop}
  {summary : σ → τ} {summary' : σ' → τ'}

/-- Two cursors at the same place that look ahead together. -/
structure Matched (held released : Scene σ → Scene σ' → Prop) (summary : σ → τ)
    (summary' : σ' → τ') (left : Scene (Cursor σ ρ τ)) (right : Scene (Cursor σ' ρ τ')) : Prop where
  toPlace_eq : left.state.toPlace = right.state.toPlace
  ahead : Together held released (left.withState left.state.ahead)
    (right.withState right.state.ahead)
  summary_eq : left.state.summary = summary
  summary_eq' : right.state.summary = summary'

/-- Shutting writes where the cursor was closed. -/
theorem Move.run_shut [Source σ (Option ρ)] (scene : Scene (Cursor σ ρ τ)) :
    Move.shut.action.run scene =
      (.ok (), ((Cursor.move fun place => { place with isOpen := false }).run scene).2.noting
        ⟨"DB.ResultCursor", .debug,
          "Cursor closed at position " ++ toString scene.state.toPlace.position⟩) := rfl

namespace Matched

variable {left : Scene (Cursor σ ρ τ)} {right : Scene (Cursor σ' ρ τ')}

/-- Wherever they move to together, they go on looking ahead together. -/
theorem move (matched : Matched held released summary summary' left right)
    (step : Place ρ → Place ρ) :
    Matched held released summary summary' ((Cursor.move step).run left).2
      ((Cursor.move step).run right).2 :=
  ⟨congrArg step matched.toPlace_eq, matched.ahead, matched.summary_eq, matched.summary_eq'⟩

theorem onAhead {action : Action (LookAhead σ (Option ρ)) α}
    {action' : Action (LookAhead σ' (Option ρ)) α}
    (simulates : Simulates (Together held released) Eq action action') :
    Concur (Matched (ρ := ρ) held released summary summary') (Cursor.onAhead action)
      (Cursor.onAhead action') := by
  intro left right matched
  obtain ⟨agree, after⟩ := simulates _ _ matched.ahead
  exact ⟨agree, matched.toPlace_eq, after, matched.summary_eq, matched.summary_eq'⟩

variable [Source σ (Option ρ)] [Source σ' (Option ρ)]

theorem note (counterparts : Source.Counterparts held ended released)
    (matched : Matched held released summary summary' left right) (message : Message) :
    Matched held released summary summary' (left.noting message) (right.noting message) := by
  obtain ⟨samePlace, ⟨sameStage, isHeld, isReleased⟩, sum, sum'⟩ := matched
  refine ⟨samePlace, ⟨sameStage, ?_, ?_⟩, sum, sum'⟩
  · exact fun some => (counterparts.note message).1 (isHeld some)
  · exact fun exhausted => (counterparts.note message).2 (isReleased exhausted)

theorem discard (counterparts : Source.Counterparts held ended released) :
    Concur (Matched (ρ := ρ) held released summary summary') Cursor.discard Cursor.discard := by
  intro left right matched
  have sameStage : left.state.ahead.stage = right.state.ahead.stage := matched.ahead.stage_eq
  by_cases exhausted : left.state.ahead.stage = .exhausted
  · have exhausted' := sameStage.symm.trans exhausted
    rw [run_discard_of_exhausted exhausted, run_discard_of_exhausted exhausted']
    exact ⟨.ok rfl, matched⟩
  · have left' : right.state.ahead.stage ≠ .exhausted := fun ended => exhausted (sameStage.trans ended)
    have noted := matched.note counterparts (discarding left.state.toPlace)
    rw [run_discard_of_left exhausted, run_discard_of_left left', ← matched.toPlace_eq]
    exact onAhead (Together.discard counterparts) _ _ noted

omit [Source σ (Option ρ)] [Source σ' (Option ρ)] in
theorem stepped (matched : Matched held released summary summary' left right) {record : Option ρ}
    (holding : left.state.ahead.stage = .holding record) :
    Matched held released summary summary' (Cursor.stepped left record)
      (Cursor.stepped right record) := by
  have some : left.state.ahead.stage ≠ .exhausted := by
    rw [holding]
    nofun
  exact ⟨congrArg (·.onto record) matched.toPlace_eq, .ofHeld (matched.ahead.held some) nofun,
    matched.summary_eq, matched.summary_eq'⟩

theorem inStep (counterparts : Source.Counterparts held ended released) :
    InStep (Matched (ρ := ρ) held released summary summary') fun _ => True where
  toPlace_eq := toPlace_eq
  stage_eq matched := matched.ahead.stage_eq
  move move _ left right matched allowed := by
    cases move with
    | look => exact onAhead (Together.fetch counterparts) left right matched
    | clear => exact ⟨.ok rfl, matched.move fun place => { place with current := none }⟩
    | discard => exact discard counterparts left right matched
    | shut =>
        have shut := matched.move fun place => { place with isOpen := false }
        rw [Move.run_shut, Move.run_shut, ← matched.toPlace_eq]
        exact ⟨.ok rfl, shut.note counterparts _⟩
    | cap records =>
        have limited : Matched held released summary summary' (limitedTo records left)
            (limitedTo records right) :=
          matched.move fun place => { place with limit := place.position + records }
        rw [run_cap, run_cap]
        split
        · exact discard counterparts _ _ limited
        · exact ⟨.ok rfl, limited⟩
    | step =>
        obtain ⟨_, record, holding⟩ := allowed
        have holding' := matched.ahead.stage_eq.symm.trans holding
        have stepped := matched.stepped holding
        rw [Move.action, Move.action, run_step_of_holding holding, run_step_of_holding holding',
          ← matched.toPlace_eq]
        split
        · exact discard counterparts _ _ stepped
        · exact ⟨.ok rfl, stepped⟩

end Matched

section Operations

variable {τ τ' υ : Type} [Source σ (Option Record)] [Source σ' (Option Record)] {summary : σ → τ}
  {summary' : σ' → τ'}

/-- Matched cursors whose summaries show the same are seen to perform every operation in the
same way, and stay matched. -/
theorem Matched.perform (counterparts : Source.Counterparts held ended released)
    {view : τ → υ} {view' : τ' → υ}
    (shows : ∀ left right, Matched (ρ := Record) held released summary summary' left right →
      view left.state.summaryNow = view' right.state.summaryNow)
    (operation : CursorOperation)
    {left : Scene (Cursor σ Record τ)} {right : Scene (Cursor σ' Record τ')}
    (matched : Matched held released summary summary' left right) :
    observe view ((Cursor.perform operation).run left) =
        observe view' ((Cursor.perform operation).run right) ∧
      Matched held released summary summary' ((Cursor.perform operation).run left).2
        ((Cursor.perform operation).run right).2 := by
  have inStep : InStep (Matched (ρ := Record) held released summary summary') fun _ => True :=
    Matched.inStep counterparts
  have accord := inStep.accord fun _ _ => trivial
  obtain ⟨agree, after⟩ := accord.perform operation
    (fun records _ => accord.setLimit (inStep.move (.cap records) trivial)) left right matched
  exact ⟨observe_eq_of_agree agree after.toPlace_eq (shows _ _ after), after⟩

end Operations

end Cursor

end QueryCursor
