import QueryCursor.Cursor

/-!
# Advancing

How the operations of a cursor run, case by case: on a closed cursor, and on an
open one that finds a record, the end, or a failure.
-/

namespace QueryCursor

namespace Place

variable {ρ : Type} {place : Place ρ}

theorem record_of_closed (closed : place.isOpen = false) :
    place.record = .error (.misuse .closed) := by
  simp [record, requireOpen, closed, bind, Except.bind]

theorem record_of_open (isOpen : place.isOpen = true) :
    place.record = match place.current with
      | some record => .ok record
      | none => .error (.absent .noCurrent) := by
  cases current : place.current <;>
    simp [record, requireOpen, isOpen, current, bind, Except.bind, pure, Except.pure, throw,
      throwThe, MonadExceptOf.throw]

theorem openPosition_of_closed (closed : place.isOpen = false) :
    place.openPosition = .error (.misuse .closed) := by
  simp [openPosition, requireOpen, closed, bind, Except.bind]

theorem openPosition_of_open (isOpen : place.isOpen = true) :
    place.openPosition = .ok place.position := by
  simp [openPosition, requireOpen, isOpen, bind, Except.bind, pure, Except.pure]

end Place

/-- An item that is left is held, and a look-ahead that has none is exhausted. -/
theorem LookAhead.stage_of_hasNext {σ α : Type} [Source σ α] {scene after : Scene (LookAhead σ α)}
    {more : Bool} (looked : LookAhead.hasNext.run scene = (.ok more, after)) :
    if more then ∃ item, after.state.stage = .holding item
    else after.state.stage = .exhausted := by
  rw [LookAhead.run_hasNext] at looked
  rcases fetched : LookAhead.fetch.run scene with ⟨_ | _, between⟩
  · simp [fetched] at looked
  · simp only [fetched, Prod.mk.injEq, Except.ok.injEq] at looked
    obtain ⟨rfl, rfl⟩ := looked
    rcases LookAhead.remaining_of_run_fetch fetched with ended | ⟨item, held, _⟩
    · simp [ended, Stage.held?]
    · simp [held, Stage.held?]

namespace Cursor

variable {σ ρ τ α : Type}

theorem run_requireOpen_of_open {scene : Scene (Cursor σ ρ τ)} (isOpen : scene.state.isOpen = true)
    (rest : Action (Cursor σ ρ τ) α) :
    (read Place.requireOpen >>= fun _ => rest).run scene = rest.run scene := by
  rw [Action.run_bind, run_read, Place.requireOpen, if_pos isOpen]

theorem run_requireOpen_of_closed {scene : Scene (Cursor σ ρ τ)}
    (closed : scene.state.isOpen = false) (rest : Action (Cursor σ ρ τ) α) :
    (read Place.requireOpen >>= fun _ => rest).run scene =
      (.error (.misuse .closed), scene) := by
  rw [Action.run_bind, run_read, Place.requireOpen, if_neg (by simp [closed])]

/-- Leaving no current record changes nothing where there is none. -/
theorem withState_cleared {scene : Scene (Cursor σ ρ τ)} (noRecord : scene.state.current = none) :
    scene.withState { scene.state with current := none } = scene := by
  obtain ⟨⟨⟨keys, position, limit, isOpen, current⟩, ahead, summary⟩, clock, journal⟩ := scene
  cases noRecord
  rfl

variable [Source σ (Option ρ)]

theorem onAhead_hasNext :
    (onAhead LookAhead.hasNext : Action (Cursor σ ρ τ) Bool) = do
      onAhead LookAhead.fetch
      let cursor ← Action.present
      return cursor.ahead.stage.held?.isSome := by
  apply Action.ext
  intro scene
  simp only [run_onAhead, LookAhead.run_hasNext, Action.run_bind, Action.run_present]
  rcases LookAhead.fetch.run (scene.withState scene.state.ahead) with ⟨_ | _, after⟩ <;> rfl

theorem stage_of_hasNext {scene after : Scene (Cursor σ ρ τ)} {more : Bool}
    (looked : (onAhead LookAhead.hasNext).run scene = (.ok more, after)) :
    if more then ∃ record, after.state.ahead.stage = .holding record
    else after.state.ahead.stage = .exhausted := by
  rw [run_onAhead] at looked
  obtain ⟨answer, rfl⟩ := Prod.mk.inj looked
  exact LookAhead.stage_of_hasNext (Prod.ext answer rfl)

/-- The message that the rest is given up at a place. -/
def discarding (place : Place ρ) : Message :=
  ⟨"DB.ResultCursor", .debug,
    "Discarding remaining records at position " ++ toString place.position⟩

theorem run_discard_of_exhausted {scene : Scene (Cursor σ ρ τ)}
    (exhausted : scene.state.ahead.stage = .exhausted) :
    discard.run scene = (.ok (), scene) := by
  obtain ⟨⟨place, ⟨source, stage⟩, summary⟩, clock, journal⟩ := scene
  cases exhausted
  rfl

theorem run_fetch_of_exhausted {scene : Scene (Cursor σ ρ τ)}
    (exhausted : scene.state.ahead.stage = .exhausted) :
    (onAhead LookAhead.fetch).run scene = (.ok (), scene) := by
  obtain ⟨⟨place, ⟨source, stage⟩, summary⟩, clock, journal⟩ := scene
  cases exhausted
  rfl

/-- Where something is left, the cursor writes that it gives it up, and does so as its
look-ahead does. -/
theorem run_discard_of_left {scene : Scene (Cursor σ ρ τ)}
    (left : scene.state.ahead.stage ≠ .exhausted) :
    discard.run scene = (onAhead LookAhead.discard).run
      { scene with journal := scene.journal ++ [discarding scene.state.toPlace] } := by
  obtain ⟨⟨place, ⟨source, stage⟩, summary⟩, clock, journal⟩ := scene
  cases stage with
  | exhausted => exact absurd rfl left
  | empty => rfl
  | holding => rfl

/-- A cursor gives up the rest as its look-ahead does, perhaps with a message
about it. -/
theorem run_discard (scene : Scene (Cursor σ ρ τ)) :
    ∃ journal, discard.run scene =
      (onAhead LookAhead.discard).run { scene with journal := journal } := by
  by_cases exhausted : scene.state.ahead.stage = .exhausted
  · refine ⟨scene.journal, ?_⟩
    rw [run_discard_of_exhausted exhausted]
    obtain ⟨⟨place, ⟨source, stage⟩, summary⟩, clock, journal⟩ := scene
    cases exhausted
    rfl
  · exact ⟨_, run_discard_of_left exhausted⟩

theorem toPlace_of_discard (scene : Scene (Cursor σ ρ τ)) :
    (discard.run scene).2.state.toPlace = scene.state.toPlace := by
  obtain ⟨⟨place, ⟨source, stage⟩, summary⟩, clock, journal⟩ := scene
  cases stage <;> rfl

/-- The end shows as an absent record to one who looks at the next one, and so does
a stop signal that comes of releasing the source. -/
theorem run_peek_of_open {scene : Scene (Cursor σ ρ τ)} (isOpen : scene.state.isOpen = true) :
    peek.run scene =
      match (onAhead LookAhead.fetch).run scene with
      | (.ok _, after) =>
          (match after.state.ahead.stage.held? with
            | some record => .ok record
            | none => .error (.absent .pastLast), after)
      | (.error fault, after) =>
          (.error (if fault.isStop then .absent .pastLast else fault), after) := by
  rw [peek, run_requireOpen_of_open isOpen]
  simp only [Action.recover, run_onAhead, LookAhead.run_peek]
  rcases LookAhead.fetch.run (scene.withState scene.state.ahead) with ⟨fault | _, after⟩
  · rfl
  · simp only [Scene.state_withState]
    cases after.state.stage.held? <;> rfl

theorem run_next_of_closed {scene : Scene (Cursor σ ρ τ)}
    (closed : scene.state.isOpen = false) :
    next.run scene = (.error (.misuse .closed), scene) :=
  run_requireOpen_of_closed closed _

/-- An open cursor steps onto the next record if there is one. -/
theorem run_next_of_open {scene : Scene (Cursor σ ρ τ)} (isOpen : scene.state.isOpen = true) :
    next.run scene =
      match (onAhead LookAhead.hasNext).run scene with
      | (.ok true, between) =>
          ((step.run between).1.map fun _ => true, (step.run between).2)
      | (.ok false, between) =>
          (.ok false, between.withState { between.state with current := none })
      | (.error fault, between) => (.error fault, between) := by
  rw [next, run_requireOpen_of_open isOpen, Action.run_bind]
  rcases (onAhead LookAhead.hasNext).run scene with ⟨_ | _ | _, between⟩
  · rfl
  · rfl
  · simp only [if_true, Action.run_bind]
    rcases step.run between with ⟨_ | _, after⟩ <;> rfl

/-- An advance that does not fail found out whether a record is left. -/
theorem hasNext_of_next {scene after : Scene (Cursor σ ρ τ)} {more : Bool}
    (moved : next.run scene = (.ok more, after)) :
    scene.state.isOpen = true ∧ ∃ between,
      (onAhead LookAhead.hasNext).run scene = (.ok more, between) ∧
        if more then step.run between = (.ok (), after)
        else after = between.withState { between.state with current := none } := by
  cases isOpen : scene.state.isOpen with
  | false =>
      rw [run_next_of_closed isOpen] at moved
      cases moved
  | true =>
      refine ⟨rfl, ?_⟩
      rw [run_next_of_open isOpen] at moved
      rcases looked : (onAhead LookAhead.hasNext).run scene with ⟨_ | _ | _, between⟩
      · rw [looked] at moved
        cases moved
      · rw [looked] at moved
        cases moved
        exact ⟨between, rfl, rfl⟩
      · rw [looked] at moved
        rcases stepped : step.run between with ⟨_ | _, last⟩
        · simp [stepped, Except.map] at moved
        · simp only [stepped] at moved
          cases moved
          exact ⟨between, rfl, stepped⟩

theorem exhausted_of_next_false {scene after : Scene (Cursor σ ρ τ)}
    (ended : next.run scene = (.ok false, after)) :
    after.state.ahead.stage = .exhausted := by
  obtain ⟨_, between, looked, rfl⟩ := hasNext_of_next ended
  exact stage_of_hasNext looked

theorem run_hasNext_again {scene between : Scene (Cursor σ ρ τ)} {more : Bool}
    (looked : (onAhead LookAhead.hasNext).run scene = (.ok more, between)) :
    (onAhead LookAhead.hasNext).run between = (.ok more, between) := by
  have stage := stage_of_hasNext looked
  obtain ⟨⟨place, ⟨source, held⟩, summary⟩, clock, journal⟩ := between
  cases more with
  | false =>
      cases stage
      rfl
  | true =>
      obtain ⟨record, rfl⟩ := stage
      rfl

theorem toPlace_of_hasNext {scene between : Scene (Cursor σ ρ τ)} {answer : Except Fault Bool}
    (looked : (onAhead LookAhead.hasNext).run scene = (answer, between)) :
    between.state.toPlace = scene.state.toPlace :=
  congrArg (fun outcome => outcome.2.state.toPlace) looked.symm

/-- An advance asks whether a record is left; it can have been asked before. -/
theorem run_next_of_hasNext {scene between : Scene (Cursor σ ρ τ)} {more : Bool}
    (isOpen : scene.state.isOpen = true)
    (looked : (onAhead LookAhead.hasNext).run scene = (.ok more, between)) :
    next.run between = next.run scene := by
  have stillOpen : between.state.isOpen = true := by
    rw [toPlace_of_hasNext looked, isOpen]
  rw [run_next_of_open isOpen, run_next_of_open stillOpen, run_hasNext_again looked, looked]

theorem run_hasNext_of_exhausted {scene : Scene (Cursor σ ρ τ)}
    (exhausted : scene.state.ahead.stage = .exhausted) :
    (onAhead LookAhead.hasNext).run scene = (.ok false, scene) := by
  obtain ⟨⟨place, ⟨source, stage⟩, summary⟩, clock, journal⟩ := scene
  cases exhausted
  rfl

/-! ## Loops -/

theorem gatherFrom_of_none {map : Place ρ → Except Fault α} {scene : Scene (Cursor σ ρ τ)}
    (current : scene.state.current = none) : gatherFrom map scene = (.ok [], scene) := by
  rw [gatherFrom, current]

theorem gatherFrom_of_error {map : Place ρ → Except Fault α} {scene : Scene (Cursor σ ρ τ)}
    {record : ρ} {fault : Fault} (current : scene.state.current = some record)
    (failed : map scene.state.toPlace = .error fault) :
    gatherFrom map scene = (.error fault, scene) := by
  rw [gatherFrom, current]
  simp only [failed]

/-- After the current record was mapped, the cursor advances and goes on. -/
theorem gatherFrom_of_ok {map : Place ρ → Except Fault α} {scene : Scene (Cursor σ ρ τ)}
    {record : ρ} {value : α} (current : scene.state.current = some record)
    (mapped : map scene.state.toPlace = .ok value) :
    gatherFrom map scene =
      match next.run scene with
      | (.ok true, after) =>
          ((gatherFrom map after).1.map (value :: ·), (gatherFrom map after).2)
      | (.ok false, after) => (.ok [value], after)
      | (.error fault, after) => (.error fault, after) := by
  rw [gatherFrom, current]
  simp only [mapped]
  split <;> simp_all

theorem run_gather (map : Place ρ → Except Fault α) (scene : Scene (Cursor σ ρ τ)) :
    (gather map).run scene =
      match gatherFrom map scene with
      | (.ok values, after) => ((discard.run after).1.map fun _ => values, (discard.run after).2)
      | (.error fault, after) => (.error fault, after) := by
  simp only [gather, Action.run_bind]
  rcases gatherFrom map scene with ⟨_ | values, after⟩
  · rfl
  · simp only
    rcases discard.run after with ⟨_ | _, last⟩ <;> rfl

theorem run_skipUpTo_succ (wanted : Nat) (scene : Scene (Cursor σ ρ τ)) :
    (skipUpTo (wanted + 1)).run scene =
      match next.run scene with
      | (.ok true, after) =>
          (((skipUpTo wanted).run after).1.map (· + 1), ((skipUpTo wanted).run after).2)
      | (.ok false, after) => (.ok 0, after)
      | (.error fault, after) => (.error fault, after) := by
  rw [skipUpTo, Action.run_bind]
  rcases next.run scene with ⟨_ | _ | _, after⟩
  · rfl
  · rfl
  · simp only [if_true, Action.run_bind]
    rcases (skipUpTo wanted).run after with ⟨_ | _, last⟩ <;> rfl

theorem drainFrom_eq (scene : Scene (Cursor σ ρ τ)) :
    drainFrom scene =
      match next.run scene with
      | (.ok true, after) => drainFrom after
      | (.ok false, after) => (.ok (), after)
      | (.error fault, after) => (.error fault, after) := by
  rw [drainFrom]
  split <;> simp_all

/-- Walking takes records until the bound is reached or an advance finds none. -/
theorem collectFrom_eq {bound : Option Nat} (more : bound ≠ some 0)
    (scene : Scene (Cursor σ ρ τ)) :
    Source.collectFrom bound scene =
      match advance.run scene with
      | (.ok record, after) =>
          ((Source.collectFrom (bound.map Nat.pred) after).1.map (record :: ·),
            (Source.collectFrom (bound.map Nat.pred) after).2)
      | (.error fault, after) => (if fault.isStop then .ok [] else .error fault, after) := by
  have asked : Source.pull.run scene = advance.run scene := rfl
  rw [Source.collectFrom_eq more, asked]
  rcases advance.run scene with ⟨_ | _, after⟩ <;> rfl

end Cursor

end QueryCursor
