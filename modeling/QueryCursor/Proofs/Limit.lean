import QueryCursor.Proofs.Bounds
import QueryCursor.Proofs.Course.Script
import QueryCursor.Proofs.Rationed

/-!
# Limits

A cursor that was given a limit stays within it, whatever is asked of it afterwards.
It goes on as one over a source that has only as many records left as the limit
allows: no record past the limit is taken, let alone shown.
-/

namespace QueryCursor

/-- The number of items that are held. -/
def Stage.amount {α : Type} (stage : Stage α) : Nat := stage.held?.toList.length

@[simp] theorem Stage.amount_empty {α : Type} : (Stage.empty : Stage α).amount = 0 := rfl

@[simp] theorem Stage.amount_holding {α : Type} (item : α) : (Stage.holding item).amount = 1 := rfl

theorem Stage.amount_le_one {α : Type} (stage : Stage α) : stage.amount ≤ 1 := by
  cases stage with
  | holding => exact Nat.le_refl 1
  | empty => exact Nat.zero_le 1
  | exhausted => exact Nat.zero_le 1

namespace Cursor

variable {σ ρ τ : Type}

/-! ## What is taken -/

section Fetching

variable [Source σ (Option ρ)]

/-- The ways in which a cursor that looks for the next record can end: it looked
before, or it takes the record from the source, meets a failure there, or the end. -/
theorem run_fetch_cases (scene : Scene (Cursor σ ρ τ)) :
    (scene.state.ahead.stage ≠ .empty ∧
      (onAhead LookAhead.fetch).run scene = (.ok (), scene)) ∨
    (scene.state.ahead.stage = .empty ∧ ∃ outcome after,
      Source.pull.run (scene.withState scene.state.ahead.source) = (outcome, after) ∧
      match outcome with
      | .ok record => (onAhead LookAhead.fetch).run scene =
          (.ok (), after.withState
            { scene.state with ahead := ⟨after.state, .holding record⟩ })
      | .error fault =>
          if fault.isStop then
            ((onAhead LookAhead.fetch).run scene).2.state.ahead.stage = .exhausted
          else (onAhead LookAhead.fetch).run scene =
            (.error fault, after.withState
              { scene.state with ahead := ⟨after.state, .empty⟩ })) := by
  obtain ⟨⟨place, ⟨source, stage⟩, summary⟩, clock, journal⟩ := scene
  cases stage with
  | exhausted => exact .inl ⟨nofun, rfl⟩
  | holding => exact .inl ⟨nofun, rfl⟩
  | empty =>
      right
      rcases pulled : Source.pull.run (⟨source, clock, journal⟩ : Scene σ) with ⟨outcome, after⟩
      refine ⟨rfl, outcome, after, pulled, ?_⟩
      rw [run_onAhead]
      simp only [Scene.withState, LookAhead.run_fetch_empty, LookAhead.run_refill, pulled]
      cases outcome with
      | ok => rfl
      | error fault =>
          simp only
          split
          · exact LookAhead.exhausted_of_run_discard _
          · rfl

/-- As long as something can be left, every item that was taken became current or is
held. -/
def Tallied (scene : Scene (Cursor (Overheard σ (Option ρ)) ρ τ)) : Prop :=
  scene.state.ahead.stage ≠ .exhausted →
    ((itemsFrom scene.state.ahead.source.calls).length : Int) =
      scene.state.position + 1 + scene.state.ahead.stage.amount

theorem Tallied.fetch {scene : Scene (Cursor (Overheard σ (Option ρ)) ρ τ)}
    (tallied : Tallied scene) : Tallied ((onAhead LookAhead.fetch).run scene).2 := by
  rcases run_fetch_cases scene with ⟨_, ran⟩ | ⟨empty, outcome, after, pulled, ran⟩
  · rw [ran]
    exact tallied
  · have before := tallied (by simp [empty])
    rw [empty, Stage.amount_empty] at before
    rcases heard : Source.pull.run ((scene.withState scene.state.ahead.source).withState
      scene.state.ahead.source.source) with ⟨outcome', after'⟩
    cases pulled.symm.trans (Overheard.run_pull heard)
    cases outcome with
    | ok record =>
        rw [ran]
        intro _
        simp only [Scene.state_withState, itemsFrom_append, itemsFrom_pull_ok, itemsFrom_nil,
          List.length_append, List.length_singleton, Stage.amount_holding]
        omega
    | error fault =>
        simp only at ran
        split at ran
        · exact fun left => absurd ran left
        · rw [ran]
          intro _
          simp only [Scene.state_withState, itemsFrom_append, itemsFrom_pull_error,
            itemsFrom_nil, List.append_nil, Stage.amount_empty]
          exact before

theorem Tallied.step {scene : Scene (Cursor (Overheard σ (Option ρ)) ρ τ)}
    (tallied : Tallied scene) {record : Option ρ}
    (held : scene.state.ahead.stage = .holding record) : Tallied (Cursor.step.run scene).2 := by
  rw [run_step_of_holding held]
  split
  · exact fun left => absurd (exhausted_of_run_discard _) left
  · intro _
    have before := tallied (by simp [held])
    rw [held, Stage.amount_holding] at before
    show _ = scene.state.position + 1 + 1 + ((Stage.empty : Stage (Option ρ)).amount : Int)
    rw [Stage.amount_empty]
    exact before.trans (by omega)

theorem Tallied.move (move : Move) (scene : Scene (Cursor (Overheard σ (Option ρ)) ρ τ))
    (allowed : move.Allowed scene.state) (tallied : Tallied scene) :
    Tallied (move.action.run scene).2 := by
  cases move with
  | look => exact tallied.fetch
  | clear => exact tallied
  | shut => exact tallied
  | discard => exact fun left => absurd (exhausted_of_run_discard scene) left
  | step =>
      obtain ⟨_, record, held⟩ := allowed
      exact tallied.step held
  | cap records =>
      rw [run_cap]
      split
      · exact fun left => absurd (exhausted_of_run_discard _) left
      · exact tallied

/-! ## What is left to take -/

/-- A cursor that is not past a limit, with as many items left to take as lead up to
it. -/
structure Rationing (last : Int) (scene : Scene (Cursor (Rationed σ) ρ τ)) : Prop where
  limit_eq : scene.state.limit = last
  position_le : scene.state.position ≤ last
  left_eq : scene.state.ahead.stage ≠ .exhausted →
    scene.state.position + scene.state.ahead.stage.amount + scene.state.ahead.source.left = last
  before_last : scene.state.ahead.stage ≠ .exhausted → scene.state.position < last

namespace Rationing

variable {last : Int} {scene : Scene (Cursor (Rationed σ) ρ τ)}

omit [Source σ (Option ρ)] in
theorem exhausted_of_last (rationing : Rationing last scene)
    (reached : scene.state.position = last) : scene.state.ahead.stage = .exhausted := by
  by_cases exhausted : scene.state.ahead.stage = .exhausted
  · exact exhausted
  · exact absurd reached (Int.ne_of_lt (rationing.before_last exhausted))

omit [Source σ (Option ρ)] in
/-- Where nothing is left, no ration is to be kept to. -/
theorem ofExhausted (limit_eq : scene.state.limit = last)
    (position_le : scene.state.position ≤ last)
    (exhausted : scene.state.ahead.stage = .exhausted) : Rationing last scene :=
  ⟨limit_eq, position_le, fun left => absurd exhausted left, fun left => absurd exhausted left⟩

omit [Source σ (Option ρ)] in
/-- A cursor that stays where it was, with the same before it, has the same ration. -/
theorem ofPlace {ω : Type} {after : Scene (Cursor (Rationed ω) ρ τ)}
    (rationing : Rationing last scene) (limit : after.state.limit = scene.state.limit)
    (position : after.state.position = scene.state.position)
    (stage : after.state.ahead.stage = scene.state.ahead.stage)
    (left : after.state.ahead.source.left = scene.state.ahead.source.left) :
    Rationing last after where
  limit_eq := limit.trans rationing.limit_eq
  position_le := position ▸ rationing.position_le
  left_eq := by
    rw [position, stage, left]
    exact rationing.left_eq
  before_last := by
    rw [position, stage]
    exact rationing.before_last

theorem discard (limit_eq : scene.state.limit = last) (position_le : scene.state.position ≤ last) :
    Rationing last (Cursor.discard.run scene).2 := by
  have same := toPlace_of_discard scene
  apply ofExhausted
  · rw [same]
    exact limit_eq
  · rw [same]
    exact position_le
  · exact exhausted_of_run_discard scene

theorem fetch (rationing : Rationing last scene) :
    Rationing last ((onAhead LookAhead.fetch).run scene).2 := by
  rcases run_fetch_cases scene with ⟨_, ran⟩ | ⟨empty, outcome, after, pulled, ran⟩
  · rw [ran]
    exact rationing
  · have notExhausted : scene.state.ahead.stage ≠ .exhausted := by simp [empty]
    have left := rationing.left_eq notExhausted
    have before := rationing.before_last notExhausted
    rw [empty, Stage.amount_empty] at left
    have some : scene.state.ahead.source.left ≠ 0 := by omega
    rcases inner : Source.pull.run ((scene.withState scene.state.ahead.source).withState
      scene.state.ahead.source.source) with ⟨outcome', after'⟩
    cases pulled.symm.trans (Rationed.run_pull_of_left some inner)
    cases outcome with
    | ok record =>
        rw [ran]
        refine ⟨rationing.limit_eq, rationing.position_le, ?_, fun _ => before⟩
        intro _
        simp only [Scene.state_withState, Stage.amount_holding, Rationed.leftAfter]
        omega
    | error fault =>
        simp only at ran
        split at ran
        · exact ofExhausted rationing.limit_eq rationing.position_le ran
        · rw [ran]
          refine ⟨rationing.limit_eq, rationing.position_le, ?_, fun _ => before⟩
          intro _
          simp only [Scene.state_withState, Stage.amount_empty, Rationed.leftAfter]
          exact left

/-- A step goes to the limit at most, and gives up the rest there. -/
theorem step (rationing : Rationing last scene) {record : Option ρ}
    (held : scene.state.ahead.stage = .holding record) :
    Rationing last (Cursor.step.run scene).2 := by
  have notExhausted : scene.state.ahead.stage ≠ .exhausted := by simp [held]
  have left := rationing.left_eq notExhausted
  have before := rationing.before_last notExhausted
  rw [held, Stage.amount_holding] at left
  rw [run_step_of_holding held]
  split
  · exact discard rationing.limit_eq before
  · next beyond =>
    rw [rationing.limit_eq] at beyond
    refine ⟨rationing.limit_eq, before, ?_, ?_⟩
    · intro _
      show scene.state.position + 1 + ((Stage.empty : Stage (Option ρ)).amount : Int) +
        scene.state.ahead.source.left = last
      rw [Stage.amount_empty]
      omega
    · intro _
      show scene.state.position + 1 < last
      omega

theorem move (move : Move) (scene : Scene (Cursor (Rationed σ) ρ τ)) (keepsLimit : move.KeepsLimit)
    (allowed : move.Allowed scene.state) (rationing : Rationing last scene) :
    Rationing last (move.action.run scene).2 := by
  cases move with
  | look => exact rationing.fetch
  | clear => exact rationing.ofPlace rfl rfl rfl rfl
  | shut => exact rationing.ofPlace rfl rfl rfl rfl
  | discard => exact discard rationing.limit_eq rationing.position_le
  | cap => exact keepsLimit.elim
  | step =>
      obtain ⟨_, record, held⟩ := allowed
      exact rationing.step held

theorem ofCap {records : Int} (notNegative : 0 ≤ records) (scene : Scene (Cursor σ ρ τ)) :
    let capped := ((Move.cap records).action.run scene).2
    Rationing (scene.state.position + records)
      (rationed (records.toNat - capped.state.ahead.stage.amount) capped) := by
  have atMostOne := scene.state.ahead.stage.amount_le_one
  have within : scene.state.position ≤ scene.state.position + records := by omega
  rw [run_cap]
  split
  · have same := toPlace_of_discard (limitedTo records scene)
    have exhausted := exhausted_of_run_discard (limitedTo records scene)
    refine ofExhausted (congrArg Place.limit same) ?_ exhausted
    exact Int.le_trans (Int.le_of_eq (congrArg Place.position same)) within
  · next some =>
    refine ⟨rfl, within, ?_, ?_⟩
    · intro _
      show scene.state.position + (scene.state.ahead.stage.amount : Int) +
        ((records.toNat - scene.state.ahead.stage.amount : Nat) : Int) =
          scene.state.position + records
      omega
    · intro _
      show scene.state.position < scene.state.position + records
      omega

end Rationing

end Fetching

section Operations

variable {σ τ : Type} [Source σ (Option Record)]

/-- The operations set no limit. -/
def Unlimited (operations : List CursorOperation) : Prop :=
  ∀ records, .limit records ∉ operations

/-- As long as no other limit is set, a cursor that keeps to a ration runs as one that
has no more records left to take. -/
theorem rationed_unnoticed {scene : Scene (Cursor σ Record τ)} {left : Nat} {last : Int}
    (rationing : Rationing last (rationed left scene)) {operations : List CursorOperation}
    (unlimited : Unlimited operations) :
    (Action.runAll (operations.map perform) (rationed left scene)).map (observe id) =
        (Action.runAll (operations.map perform) scene).map (observe id) ∧
      Wrapped Rationed.source (Rationing last) (sceneAfter operations (rationed left scene))
        (sceneAfter operations scene) := by
  have inStep : InStep (Wrapped (σ := σ) (ρ := Record) (τ := τ) Rationed.source (Rationing last))
      Move.KeepsLimit := by
    apply Wrapped.inStep Rationed.wraps
    · intro scene rationing empty
      have notExhausted : scene.state.ahead.stage ≠ .exhausted := by simp [empty]
      have left := rationing.left_eq notExhausted
      have before := rationing.before_last notExhausted
      rw [empty, Stage.amount_empty] at left
      omega
    · exact Rationing.move
  exact Wrapped.runAll_eq inStep (fun _ keepsLimit => keepsLimit)
    (fun records member => absurd member (unlimited records))
    (.ofWrap (fun _ => rfl) rationing)

/-- How a cursor goes on after a limit of so many records was set in a scene, when so
many had been taken from the source. -/
structure Capped (scene : Scene (Cursor σ Record τ)) (records : Int) (taken : Nat) : Prop where
  limit_eq : ((perform (.limit records)).run scene).2.state.limit =
    scene.state.position + records
  /-- No trace of an earlier limit is left. -/
  replaces : ∀ earlier, (perform (.limit records)).run
      (scene.withState { scene.state with limit := earlier }) =
    (perform (.limit records)).run scene
  position_le : ∀ later, Unlimited later →
    (sceneAfter (.limit records :: later) scene).state.position ≤ scene.state.position + records
  /-- The answers are those of a cursor over a source that has no record past the
  limit. -/
  unseen : ∀ later, Unlimited later →
    let limited := ((perform (.limit records)).run scene).2
    (Action.runAll (later.map perform) limited).map (observe id) =
      (Action.runAll (later.map perform)
        (rationed (records.toNat - limited.state.ahead.stage.amount) limited)).map (observe id)
  atMost : ∀ later, Unlimited later →
    (itemsFrom (callsDuring later ((perform (.limit records)).run scene).2)).length ≤ records
  /-- A record is only asked for if it is none past the limit. -/
  asked_le : ∀ later, Unlimited later → ∀ earlier outcome,
    earlier ++ [.pull outcome] <+:
      callsDuring later ((perform (.limit records)).run scene).2 →
    ((taken + (itemsFrom earlier).length : Nat) : Int) ≤ scene.state.position + records
  final : ∀ later, Unlimited later →
    let after := sceneAfter (.limit records :: later) scene
    after.state.position = scene.state.position + records →
    after.state.ahead.stage = .exhausted ∧
      ∀ others, (sceneAfter others after).state.ahead = after.state.ahead ∧
        (sceneAfter others after).state.position = after.state.position

/-- A cursor that keeps to a ration makes its calls within it. -/
theorem spends_of_rationing {scene : Scene (Cursor σ Record τ)} {left : Nat} {last : Int}
    (rationing : Rationing last (rationed left scene)) {operations : List CursorOperation}
    (unlimited : Unlimited operations) :
    (itemsFrom (callsDuring operations scene)).length ≤ left ∧
      SourceCall.Within left (callsDuring operations scene) := by
  have overheard : Rationing last (rationed left (overheard scene)) :=
    rationing.ofPlace rfl rfl rfl rfl
  obtain ⟨_, wrapped⟩ := rationed_unnoticed overheard unlimited
  have spends : Rationed.Spends left
      (sceneAfter operations (rationed left (Cursor.overheard scene))).state.ahead.source := by
    apply LookAhead.inCustody_same.mp
    apply (Rationed.custody left).sceneAfter operations
    have fresh : Rationed.Spends left (⟨⟨scene.state.ahead.source, []⟩, left⟩ :
        Rationed (Overheard σ (Option Record))) :=
      ⟨Nat.zero_add left, fun earlier outcome begun => by simp at begun⟩
    exact LookAhead.inCustody_same.mpr fresh
  have calls : callsDuring operations scene =
      (sceneAfter operations
        (rationed left (Cursor.overheard scene))).state.ahead.source.source.calls :=
    congrArg (fun ahead => ahead.source.calls) wrapped.ahead_eq.symm
  rw [calls]
  exact ⟨by have total := spends.taken_add_left; omega, spends.within⟩

theorem capped {scene : Scene (Cursor σ Record τ)} {records : Int} {taken : Nat}
    (isOpen : scene.state.isOpen = true) (notNegative : 0 ≤ records)
    (tally : let limited := ((perform (.limit records)).run scene).2
      limited.state.ahead.stage ≠ .exhausted →
        (taken : Int) = limited.state.position + 1 + limited.state.ahead.stage.amount) :
    Capped scene records taken := by
  have rationing := Rationing.ofCap notNegative scene
  have limited : ((perform (.limit records)).run scene).2 =
      ((Move.cap records).action.run scene).2 := by
    rw [perform, run_answering]
    exact scene_of_setLimit isOpen notNegative
  rw [← limited] at rationing
  refine ⟨rationing.limit_eq, ?_, ?_, ?_, ?_, ?_, ?_⟩
  · intro earlier
    have stillOpen : (scene.withState { scene.state with limit := earlier }).state.isOpen = true :=
      isOpen
    rw [perform, run_answering, run_answering, setLimit_eq notNegative,
      run_requireOpen_of_open isOpen, run_requireOpen_of_open stillOpen]
    rfl
  · intro later unlimited
    have wrapped := (rationed_unnoticed rationing unlimited).2
    have place := wrapped.toPlace_eq
    exact congrArg Place.position place ▸ wrapped.isGood.position_le
  · intro later unlimited
    exact (rationed_unnoticed rationing unlimited).1.symm
  · intro later unlimited
    have atMost := (spends_of_rationing rationing unlimited).1
    omega
  · intro later unlimited earlier outcome begun
    have fewer := (spends_of_rationing rationing unlimited).2 earlier outcome begun
    by_cases exhausted : ((perform (.limit records)).run scene).2.state.ahead.stage = .exhausted
    · rw [callsDuring_of_exhausted exhausted] at begun
      simp at begun
    · have counted : (taken : Int) = _ := tally exhausted
      have left := rationing.left_eq exhausted
      simp only [rationed, wrap, LookAhead.unwrap, Scene.state_withState] at left
      omega
  · intro later unlimited after position
    have wrapped := (rationed_unnoticed rationing unlimited).2
    have stage := congrArg LookAhead.stage wrapped.ahead_eq
    have samePosition := congrArg Place.position wrapped.toPlace_eq
    have exhausted : after.state.ahead.stage = .exhausted :=
      stage.symm.trans (wrapped.isGood.exhausted_of_last (samePosition.trans position))
    refine ⟨exhausted, ?_⟩
    intro others
    have progress := Progress.sceneAfter others after
    exact ⟨progress.ahead_eq exhausted, progress.position_eq exhausted⟩

/-- As long as something can be left, the calls of a run gave the records that became
current and the one that is held. -/
theorem taken_of_sceneAfter (keys : List Value) (source : σ) (summary : σ → τ) (clock : Clock)
    (journal : List Message) (operations : List CursorOperation) :
    let start : Scene (Cursor σ Record τ) := ⟨ofSource keys source summary, clock, journal⟩
    let scene := sceneAfter operations start
    scene.state.ahead.stage ≠ .exhausted →
      ((itemsFrom (callsDuring operations start)).length : Int) =
        scene.state.position + 1 + scene.state.ahead.stage.amount := by
  intro start scene left
  have wrapped := (overheard_unnoticed start operations).2
  have stage := congrArg LookAhead.stage wrapped.ahead_eq
  have position := congrArg Place.position wrapped.toPlace_eq
  have tallied : Tallied (sceneAfter operations (overheard start)) :=
    keeps_sceneAfter Tallied.move operations fun _ => rfl
  have taken := tallied fun exhausted => left (stage.symm.trans exhausted)
  rw [position] at taken
  exact stage ▸ taken

/-- A limit is never overrun. -/
theorem limit_is_never_overrun (keys : List Value) (source : σ) (summary : σ → τ) (clock : Clock)
    (journal : List Message) (operations : List CursorOperation) :
    let start : Scene (Cursor σ Record τ) := ⟨ofSource keys source summary, clock, journal⟩
    (∀ moment, Passes start moment → Bounded moment) ∧
      ∀ records, 0 ≤ records → (sceneAfter operations start).state.isOpen = true →
        Capped (sceneAfter operations start) records
          (itemsFrom (callsDuring (operations ++ [.limit records]) start)).length := by
  intro start
  refine ⟨fun moment => (Bounded.ofSource keys source summary clock journal).passes, ?_⟩
  intro records notNegative isOpen
  apply capped isOpen notNegative
  have taken := taken_of_sceneAfter keys source summary clock journal
    (operations ++ [.limit records])
  simp only [sceneAfter_append] at taken
  exact taken

/-- A limit of one record, set where the first record of an iterator is held. -/
theorem limit_on_faltering_is_never_overrun :
    let scene := sceneAfter [.peek]
      ⟨ofSource (ρ := Record) [.string "n"] Script.faltering fun _ => (), {}, []⟩
    Capped scene 1 (itemsFrom (callsDuring ([.peek] ++ [.limit 1])
      ⟨ofSource (ρ := Record) [.string "n"] Script.faltering fun _ => (), {}, []⟩)).length :=
  (limit_is_never_overrun [.string "n"] Script.faltering (fun _ => ()) {} [] [.peek]).2 1
    (by decide) rfl

end Operations

end Cursor

end QueryCursor
