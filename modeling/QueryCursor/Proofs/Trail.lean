import QueryCursor.Cursor.Operation
import QueryCursor.Proofs.Advance

/-!
# Trails

Every operation of a cursor is made of a few moves: it looks for the next record,
steps onto one that is held, has no current record any more, is given a limit,
gives up the rest, or shuts.  A trail is a sequence of such moves with the fault
that ended it, if one did.

`Cursor.trail_of_perform` says that every operation leaves a trail.  Whatever all
moves preserve is therefore preserved by every operation.
-/

namespace QueryCursor

/-- The fault that an outcome is, if it is one. -/
@[simp] def faultOf {α : Type} : Except Fault α → Option Fault
  | .ok _ => none
  | .error fault => some fault

/-- Whether a fault is one of the cursor's own: a misuse, a record that cannot
exist, or the end of a walk over the records. -/
def Fault.IsOwn : Fault → Prop
  | .misuse _ => True
  | .absent _ => True
  | fault => fault = Fault.ended

namespace Cursor

variable {σ ρ τ α β : Type}

/-- What the operations of a cursor are made of. -/
inductive Move where
  /-- Makes sure that the next record is held, unless there is none. -/
  | look
  /-- Makes the record that is held current. -/
  | step
  /-- Leaves no current record. -/
  | clear
  | cap (records : Int)
  | discard
  | shut

namespace Move

/-- When a cursor makes a move. -/
def Allowed (cursor : Cursor σ ρ τ) : Move → Prop
  | .look => True
  | .step => cursor.isOpen ∧ ∃ record, cursor.ahead.stage = .holding record
  | .clear => cursor.isOpen ∧ cursor.ahead.stage = .exhausted
  | .cap records => cursor.isOpen ∧ 0 ≤ records
  | .discard => True
  | .shut => cursor.isOpen ∧ cursor.ahead.stage = .exhausted

variable [Source σ (Option ρ)]

/-- What a move does. -/
def action : Move → Action (Cursor σ ρ τ) Unit
  | .look => onAhead LookAhead.fetch
  | .step => Cursor.step
  | .clear => Cursor.move fun place => { place with current := none }
  | .cap records => do
    Cursor.move fun place => { place with limit := place.position + records }
    if records = 0 then Cursor.discard
  | .discard => Cursor.discard
  | .shut => do
    Cursor.move fun place => { place with isOpen := false }
    let cursor ← Action.present
    report ("Cursor closed at position " ++ toString cursor.position)

end Move

/-- The scene with a limit of so many records from there on. -/
def limitedTo (records : Int) (scene : Scene (Cursor σ ρ τ)) : Scene (Cursor σ ρ τ) :=
  scene.withState { scene.state with limit := scene.state.position + records }

variable [Source σ (Option ρ)] {other : Fault → Prop}

theorem run_cap (records : Int) (scene : Scene (Cursor σ ρ τ)) :
    (Move.cap records).action.run scene =
      if records = 0 then discard.run (limitedTo records scene)
      else (.ok (), limitedTo records scene) := by
  simp only [Move.action, Action.run_bind, run_move]
  split <;> rfl

theorem run_setLimit_of_neg {records : Int} (negative : records < 0)
    (scene : Scene (Cursor σ ρ τ)) :
    (setLimit records).run scene = (.error (.misuse .negativeLimit), scene) := by
  simp only [setLimit, if_pos negative, Action.run_bind, Action.run_throw]

theorem setLimit_eq {records : Int} (notNegative : 0 ≤ records) :
    (setLimit records : Action (Cursor σ ρ τ) Int) = do
      read Place.requireOpen
      (Move.cap records).action
      let cursor ← Action.present
      return cursor.limit := by
  simp only [setLimit, Move.action, if_neg (Int.not_lt.mpr notNegative)]
  split <;> simp only [bind_assoc, pure_bind]

theorem scene_of_setLimit {records : Int} {scene : Scene (Cursor σ ρ τ)}
    (isOpen : scene.state.isOpen = true) (notNegative : 0 ≤ records) :
    ((setLimit records).run scene).2 = ((Move.cap records).action.run scene).2 := by
  rw [setLimit_eq notNegative, run_requireOpen_of_open isOpen, Action.run_bind]
  rcases (Move.cap records).action.run scene with ⟨fault | _, after⟩ <;> rfl

theorem run_close_of_closed {scene : Scene (Cursor σ ρ τ)} (closed : scene.state.isOpen = false) :
    close.run scene = (.error (.misuse .alreadyClosed), scene) := by
  simp only [close, Action.run_bind, Action.run_present, closed]
  rfl

theorem run_close_of_open {scene : Scene (Cursor σ ρ τ)} (isOpen : scene.state.isOpen = true) :
    close.run scene = (discard >>= fun _ => Move.shut.action).run scene := by
  simp only [close, Action.run_bind, Action.run_present, isOpen]
  rfl

/-- An open cursor that has given up the rest can shut. -/
theorem shut_allowed_of_discard {scene : Scene (Cursor σ ρ τ)}
    (isOpen : scene.state.isOpen = true) : Move.shut.Allowed (discard.run scene).2.state := by
  refine ⟨?_, exhausted_of_run_discard scene⟩
  rw [toPlace_of_discard]
  exact isOpen

/-- A sequence of moves from one scene to another, and the fault that ended it:
that of a move, or one that no move caused.  A stop signal can be taken for the
end of the records. -/
inductive Trail (other : Fault → Prop) :
    Scene (Cursor σ ρ τ) → Option Fault → Scene (Cursor σ ρ τ) → Prop where
  | rest {scene : Scene (Cursor σ ρ τ)} : Trail other scene none scene
  | refused {scene : Scene (Cursor σ ρ τ)} {fault : Fault} :
      fault.IsOwn ∨ other fault → Trail other scene (some fault) scene
  | failed {scene after : Scene (Cursor σ ρ τ)} {fault : Fault} (move : Move) :
      move.Allowed scene.state → move.action.run scene = (.error fault, after) →
      Trail other scene (some fault) after
  | moved {scene between after : Scene (Cursor σ ρ τ)} {fault? : Option Fault} (move : Move) :
      move.Allowed scene.state → move.action.run scene = (.ok (), between) →
      Trail other between fault? after → Trail other scene fault? after
  | stopped {scene between after : Scene (Cursor σ ρ τ)} {fault : Fault}
      {fault? : Option Fault} :
      fault.isStop = true → Trail other scene (some fault) between →
      Trail other between fault? after → Trail other scene fault? after

/-- An action that leaves a trail. -/
def Traced (other : Fault → Prop) (action : Action (Cursor σ ρ τ) α) : Prop :=
  ∀ scene, Trail other scene (faultOf (action.run scene).1) (action.run scene).2

/-- The scenes that a cursor passes on its moves, whether they succeed or fail. -/
inductive Passes {σ ρ τ : Type} [Source σ (Option ρ)] (start : Scene (Cursor σ ρ τ)) :
    Scene (Cursor σ ρ τ) → Prop where
  | start : Passes start start
  | move {scene : Scene (Cursor σ ρ τ)} (move : Move) :
      Passes start scene → move.Allowed scene.state → Passes start (move.action.run scene).2

/-- What every move keeps is kept in every scene that is passed. -/
theorem Passes.keeps {good : Scene (Cursor σ ρ τ) → Prop}
    (kept : ∀ (move : Move) scene, move.Allowed scene.state → good scene →
      good (move.action.run scene).2)
    {start scene : Scene (Cursor σ ρ τ)} (passes : Passes start scene) (before : good start) :
    good scene := by
  induction passes with
  | start => exact before
  | move move _ allowed ih => exact kept move _ allowed ih

theorem Trail.trans {scene between after : Scene (Cursor σ ρ τ)} {fault? : Option Fault}
    (first : Trail other scene none between) (second : Trail other between fault? after) :
    Trail other scene fault? after := by
  generalize noFault : none = ended at first
  induction first with
  | rest => exact second
  | refused => cases noFault
  | failed => cases noFault
  | moved move allowed moved _ ih => exact .moved move allowed moved (ih second noFault)
  | stopped stop stopped _ _ ih => exact .stopped stop stopped (ih second noFault)

theorem Trail.keeps {good : Scene (Cursor σ ρ τ) → Prop}
    (kept : ∀ (move : Move) scene, move.Allowed scene.state → good scene →
      good (move.action.run scene).2)
    {scene after : Scene (Cursor σ ρ τ)} {fault? : Option Fault}
    (trail : Trail other scene fault? after) (before : good scene) : good after := by
  induction trail with
  | rest => exact before
  | refused => exact before
  | failed move allowed failed =>
      have now := kept move _ allowed before
      rwa [failed] at now
  | moved move allowed moved _ ih =>
      have now := kept move _ allowed before
      rw [moved] at now
      exact ih now
  | stopped _ _ _ first second => exact second (first before)

namespace Traced

theorem keeps {action : Action (Cursor σ ρ τ) α} {good : Scene (Cursor σ ρ τ) → Prop}
    (traced : Traced (fun _ => False) action)
    (kept : ∀ (move : Move) scene, move.Allowed scene.state → good scene →
      good (move.action.run scene).2)
    {scene : Scene (Cursor σ ρ τ)} (before : good scene) : good (action.run scene).2 :=
  (traced scene).keeps kept before

theorem result (value : α) : Traced other (pure value : Action (Cursor σ ρ τ) α) :=
  fun _ => .rest

theorem present : Traced other (Action.present : Action (Cursor σ ρ τ) (Cursor σ ρ τ)) :=
  fun _ => .rest

theorem refusal {fault : Fault} (own : fault.IsOwn := by trivial) :
    Traced other (throw fault : Action (Cursor σ ρ τ) α) :=
  fun _ => .refused (.inl own)

theorem bind {action : Action (Cursor σ ρ τ) α} {rest : α → Action (Cursor σ ρ τ) β}
    (first : Traced other action) (second : ∀ value, Traced other (rest value)) :
    Traced other (action >>= rest) := by
  intro scene
  have trail := first scene
  rw [Action.run_bind]
  rcases ran : action.run scene with ⟨_ | value, between⟩
  · rw [ran] at trail
    exact trail
  · rw [ran] at trail
    exact trail.trans (second value between)

theorem ofExcept {outcome : Except Fault α}
    (allowed : ∀ fault, outcome = .error fault → fault.IsOwn ∨ other fault) :
    Traced other (Action.ofExcept outcome : Action (Cursor σ ρ τ) α) := by
  intro scene
  cases outcome with
  | ok => exact .rest
  | error fault => exact .refused (allowed fault rfl)

theorem read {view : Place ρ → Except Fault α}
    (allowed : ∀ place fault, view place = .error fault → fault.IsOwn ∨ other fault) :
    Traced other (read view : Action (Cursor σ ρ τ) α) :=
  present.bind fun cursor => ofExcept (allowed cursor.toPlace)

theorem requireOpen :
    Traced other (Cursor.read Place.requireOpen : Action (Cursor σ ρ τ) Unit) := by
  apply read
  intro place fault refused
  unfold Place.requireOpen at refused
  split at refused
  · simp at refused
  · cases refused
    exact .inl trivial

theorem ofMove (move : Move) (allowed : ∀ cursor : Cursor σ ρ τ, move.Allowed cursor) :
    Traced other (move.action : Action (Cursor σ ρ τ) Unit) := by
  intro scene
  rcases moved : move.action.run scene with ⟨_ | _, after⟩
  · exact .failed move (allowed scene.state) moved
  · exact .moved move (allowed scene.state) moved .rest

theorem discard : Traced other (Cursor.discard : Action (Cursor σ ρ τ) Unit) :=
  ofMove .discard fun _ => trivial

theorem hasNext : Traced other (onAhead LookAhead.hasNext : Action (Cursor σ ρ τ) Bool) := by
  rw [onAhead_hasNext]
  exact bind (ofMove .look fun _ => trivial) fun _ => bind present fun _ => result _

/-- An advance looks for the next record and steps onto it, or leaves no current
record at the end. -/
theorem next : Traced other (Cursor.next : Action (Cursor σ ρ τ) Bool) := by
  intro scene
  cases isOpen : scene.state.isOpen with
  | false =>
      rw [run_next_of_closed isOpen]
      exact .refused (.inl trivial)
  | true =>
      rw [run_next_of_open isOpen]
      have looked : Trail other scene _ _ := hasNext scene
      rcases ran : (onAhead LookAhead.hasNext).run scene with ⟨fault | more, between⟩
      · rw [ran] at looked
        exact looked
      · rw [ran] at looked
        have stage := stage_of_hasNext ran
        have stillOpen : between.state.isOpen = true := by
          rw [toPlace_of_hasNext ran, isOpen]
        cases more with
        | false => exact looked.trans (.moved .clear ⟨stillOpen, stage⟩ rfl .rest)
        | true =>
            apply looked.trans
            simp only
            rcases stepped : Cursor.step.run between with ⟨fault | _, after⟩
            · exact .failed .step ⟨stillOpen, stage⟩ stepped
            · exact .moved .step ⟨stillOpen, stage⟩ stepped .rest

theorem skipUpTo (wanted : Nat) :
    Traced other (Cursor.skipUpTo wanted : Action (Cursor σ ρ τ) Nat) := by
  induction wanted with
  | zero => exact result 0
  | succ wanted ih =>
      apply next.bind
      intro moved
      cases moved with
      | false => exact result 0
      | true => exact ih.bind fun others => result (others + 1)

theorem refuseIf {condition : Prop} [Decidable condition] {fault : Fault}
    {rest : Unit → Action (Cursor σ ρ τ) α} (traced : Traced other (rest ()))
    (own : fault.IsOwn := by trivial) :
    Traced other (if condition then throw fault >>= rest else rest ()) := by
  split
  · exact fun _ => .refused (.inl own)
  · exact traced

theorem precedeIf {condition : Prop} [Decidable condition] {first : Action (Cursor σ ρ τ) β}
    {rest : β → Action (Cursor σ ρ τ) α} {otherwise : Action (Cursor σ ρ τ) α}
    (before : Traced other first) (traced : ∀ value, Traced other (rest value))
    (without : Traced other otherwise) :
    Traced other (if condition then first >>= rest else otherwise) := by
  split
  · exact before.bind traced
  · exact without

theorem skip (records : Int) : Traced other (Cursor.skip records : Action (Cursor σ ρ τ) Nat) :=
  refuseIf (requireOpen.bind fun _ => skipUpTo _)

theorem record : Traced other (Cursor.read Place.record : Action (Cursor σ ρ τ) ρ) := by
  apply read
  intro place fault refused
  cases isOpen : place.isOpen with
  | false =>
      rw [Place.record_of_closed isOpen] at refused
      cases refused
      exact .inl trivial
  | true =>
      rw [Place.record_of_open isOpen] at refused
      split at refused
      · cases refused
      · cases refused
        exact .inl trivial

theorem openPosition :
    Traced other (Cursor.read Place.openPosition : Action (Cursor σ ρ τ) Int) := by
  apply read
  intro place fault refused
  cases isOpen : place.isOpen with
  | false =>
      rw [Place.openPosition_of_closed isOpen] at refused
      cases refused
      exact .inl trivial
  | true =>
      rw [Place.openPosition_of_open isOpen] at refused
      cases refused

theorem first : Traced other (Cursor.first : Action (Cursor σ ρ τ) ρ) :=
  openPosition.bind fun _ =>
    refuseIf (precedeIf next (fun _ => refuseIf record) record)

theorem single : Traced other (Cursor.single : Action (Cursor σ ρ τ) ρ) :=
  first.bind fun record => hasNext.bind fun _ => refuseIf (result record)

theorem atEnd : Traced other (Cursor.atEnd : Action (Cursor σ ρ τ) Bool) :=
  requireOpen.bind fun _ => hasNext.bind fun more => result !more

theorem advance : Traced other (Cursor.advance : Action (Cursor σ ρ τ) (Option ρ)) := by
  apply next.bind
  intro moved
  cases moved with
  | false => exact refusal rfl
  | true => exact present.bind fun cursor => result cursor.current

theorem setLimit (records : Int) :
    Traced other (Cursor.setLimit records : Action (Cursor σ ρ τ) Int) := by
  intro scene
  by_cases negative : records < 0
  · rw [run_setLimit_of_neg negative]
    exact .refused (.inl trivial)
  · rw [setLimit_eq (Int.not_lt.mp negative)]
    cases isOpen : scene.state.isOpen with
    | false =>
        rw [run_requireOpen_of_closed isOpen]
        exact .refused (.inl trivial)
    | true =>
        rw [run_requireOpen_of_open isOpen, Action.run_bind]
        have allowed : (Move.cap records).Allowed scene.state := ⟨isOpen, Int.not_lt.mp negative⟩
        rcases moved : (Move.cap records).action.run scene with ⟨fault | _, after⟩
        · exact .failed _ allowed moved
        · exact .moved _ allowed moved .rest

/-- A record that is looked at is looked for first; the end, however it shows, is
then said to be an absent record. -/
theorem peek : Traced other (Cursor.peek : Action (Cursor σ ρ τ) (Option ρ)) := by
  intro scene
  cases isOpen : scene.state.isOpen with
  | false =>
      rw [Cursor.peek, run_requireOpen_of_closed isOpen]
      exact .refused (.inl trivial)
  | true =>
      rw [run_peek_of_open isOpen]
      have looked : Trail other scene _ _ := ofMove .look (fun _ => trivial) scene
      simp only [Move.action] at looked
      rcases fetched : (onAhead LookAhead.fetch).run scene with ⟨fault | _, after⟩
      · rw [fetched] at looked
        cases stop : fault.isStop with
        | false => simpa [stop] using looked
        | true =>
            simp only [stop, if_true]
            exact .stopped stop looked (.refused (.inl trivial))
      · rw [fetched] at looked
        apply looked.trans
        simp only
        cases after.state.ahead.stage.held? with
        | some record => exact .rest
        | none => exact .refused (.inl trivial)

theorem close : Traced other (Cursor.close : Action (Cursor σ ρ τ) Unit) := by
  intro scene
  cases isOpen : scene.state.isOpen with
  | false =>
      rw [run_close_of_closed isOpen]
      exact .refused (.inl trivial)
  | true =>
      have allowed := shut_allowed_of_discard isOpen
      rw [run_close_of_open isOpen, Action.run_bind]
      rcases discarded : Cursor.discard.run scene with ⟨fault | _, after⟩
      · exact .failed .discard trivial discarded
      · rw [discarded] at allowed
        exact .moved .discard trivial discarded (.moved .shut allowed rfl .rest)

theorem leave : Traced other (Cursor.leave : Action (Cursor σ ρ τ) Unit) := by
  apply present.bind
  intro cursor
  split
  · exact close
  · exact result ()

theorem gatherFrom {map : Place ρ → Except Fault α}
    (failing : ∀ place fault, map place = .error fault → other fault) :
    Traced other (⟨Cursor.gatherFrom map⟩ : Action (Cursor σ ρ τ) (List α)) := by
  intro scene
  simp only
  fun_induction Cursor.gatherFrom map scene with
  | case1 => exact .rest
  | case2 scene record current fault failed => exact .refused (.inr (failing _ fault failed))
  | case3 scene record current value mapped after moved rest last gathered ih =>
      have advanced : Trail other scene _ _ := next scene
      rw [moved] at advanced
      rw [gathered] at ih
      cases rest <;> exact advanced.trans ih
  | case4 scene record current value mapped after moved =>
      have advanced : Trail other scene _ _ := next scene
      rw [moved] at advanced
      exact advanced
  | case5 scene record current value mapped fault after moved =>
      have advanced : Trail other scene _ _ := next scene
      rw [moved] at advanced
      exact advanced

theorem drainFrom : Traced other (⟨Cursor.drainFrom⟩ : Action (Cursor σ ρ τ) Unit) := by
  intro scene
  simp only
  fun_induction Cursor.drainFrom scene with
  | case1 scene after moved ih =>
      have advanced : Trail other scene _ _ := next scene
      rw [moved] at advanced
      exact advanced.trans ih
  | case2 scene after moved =>
      have advanced : Trail other scene _ _ := next scene
      rw [moved] at advanced
      exact advanced
  | case3 scene fault after moved =>
      have advanced : Trail other scene _ _ := next scene
      rw [moved] at advanced
      exact advanced

theorem collect (bound : Option Nat) :
    Traced other (Source.collect bound : Action (Cursor σ ρ τ) (List (Option ρ))) := by
  intro scene
  simp only [Source.collect]
  fun_induction Source.collectFrom bound scene with
  | case1 => exact .rest
  | case2 bound scene more record after taken rest last collected ih =>
      have advanced : Trail other scene _ _ := advance scene
      rw [show Cursor.advance.run scene = (.ok record, after) from taken] at advanced
      rw [collected] at ih
      cases rest <;> exact advanced.trans ih
  | case3 bound scene more fault after failed =>
      have advanced : Trail other scene _ _ := advance scene
      rw [show Cursor.advance.run scene = (.error fault, after) from failed] at advanced
      cases stop : fault.isStop with
      | false => exact advanced
      | true => exact .stopped stop advanced .rest

theorem list {map : Place ρ → Except Fault α}
    (failing : ∀ place fault, Place.inCoroutine map place = .error fault → other fault) :
    Traced other (Cursor.list map : Action (Cursor σ ρ τ) (List α)) := by
  have gather :
      Traced other (Cursor.gather (Place.inCoroutine map) : Action (Cursor σ ρ τ) (List α)) :=
    (gatherFrom failing).bind fun values => discard.bind fun _ => result values
  apply requireOpen.bind
  intro _
  apply present.bind
  intro cursor
  split
  · apply hasNext.bind
    intro more
    split
    · exact next.bind fun _ => gather
    · exact result []
  · split
    · exact gather
    · exact refusal

theorem summarize : Traced other (Cursor.summarize : Action (Cursor σ ρ τ) τ) :=
  drainFrom.bind fun _ => discard.bind fun _ => present.bind fun _ => result _

end Traced

end Cursor

/-- The faults that an operation gets from the mapping or the key it was given, or
from writing the columns out. -/
def CursorOperation.Fails : CursorOperation → Fault → Prop
  | .record, fault => ∃ place : Place Record, place.recordValue = .error fault
  | .position, fault => ∃ place : Place Record, place.positionValue = .error fault
  | .first key, fault => ∃ record, Cursor.select key record = .error fault
  | .single key, fault => ∃ record, Cursor.select key record = .error fault
  | .list map, fault => ∃ place, Place.inCoroutine map place = .error fault
  | .index column, fault => ∃ place : Place Record, place.indexValue column = .error fault
  | .get key, fault => ∃ place : Place Record, place.get key = .error fault
  | .literal, fault => ∃ place : Place Record, place.literalValue = .error fault
  | _, _ => False

namespace Cursor

variable {σ τ α : Type} [Source σ (Option Record)] {other : Fault → Prop}

theorem Traced.answering {action : Action (Cursor σ Record τ) α} {make : α → Value}
    (traced : Traced other action) : Traced other (answering action make) :=
  traced.bind fun value => result (CursorAnswer.value (make value))

theorem Traced.total {view : Place Record → α} :
    Traced other (Cursor.read fun place => .ok (view place) : Action (Cursor σ Record τ) α) :=
  read fun _ _ failed => nomatch failed

/-- Every operation leaves a trail. -/
theorem trail_of_perform (operation : CursorOperation) :
    Traced operation.Fails (perform operation : Action (Cursor σ Record τ) (CursorAnswer τ)) := by
  cases operation with
  | next => exact Traced.next.answering
  | skip records => exact (Traced.skip records).answering
  | limit records => exact (Traced.setLimit records).answering
  | peek => exact Traced.peek.answering
  | atEnd => exact Traced.atEnd.answering
  | record => exact (Traced.read fun place fault failed => .inr ⟨place, failed⟩).answering
  | position => exact (Traced.read fun place fault failed => .inr ⟨place, failed⟩).answering
  | first key =>
      apply Traced.first.bind
      intro record
      exact (Traced.ofExcept fun fault failed => .inr ⟨record, failed⟩).answering
  | single key =>
      apply Traced.single.bind
      intro record
      exact (Traced.ofExcept fun fault failed => .inr ⟨record, failed⟩).answering
  | list map => exact (Traced.list fun place fault failed => ⟨place, failed⟩).answering
  | summarize => exact Traced.summarize.bind fun summary => .result (CursorAnswer.summary summary)
  | close => exact Traced.close.answering
  | keys => exact Traced.total.answering
  | size => exact Traced.total.answering
  | containsKey column => exact Traced.total.answering
  | index column => exact (Traced.read fun place fault failed => .inr ⟨place, failed⟩).answering
  | get key => exact (Traced.read fun place fault failed => .inr ⟨place, failed⟩).answering
  | isOpen => exact Traced.total.answering
  | literal => exact (Traced.read fun place fault failed => .inr ⟨place, failed⟩).answering
  | enter => exact .result _
  | leave => exact Traced.leave.answering
  | advance => exact Traced.advance.answering
  | collect bound => exact (Traced.collect bound).answering

/-- The scene after a sequence of operations. -/
def sceneAfter (operations : List CursorOperation) (scene : Scene (Cursor σ Record τ)) :
    Scene (Cursor σ Record τ) :=
  operations.foldl (fun scene operation => ((perform operation).run scene).2) scene

theorem sceneAfter_append (first second : List CursorOperation)
    (scene : Scene (Cursor σ Record τ)) :
    sceneAfter (first ++ second) scene = sceneAfter second (sceneAfter first scene) :=
  List.foldl_append

theorem keeps_sceneAfter {good : Scene (Cursor σ Record τ) → Prop}
    (kept : ∀ (move : Move) scene, move.Allowed scene.state → good scene →
      good (move.action.run scene).2)
    (operations : List CursorOperation) {scene : Scene (Cursor σ Record τ)}
    (before : good scene) : good (sceneAfter operations scene) := by
  induction operations generalizing scene with
  | nil => exact before
  | cons operation operations ih => exact ih ((trail_of_perform operation scene).keeps kept before)

/-- Operations lead to a scene that is passed on their moves. -/
theorem Passes.sceneAfter (operations : List CursorOperation) (start : Scene (Cursor σ Record τ)) :
    Passes start (Cursor.sceneAfter operations start) :=
  keeps_sceneAfter (fun move _ allowed before => .move move before allowed) operations .start

end Cursor

end QueryCursor
