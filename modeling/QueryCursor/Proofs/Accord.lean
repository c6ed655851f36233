import QueryCursor.Proofs.Shown
import QueryCursor.Proofs.Simulation

/-!
# Cursors in accord

Two cursors are in accord when they stand at the same place and stay so, with the
same answers, as both look ahead, advance, give up the rest, or shut.  The other
operations are made of these, so cursors in accord perform all of them alike; only
the setting of a limit has to keep the accord by itself.
-/

namespace QueryCursor

namespace Cursor

variable {σ σ' ρ τ τ' α : Type}

/-- Two actions that related cursors answer with the same. -/
abbrev Concur (related : Scene (Cursor σ ρ τ) → Scene (Cursor σ' ρ τ') → Prop)
    (first : Action (Cursor σ ρ τ) α) (second : Action (Cursor σ' ρ τ') α) : Prop :=
  Simulates related Eq first second

variable [Source σ (Option ρ)] [Source σ' (Option ρ)]

/-- Related cursors that make the move end alike and are related again. -/
def MoveAlike (related : Scene (Cursor σ ρ τ) → Scene (Cursor σ' ρ τ') → Prop) (move : Move) :
    Prop :=
  ∀ left right, related left right → move.Allowed left.state →
    Agree Eq (move.action.run left).1 (move.action.run right).1 ∧
      related (move.action.run left).2 (move.action.run right).2

/-- A relation that cursors keep, and under which they answer alike. -/
structure Accord (related : Scene (Cursor σ ρ τ) → Scene (Cursor σ' ρ τ') → Prop) : Prop where
  toPlace_eq : ∀ {left right}, related left right → left.state.toPlace = right.state.toPlace
  hasNext : Concur related (onAhead LookAhead.hasNext) (onAhead LookAhead.hasNext)
  next : Concur related Cursor.next Cursor.next
  peek : Concur related Cursor.peek Cursor.peek
  discard : Concur related Cursor.discard Cursor.discard
  shut : MoveAlike related .shut

namespace Accord

variable {related : Scene (Cursor σ ρ τ) → Scene (Cursor σ' ρ τ') → Prop}

theorem present (accord : Accord related) :
    Simulates related (fun left right => left.toPlace = right.toPlace) Action.present
      Action.present :=
  fun _ _ relate => ⟨.ok (accord.toPlace_eq relate), relate⟩

theorem read (accord : Accord related) (view : Place ρ → Except Fault α) :
    Concur related (Cursor.read view) (Cursor.read view) := by
  apply accord.present.bind
  intro left right same
  rw [same]
  exact .ofExcept (.of_eq rfl)

theorem atEnd (accord : Accord related) : Concur related Cursor.atEnd Cursor.atEnd :=
  (accord.read Place.requireOpen).seq fun _ => accord.hasNext.seq fun _ => .result rfl

theorem skipUpTo (accord : Accord related) (wanted : Nat) :
    Concur related (Cursor.skipUpTo wanted) (Cursor.skipUpTo wanted) := by
  induction wanted with
  | zero => exact .result rfl
  | succ wanted ih =>
      apply accord.next.seq
      intro moved
      exact .choose Iff.rfl (ih.seq fun _ => .result rfl) (.result rfl)

theorem skip (accord : Accord related) (records : Int) :
    Concur related (Cursor.skip records) (Cursor.skip records) :=
  .refuseIf Iff.rfl ((accord.read Place.requireOpen).seq fun _ => accord.skipUpTo records.toNat)

theorem first (accord : Accord related) : Concur related Cursor.first Cursor.first := by
  apply (accord.read Place.openPosition).seq
  intro position
  apply Simulates.refuseIf Iff.rfl
  apply Simulates.choose Iff.rfl
  · exact accord.next.seq fun moved => .refuseIf Iff.rfl (accord.read Place.record)
  · exact accord.read Place.record

theorem single (accord : Accord related) : Concur related Cursor.single Cursor.single :=
  accord.first.seq fun _ => accord.hasNext.seq fun _ => .refuseIf Iff.rfl (.result rfl)

theorem advance (accord : Accord related) : Concur related Cursor.advance Cursor.advance := by
  apply accord.next.seq
  intro moved
  apply Simulates.choose Iff.rfl
  · exact accord.present.bind fun _ _ same => .result (congrArg Place.current same)
  · exact .refusal

theorem close (accord : Accord related) : Concur related Cursor.close Cursor.close := by
  intro left right relate
  have samePlace := accord.toPlace_eq relate
  cases isOpen : right.state.isOpen with
  | false =>
      rw [run_close_of_closed ((congrArg Place.isOpen samePlace).trans isOpen),
        run_close_of_closed isOpen]
      exact ⟨.error _, relate⟩
  | true =>
      have isOpenLeft := (congrArg Place.isOpen samePlace).trans isOpen
      have allowed := shut_allowed_of_discard isOpenLeft
      obtain ⟨agree, relate⟩ := accord.discard left right relate
      rw [run_close_of_open isOpenLeft, run_close_of_open isOpen, Action.run_bind,
        Action.run_bind]
      rcases ran : Cursor.discard.run left with ⟨outcome, after⟩
      rcases ran' : Cursor.discard.run right with ⟨outcome', after'⟩
      rw [ran, ran'] at agree relate
      rw [ran] at allowed
      cases agree with
      | error fault => exact ⟨.error fault, relate⟩
      | ok => exact accord.shut after after' relate allowed

theorem leave (accord : Accord related) : Concur related Cursor.leave Cursor.leave := by
  apply accord.present.bind
  intro left right same
  apply Simulates.choose
  · rw [show left.isOpen = right.isOpen from congrArg Place.isOpen same]
  · exact accord.close
  · exact .result rfl

/-! ## Loops -/

theorem next_run (accord : Accord related) {left : Scene (Cursor σ ρ τ)}
    {right : Scene (Cursor σ' ρ τ')} (relate : related left right) {answer : Except Fault Bool}
    {after : Scene (Cursor σ ρ τ)} (moved : Cursor.next.run left = (answer, after)) :
    ∃ after', Cursor.next.run right = (answer, after') ∧ related after after' := by
  obtain ⟨agree, relate⟩ := accord.next left right relate
  rw [moved] at agree relate
  exact ⟨_, Prod.ext agree.eq.symm rfl, relate⟩

theorem gatherFrom (accord : Accord related) (map : Place ρ → Except Fault α) :
    Concur related ⟨Cursor.gatherFrom map⟩ ⟨Cursor.gatherFrom map⟩ := by
  intro left right relate
  simp only
  fun_induction Cursor.gatherFrom map left generalizing right with
  | case1 left noRecord =>
      rw [accord.toPlace_eq relate] at noRecord
      rw [gatherFrom_of_none noRecord]
      exact ⟨.ok rfl, relate⟩
  | case2 left record current fault failed =>
      rw [accord.toPlace_eq relate] at current failed
      rw [gatherFrom_of_error current failed]
      exact ⟨.error fault, relate⟩
  | case3 left record current value mapped after moved rest last gathered ih =>
      rw [accord.toPlace_eq relate] at current mapped
      obtain ⟨after', moved', relate⟩ := accord.next_run relate moved
      rw [gatherFrom_of_ok current mapped, moved']
      obtain ⟨agree, relate⟩ := ih after' relate
      rw [gathered] at agree relate
      have same := agree.eq
      exact ⟨.of_eq (congrArg (Except.map (value :: ·)) same), relate⟩
  | case4 left record current value mapped after moved =>
      rw [accord.toPlace_eq relate] at current mapped
      obtain ⟨after', moved', relate⟩ := accord.next_run relate moved
      rw [gatherFrom_of_ok current mapped, moved']
      exact ⟨.ok rfl, relate⟩
  | case5 left record current value mapped fault after moved =>
      rw [accord.toPlace_eq relate] at current mapped
      obtain ⟨after', moved', relate⟩ := accord.next_run relate moved
      rw [gatherFrom_of_ok current mapped, moved']
      exact ⟨.error fault, relate⟩

theorem drainFrom (accord : Accord related) :
    Concur related ⟨Cursor.drainFrom⟩ ⟨Cursor.drainFrom⟩ := by
  intro left right relate
  simp only
  fun_induction Cursor.drainFrom left generalizing right with
  | case1 left after moved ih =>
      obtain ⟨after', moved', relate⟩ := accord.next_run relate moved
      rw [drainFrom_eq right, moved']
      exact ih after' relate
  | case2 left after moved =>
      obtain ⟨after', moved', relate⟩ := accord.next_run relate moved
      rw [drainFrom_eq right, moved']
      exact ⟨.ok rfl, relate⟩
  | case3 left fault after moved =>
      obtain ⟨after', moved', relate⟩ := accord.next_run relate moved
      rw [drainFrom_eq right, moved']
      exact ⟨.error fault, relate⟩

theorem collect (accord : Accord related) (bound : Option Nat) :
    Concur related (Source.collect bound) (Source.collect bound) :=
  Source.simulates_collect accord.advance bound

theorem list (accord : Accord related) (map : Place ρ → Except Fault α) :
    Concur related (Cursor.list map) (Cursor.list map) := by
  have gather : Concur related (Cursor.gather (Place.inCoroutine map))
      (Cursor.gather (Place.inCoroutine map)) :=
    (accord.gatherFrom _).seq fun _ => accord.discard.seq fun _ => .result rfl
  apply (accord.read Place.requireOpen).seq
  intro _
  apply accord.present.bind
  intro left right same
  have position : left.position = right.position := congrArg Place.position same
  rw [position]
  apply Simulates.choose Iff.rfl
  · apply accord.hasNext.seq
    intro more
    exact .choose Iff.rfl (accord.next.seq fun _ => gather) (.result rfl)
  · exact .choose Iff.rfl gather .refusal

theorem summarize (accord : Accord related) :
    Simulates related (fun _ _ => True) Cursor.summarize Cursor.summarize :=
  accord.drainFrom.seq fun _ =>
    accord.discard.seq fun _ => accord.present.bind fun _ _ _ => .result trivial

end Accord

/-! ## Moves -/

/-- The moves that leave the limit as it is. -/
def Move.KeepsLimit : Move → Prop
  | .cap _ => False
  | _ => True

/-- A relation under which cursors hold the same, and make the moves of a kind
alike. -/
structure InStep (related : Scene (Cursor σ ρ τ) → Scene (Cursor σ' ρ τ') → Prop)
    (kind : Move → Prop) : Prop where
  toPlace_eq : ∀ {left right}, related left right → left.state.toPlace = right.state.toPlace
  stage_eq : ∀ {left right}, related left right → left.state.ahead.stage = right.state.ahead.stage
  move : ∀ move, kind move → MoveAlike related move

namespace InStep

variable {related : Scene (Cursor σ ρ τ) → Scene (Cursor σ' ρ τ') → Prop} {kind : Move → Prop}

theorem fetch (inStep : InStep related kind) (look : kind .look) :
    Concur related (onAhead LookAhead.fetch) (onAhead LookAhead.fetch) :=
  fun left right relate => inStep.move .look look left right relate trivial

theorem hasNext (inStep : InStep related kind) (look : kind .look) :
    Concur related (onAhead LookAhead.hasNext) (onAhead LookAhead.hasNext) := by
  rw [onAhead_hasNext, onAhead_hasNext]
  apply (inStep.fetch look).seq
  intro _ left right relate
  simp only [Action.run_bind, Action.run_present, Action.run_pure, inStep.stage_eq relate]
  exact ⟨.ok rfl, relate⟩

theorem next (inStep : InStep related kind) (look : kind .look) (step : kind .step)
    (clear : kind .clear) : Concur related Cursor.next Cursor.next := by
  intro left right relate
  have samePlace := inStep.toPlace_eq relate
  cases isOpen : right.state.isOpen with
  | false =>
      rw [run_next_of_closed ((congrArg Place.isOpen samePlace).trans isOpen),
        run_next_of_closed isOpen]
      exact ⟨.error _, relate⟩
  | true =>
      have isOpenLeft := (congrArg Place.isOpen samePlace).trans isOpen
      obtain ⟨agree, relate⟩ := inStep.hasNext look left right relate
      rw [run_next_of_open isOpenLeft, run_next_of_open isOpen]
      rcases looked : (onAhead LookAhead.hasNext).run left with ⟨outcome, between⟩
      rcases looked' : (onAhead LookAhead.hasNext).run right with ⟨outcome', between'⟩
      rw [looked, looked'] at agree relate
      cases agree with
      | error fault => exact ⟨.error fault, relate⟩
      | @ok more _ same =>
          cases same
          have stage := stage_of_hasNext looked
          have stillOpen : between.state.isOpen = true := by
            rw [toPlace_of_hasNext looked, isOpenLeft]
          cases more with
          | false =>
              obtain ⟨_, cleared⟩ :=
                inStep.move .clear clear between between' relate ⟨stillOpen, stage⟩
              exact ⟨.ok rfl, cleared⟩
          | true =>
              obtain ⟨agree, stepped⟩ :=
                inStep.move .step step between between' relate ⟨stillOpen, stage⟩
              exact ⟨agree.map fun _ _ _ => rfl, stepped⟩

theorem peek (inStep : InStep related kind) (look : kind .look) :
    Concur related Cursor.peek Cursor.peek := by
  intro left right relate
  have samePlace := inStep.toPlace_eq relate
  cases isOpen : right.state.isOpen with
  | false =>
      rw [Cursor.peek, Cursor.peek,
        run_requireOpen_of_closed ((congrArg Place.isOpen samePlace).trans isOpen),
        run_requireOpen_of_closed isOpen]
      exact ⟨.error _, relate⟩
  | true =>
      obtain ⟨agree, relate⟩ := inStep.fetch look left right relate
      rw [run_peek_of_open ((congrArg Place.isOpen samePlace).trans isOpen),
        run_peek_of_open isOpen]
      rcases looked : (onAhead LookAhead.fetch).run left with ⟨outcome, after⟩
      rcases looked' : (onAhead LookAhead.fetch).run right with ⟨outcome', after'⟩
      rw [looked, looked'] at agree relate
      cases agree with
      | error fault => exact ⟨.error _, relate⟩
      | ok =>
          have sameStage : after.state.ahead.stage = after'.state.ahead.stage :=
            inStep.stage_eq relate
          simp only [sameStage]
          exact ⟨.of_eq rfl, relate⟩

theorem accord (inStep : InStep related kind) (all : ∀ move, move.KeepsLimit → kind move) :
    Accord related where
  toPlace_eq := inStep.toPlace_eq
  hasNext := inStep.hasNext (all .look trivial)
  next := inStep.next (all .look trivial) (all .step trivial) (all .clear trivial)
  peek := inStep.peek (all .look trivial)
  discard := fun left right relate =>
    inStep.move .discard (all .discard trivial) left right relate trivial
  shut := inStep.move .shut (all .shut trivial)

end InStep

/-- A limit is set alike where the move that sets it is made alike. -/
theorem Accord.setLimit {related : Scene (Cursor σ ρ τ) → Scene (Cursor σ' ρ τ') → Prop}
    (accord : Accord related) {records : Int} (cap : MoveAlike related (.cap records)) :
    Concur related (Cursor.setLimit records) (Cursor.setLimit records) := by
  intro left right relate
  have samePlace := accord.toPlace_eq relate
  by_cases negative : records < 0
  · rw [run_setLimit_of_neg negative, run_setLimit_of_neg negative]
    exact ⟨.error _, relate⟩
  · have notNegative := Int.not_lt.mp negative
    rw [setLimit_eq notNegative, setLimit_eq notNegative]
    cases isOpen : right.state.isOpen with
    | false =>
        rw [run_requireOpen_of_closed ((congrArg Place.isOpen samePlace).trans isOpen),
          run_requireOpen_of_closed isOpen]
        exact ⟨.error _, relate⟩
    | true =>
        have isOpenLeft := (congrArg Place.isOpen samePlace).trans isOpen
        obtain ⟨agree, relate⟩ := cap left right relate ⟨isOpenLeft, notNegative⟩
        rw [run_requireOpen_of_open isOpenLeft, run_requireOpen_of_open isOpen, Action.run_bind,
          Action.run_bind]
        rcases ran : (Move.cap records).action.run left with ⟨outcome, after⟩
        rcases ran' : (Move.cap records).action.run right with ⟨outcome', after'⟩
        rw [ran, ran'] at agree relate
        cases agree with
        | error fault => exact ⟨.error fault, relate⟩
        | ok => exact ⟨.ok (congrArg Place.limit (accord.toPlace_eq relate)), relate⟩

/-! ## Operations -/

section Operations

variable {σ σ' τ τ' υ α : Type}
  {related : Scene (Cursor σ Record τ) → Scene (Cursor σ' Record τ') → Prop}

/-- Two answers that are the same value, or both a summary. -/
def SameAnswer (left : CursorAnswer τ) (right : CursorAnswer τ') : Prop :=
  left.map (fun _ => ()) = right.map fun _ => ()

theorem Concur.answering {action : Action (Cursor σ Record τ) α}
    {action' : Action (Cursor σ' Record τ') α} {make : α → Value}
    (concur : Concur related action action') :
    Simulates related SameAnswer (answering action make) (answering action' make) :=
  concur.seq fun _ => .result rfl

variable [Source σ (Option Record)] [Source σ' (Option Record)]

/-- Cursors in accord perform every operation alike; a limit is to keep them so. -/
theorem Accord.perform (accord : Accord related) (operation : CursorOperation)
    (limits : ∀ records, operation = .limit records →
      Concur related (Cursor.setLimit records) (Cursor.setLimit records)) :
    Simulates related SameAnswer (Cursor.perform operation) (Cursor.perform operation) := by
  cases operation with
  | next => exact accord.next.answering
  | skip records => exact (accord.skip records).answering
  | limit records => exact (limits records rfl).answering
  | peek => exact accord.peek.answering
  | atEnd => exact accord.atEnd.answering
  | record => exact (accord.read _).answering
  | position => exact (accord.read _).answering
  | first key => exact accord.first.seq fun record => Concur.answering (.ofExcept (.of_eq rfl))
  | single key => exact accord.single.seq fun record => Concur.answering (.ofExcept (.of_eq rfl))
  | list map => exact (accord.list map).answering
  | summarize => exact accord.summarize.bind fun _ _ _ => .result rfl
  | close => exact accord.close.answering
  | keys => exact (accord.read _).answering
  | size => exact (accord.read _).answering
  | containsKey column => exact (accord.read _).answering
  | index column => exact (accord.read _).answering
  | get key => exact (accord.read _).answering
  | isOpen => exact (accord.read _).answering
  | literal => exact (accord.read _).answering
  | enter => exact .result rfl
  | leave => exact accord.leave.answering
  | advance => exact accord.advance.answering
  | collect bound => exact (accord.collect bound).answering

/-- Two performances that agree, and end at the same place with summaries that show
the same, are seen to be the same. -/
theorem observe_eq_of_agree {view : τ → υ} {view' : τ' → υ} {operation : CursorOperation}
    {left : Scene (Cursor σ Record τ)} {right : Scene (Cursor σ' Record τ')}
    (agree : Agree SameAnswer ((Cursor.perform operation).run left).1
      ((Cursor.perform operation).run right).1)
    (samePlace : ((Cursor.perform operation).run left).2.state.toPlace =
      ((Cursor.perform operation).run right).2.state.toPlace)
    (sameSummary : view ((Cursor.perform operation).run left).2.state.summaryNow =
      view' ((Cursor.perform operation).run right).2.state.summaryNow) :
    observe view ((Cursor.perform operation).run left) =
      observe view' ((Cursor.perform operation).run right) := by
  refine Prod.ext ?_ samePlace
  rcases ran : (Cursor.perform operation).run left with ⟨outcome, last⟩
  rcases ran' : (Cursor.perform operation).run right with ⟨outcome', last'⟩
  rw [ran, ran'] at agree sameSummary
  simp only [observe]
  cases agree with
  | error => rfl
  | @ok answer answer' same =>
      cases answer with
      | value answer =>
          cases answer' with
          | value answer' => simp_all [SameAnswer, CursorAnswer.map, Except.map]
          | summary => cases same
      | summary final =>
          cases answer' with
          | value => cases same
          | summary final' =>
              rw [summary_of_perform ran, summary_of_perform ran']
              simp only [Except.map, CursorAnswer.map, sameSummary]

theorem Accord.sceneAfter (accord : Accord related) {operations : List CursorOperation}
    (limits : ∀ records, .limit records ∈ operations →
      Concur related (Cursor.setLimit records) (Cursor.setLimit records))
    {left : Scene (Cursor σ Record τ)} {right : Scene (Cursor σ' Record τ')}
    (relate : related left right) :
    related (Cursor.sceneAfter operations left) (Cursor.sceneAfter operations right) := by
  induction operations generalizing left right with
  | nil => exact relate
  | cons operation operations ih =>
      obtain ⟨_, after⟩ := accord.perform operation
        (fun records limit => limits records (limit ▸ .head _)) left right relate
      exact ih (fun records member => limits records (.tail _ member)) after

theorem Accord.runAll_eq (accord : Accord related) {view : τ → υ} {view' : τ' → υ}
    (shows : ∀ {left right}, related left right →
      view left.state.summaryNow = view' right.state.summaryNow)
    {operations : List CursorOperation}
    (limits : ∀ records, .limit records ∈ operations →
      Concur related (Cursor.setLimit records) (Cursor.setLimit records))
    {left : Scene (Cursor σ Record τ)} {right : Scene (Cursor σ' Record τ')}
    (relate : related left right) :
    (Action.runAll (operations.map Cursor.perform) left).map (observe view) =
      (Action.runAll (operations.map Cursor.perform) right).map (observe view') := by
  apply Action.runAll_eq ?_ relate
  intro operation member left right relate
  obtain ⟨agree, after⟩ := accord.perform operation
    (fun records limit => limits records (limit ▸ member)) left right relate
  exact ⟨observe_eq_of_agree agree (accord.toPlace_eq after) (shows after), after⟩

end Operations

end Cursor

end QueryCursor
