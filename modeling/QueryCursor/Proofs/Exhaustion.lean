import QueryCursor.Proofs.Bounds
import QueryCursor.Proofs.Course.Script
import QueryCursor.Proofs.Overheard

/-!
# Exhaustion and closing

A cursor that has given up the rest stays where it is and says so, and never turns to
its source again.  One that is closed has given up the rest, and refuses every
operation that needs an open cursor, whatever its arguments.
-/

namespace QueryCursor

/-- Whether an operation needs an open cursor.  A walk that takes no record asks
nothing of the cursor. -/
def CursorOperation.NeedsOpen : CursorOperation → Prop
  | .keys => False
  | .size => False
  | .containsKey _ => False
  | .isOpen => False
  | .literal => False
  | .enter => False
  | .leave => False
  | .collect bound => bound ≠ some 0
  | _ => True

namespace Cursor

/-! ## Closed cursors -/

section Closed

variable {σ ρ τ α β : Type}

/-- A closed cursor is told apart as a misuse, and left as it is. -/
def RefusesClosed (action : Action (Cursor σ ρ τ) α) : Prop :=
  ∀ scene, scene.state.isOpen = false → ∃ cause, action.run scene = (.error (.misuse cause), scene)

namespace RefusesClosed

theorem bind {action : Action (Cursor σ ρ τ) α} {rest : α → Action (Cursor σ ρ τ) β}
    (refuses : RefusesClosed action) : RefusesClosed (action >>= rest) := by
  intro scene closed
  obtain ⟨cause, ran⟩ := refuses scene closed
  refine ⟨cause, ?_⟩
  rw [Action.run_bind, ran]

theorem ofRead {view : Place ρ → Except Fault α}
    (refused : ∀ place : Place ρ, place.isOpen = false → view place = .error (.misuse .closed)) :
    RefusesClosed (Cursor.read view : Action (Cursor σ ρ τ) α) := by
  intro scene closed
  refine ⟨.closed, ?_⟩
  rw [run_read, refused scene.state.toPlace closed]

theorem requireOpen :
    RefusesClosed (Cursor.read Place.requireOpen : Action (Cursor σ ρ τ) Unit) := by
  apply ofRead
  intro place closed
  rw [Place.requireOpen, if_neg (by simp [closed])]

/-- An action that is refused as a misuse where the condition holds. -/
theorem refuseIf {condition : Prop} [Decidable condition] {cause : Misuse}
    {rest : Unit → Action (Cursor σ ρ τ) α} (refuses : RefusesClosed (rest ())) :
    RefusesClosed (if condition then throw (Fault.misuse cause) >>= rest else rest ()) := by
  split
  · exact fun scene _ => ⟨cause, rfl⟩
  · exact refuses

theorem openPosition :
    RefusesClosed (Cursor.read Place.openPosition : Action (Cursor σ ρ τ) Int) :=
  ofRead fun _ => Place.openPosition_of_closed

theorem ofRecord {view : Place ρ → Except Fault α} {rest : ρ → Except Fault α}
    (read_eq : ∀ place, view place = place.record >>= rest) :
    RefusesClosed (Cursor.read view : Action (Cursor σ ρ τ) α) := by
  apply ofRead
  intro place closed
  rw [read_eq, Place.record_of_closed closed]
  rfl

variable [Source σ (Option ρ)]

theorem next : RefusesClosed (Cursor.next : Action (Cursor σ ρ τ) Bool) := requireOpen.bind

theorem first : RefusesClosed (Cursor.first : Action (Cursor σ ρ τ) ρ) := openPosition.bind

theorem advance : RefusesClosed (Cursor.advance : Action (Cursor σ ρ τ) (Option ρ)) := next.bind

theorem drainFrom : RefusesClosed (⟨Cursor.drainFrom⟩ : Action (Cursor σ ρ τ) Unit) := by
  intro scene closed
  obtain ⟨cause, ran⟩ := next scene closed
  refine ⟨cause, ?_⟩
  show Cursor.drainFrom scene = _
  rw [drainFrom_eq, ran]

theorem collect {bound : Option Nat} (some : bound ≠ some 0) :
    RefusesClosed (Source.collect bound : Action (Cursor σ ρ τ) (List (Option ρ))) := by
  intro scene closed
  obtain ⟨cause, ran⟩ := advance scene closed
  refine ⟨cause, ?_⟩
  show Source.collectFrom bound scene = _
  rw [collectFrom_eq some, ran]
  rfl

theorem close : RefusesClosed (Cursor.close : Action (Cursor σ ρ τ) Unit) :=
  fun _ closed => ⟨.alreadyClosed, run_close_of_closed closed⟩

theorem setLimit (records : Int) :
    RefusesClosed (Cursor.setLimit records : Action (Cursor σ ρ τ) Int) :=
  refuseIf requireOpen.bind

/-- A closed cursor refuses every operation that needs an open one. -/
theorem perform {σ τ : Type} [Source σ (Option Record)] {operation : CursorOperation}
    (needsOpen : operation.NeedsOpen) :
    RefusesClosed (Cursor.perform operation : Action (Cursor σ Record τ) (CursorAnswer τ)) := by
  cases operation with
  | next => exact next.bind
  | skip records => exact (refuseIf requireOpen.bind).bind
  | limit records => exact (setLimit records).bind
  | peek => exact requireOpen.bind.bind
  | atEnd => exact requireOpen.bind.bind
  | record => exact (ofRecord fun _ => rfl).bind
  | position =>
      apply bind
      apply ofRead
      intro place closed
      rw [Place.positionValue, Place.openPosition_of_closed closed]
      rfl
  | first key => exact first.bind
  | single key => exact first.bind.bind
  | list map => exact requireOpen.bind.bind
  | summarize => exact drainFrom.bind.bind
  | close => exact close.bind
  | index column =>
      have read_eq : ∀ place : Place Record, place.indexValue column =
          place.record >>= fun record => do
            let position ← record.index column
            return .int position := fun place => bind_assoc _ _ _
      exact (ofRecord read_eq).bind
  | get key => exact (ofRecord fun _ => rfl).bind
  | advance => exact advance.bind
  | collect bound => exact (collect needsOpen).bind
  | keys => exact needsOpen.elim
  | size => exact needsOpen.elim
  | containsKey => exact needsOpen.elim
  | isOpen => exact needsOpen.elim
  | literal => exact needsOpen.elim
  | enter => exact needsOpen.elim
  | leave => exact needsOpen.elim

end RefusesClosed

end Closed

/-! ## Exhausted cursors -/

section Exhausted

variable {σ ρ τ : Type} [Source σ (Option ρ)] {scene : Scene (Cursor σ ρ τ)}

theorem run_next_of_exhausted (isOpen : scene.state.isOpen = true)
    (exhausted : scene.state.ahead.stage = .exhausted) :
    next.run scene = (.ok false, scene.withState { scene.state with current := none }) := by
  rw [run_next_of_open isOpen, run_hasNext_of_exhausted exhausted]

theorem run_peek_of_exhausted (isOpen : scene.state.isOpen = true)
    (exhausted : scene.state.ahead.stage = .exhausted) :
    peek.run scene = (.error (.absent .pastLast), scene) := by
  rw [run_peek_of_open isOpen, run_fetch_of_exhausted exhausted]
  simp only [exhausted, Stage.held?]

theorem run_atEnd_of_exhausted (isOpen : scene.state.isOpen = true)
    (exhausted : scene.state.ahead.stage = .exhausted) :
    atEnd.run scene = (.ok true, scene) := by
  rw [atEnd, run_requireOpen_of_open isOpen, Action.run_bind, run_hasNext_of_exhausted exhausted]
  rfl

theorem run_skip_of_exhausted (isOpen : scene.state.isOpen = true)
    (exhausted : scene.state.ahead.stage = .exhausted) {records : Int}
    (notNegative : 0 ≤ records) : ((skip records).run scene).1 = .ok 0 := by
  simp only [skip, if_neg (Int.not_lt.mpr notNegative)]
  rw [run_requireOpen_of_open isOpen]
  cases records.toNat with
  | zero => rfl
  | succ wanted => rw [run_skipUpTo_succ, run_next_of_exhausted isOpen exhausted]

theorem run_summarize_of_exhausted (isOpen : scene.state.isOpen = true)
    (exhausted : scene.state.ahead.stage = .exhausted) :
    (summarize.run scene).1 = .ok (scene.state.summary scene.state.ahead.source) := by
  have drained : (⟨drainFrom⟩ : Action (Cursor σ ρ τ) Unit).run scene =
      (.ok (), scene.withState { scene.state with current := none }) := by
    show drainFrom scene = _
    rw [drainFrom_eq, run_next_of_exhausted isOpen exhausted]
  have stillExhausted : (scene.withState
      { scene.state with current := none }).state.ahead.stage = .exhausted := exhausted
  rw [summarize, Action.run_bind, drained]
  simp only [Action.run_bind, run_discard_of_exhausted stillExhausted]
  rfl

end Exhausted

section Operations

variable {σ τ : Type} [Source σ (Option Record)]

/-- What an open cursor says that has nothing left, with the summary it was given. -/
structure Spent (summary : σ → τ) (scene : Scene (Cursor σ Record τ)) : Prop where
  next : (perform .next).run scene =
    (.ok (.value (.bool false)), scene.withState { scene.state with current := none })
  atEnd : (perform .atEnd).run scene = (.ok (.value (.bool true)), scene)
  peek : ∃ fault, (perform .peek).run scene = (.error fault, scene) ∧
    fault.kind = "NoSuchRecord"
  skip : ∀ records, 0 ≤ records →
    ((perform (.skip records)).run scene).1 = .ok (.value (.int 0))
  summarize : ((perform .summarize).run scene).1 =
    .ok (.summary (summary scene.state.ahead.source))

theorem Spent.of_exhausted {scene : Scene (Cursor σ Record τ)}
    (isOpen : scene.state.isOpen = true) (exhausted : scene.state.ahead.stage = .exhausted) :
    Spent scene.state.summary scene where
  next := by
    rw [perform, run_answering, run_next_of_exhausted isOpen exhausted]
    rfl
  atEnd := by
    rw [perform, run_answering, run_atEnd_of_exhausted isOpen exhausted]
    rfl
  peek := by
    refine ⟨.absent .pastLast, ?_, rfl⟩
    rw [perform, run_answering, run_peek_of_exhausted isOpen exhausted]
    rfl
  skip records notNegative := by
    rw [perform, run_answering, run_skip_of_exhausted isOpen exhausted notNegative]
    rfl
  summarize := by
    have summarized := run_summarize_of_exhausted isOpen exhausted
    rw [perform, Action.run_bind]
    rcases ran : Cursor.summarize.run scene with ⟨outcome, after⟩
    rw [ran] at summarized
    cases summarized
    rfl

/-- Exhaustion is for good, and so is closing. -/
theorem exhaustion_is_final (keys : List Value) (source : σ) (summary : σ → τ) (clock : Clock)
    (journal : List Message) (operations : List CursorOperation) :
    let scene : Scene (Cursor σ Record τ) :=
      sceneAfter operations ⟨ofSource keys source summary, clock, journal⟩
    (∀ later, Progress scene (sceneAfter later scene)) ∧
      (scene.state.ahead.stage = .exhausted → ∀ later,
        callsDuring later scene = [] ∧
          ((sceneAfter later scene).state.isOpen = true →
            Spent summary (sceneAfter later scene))) ∧
      (scene.state.isOpen = false →
        scene.state.ahead.stage = .exhausted ∧
          ∀ operation : CursorOperation, operation.NeedsOpen →
            ∃ fault, (perform operation).run scene = (.error fault, scene) ∧
              fault.kind = "ClientError") := by
  intro scene
  have bounded : Bounded scene :=
    (Bounded.ofSource keys source summary clock journal).sceneAfter operations
  have given : scene.state.summary = summary := (Progress.sceneAfter operations _).summary_eq
  refine ⟨fun later => Progress.sceneAfter later scene, ?_, ?_⟩
  · intro exhausted later
    have progress := Progress.sceneAfter later scene
    refine ⟨callsDuring_of_exhausted exhausted later, ?_⟩
    intro isOpen
    have spent := Spent.of_exhausted isOpen ((progress.ahead_eq exhausted) ▸ exhausted)
    rw [progress.summary_eq, given] at spent
    exact spent
  · intro closed
    refine ⟨bounded.exhausted_of_closed closed, ?_⟩
    intro operation needsOpen
    obtain ⟨cause, refused⟩ := RefusesClosed.perform needsOpen scene closed
    exact ⟨.misuse cause, refused, rfl⟩

/-- An iterator whose release failed at the limit leaves a cursor that is open and
exhausted. -/
theorem exhaustion_of_faltering_is_final :
    let scene := sceneAfter [.limit 1, .next]
      ⟨ofSource (ρ := Record) [.string "n"] Script.faltering fun _ => (), {}, []⟩
    callsDuring [.peek, .summarize] scene = [] ∧ Spent (fun _ => ()) scene :=
  let final := (exhaustion_is_final [.string "n"] Script.faltering (fun _ => ()) {} []
    [.limit 1, .next]).2.1 rfl
  ⟨(final [.peek, .summarize]).1, (final []).2 rfl⟩

end Operations

end Cursor

end QueryCursor
