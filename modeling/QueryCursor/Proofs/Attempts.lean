import QueryCursor.Proofs.Course.Script
import QueryCursor.Proofs.Progress
import QueryCursor.Proofs.Standing

/-!
# Attempts to advance

Some operations advance the cursor, once or again and again, and nothing else changes
its position or its current record.  An attempt to advance moves onto a record or finds
that none is left; a failure of the source can end it before it does either, and then
it changes nothing.  So the current record tells what the last attempt has found that
found anything, which need not be the last attempt.
-/

namespace QueryCursor

namespace Cursor

variable {σ ρ τ α β : Type}

/-! ## Lingering -/

/-- The moves that leave the position and the current record as they are. -/
def Move.KeepsRecord : Move → Prop
  | .step => False
  | .clear => False
  | _ => True

variable [Source σ (Option ρ)]

/-- The cursor goes from one scene to another by moves that leave the position and the
current record as they are. -/
inductive KeepsRecord (start : Scene (Cursor σ ρ τ)) : Scene (Cursor σ ρ τ) → Prop where
  | start : KeepsRecord start start
  | move {scene : Scene (Cursor σ ρ τ)} (move : Move) :
      KeepsRecord start scene → move.KeepsRecord → move.Allowed scene.state →
      KeepsRecord start (move.action.run scene).2

namespace KeepsRecord

variable {scene between after : Scene (Cursor σ ρ τ)}

theorem trans (first : KeepsRecord scene between) (second : KeepsRecord between after) :
    KeepsRecord scene after := by
  induction second with
  | start => exact first
  | move move _ stays allowed ih => exact .move move ih stays allowed

theorem stands (keepsRecord : KeepsRecord scene after) :
    after.state.position = scene.state.position ∧ after.state.current = scene.state.current := by
  induction keepsRecord with
  | start => exact ⟨rfl, rfl⟩
  | @move between move _ stays _ ih =>
      have same : (move.action.run between).2.state.position = between.state.position ∧
          (move.action.run between).2.state.current = between.state.current := by
        cases move with
        | look => exact ⟨rfl, rfl⟩
        | shut => exact ⟨rfl, rfl⟩
        | step => exact stays.elim
        | clear => exact stays.elim
        | discard =>
            rw [Move.action, toPlace_of_discard]
            exact ⟨rfl, rfl⟩
        | cap records =>
            rw [run_cap]
            split
            · rw [toPlace_of_discard]
              exact ⟨rfl, rfl⟩
            · exact ⟨rfl, rfl⟩
      exact ⟨same.1.trans ih.1, same.2.trans ih.2⟩

theorem keeps {good : Scene (Cursor σ ρ τ) → Prop}
    (kept : ∀ (move : Move) scene, move.Allowed scene.state → good scene →
      good (move.action.run scene).2)
    (keepsRecord : KeepsRecord scene after) (before : good scene) : good after := by
  induction keepsRecord with
  | start => exact before
  | move move _ _ allowed ih => exact kept move _ allowed ih

end KeepsRecord

/-- An action that leaves the position and the current record as they are, whatever comes of it. -/
def Idle (action : Action (Cursor σ ρ τ) α) : Prop :=
  ∀ scene, KeepsRecord scene (action.run scene).2

namespace Idle

theorem result (value : α) : Idle (pure value : Action (Cursor σ ρ τ) α) := fun _ => .start

theorem present : Idle (Action.present : Action (Cursor σ ρ τ) (Cursor σ ρ τ)) := fun _ => .start

theorem refusal (fault : Fault) : Idle (throw fault : Action (Cursor σ ρ τ) α) := fun _ => .start

theorem ofExcept (outcome : Except Fault α) :
    Idle (Action.ofExcept outcome : Action (Cursor σ ρ τ) α) := fun _ => .start

theorem read (view : Place ρ → Except Fault α) :
    Idle (Cursor.read view : Action (Cursor σ ρ τ) α) := fun _ => .start

theorem bind {action : Action (Cursor σ ρ τ) α} {rest : α → Action (Cursor σ ρ τ) β}
    (first : Idle action) (second : ∀ value, Idle (rest value)) : Idle (action >>= rest) := by
  intro scene
  have keepsRecord := first scene
  rw [Action.run_bind]
  rcases ran : action.run scene with ⟨fault | value, between⟩
  · rw [ran] at keepsRecord
    exact keepsRecord
  · rw [ran] at keepsRecord
    exact keepsRecord.trans (second value between)

/-- A move that is made in every state. -/
theorem ofMove (move : Move) (stays : move.KeepsRecord)
    (allowed : ∀ cursor : Cursor σ ρ τ, move.Allowed cursor) :
    Idle (move.action : Action (Cursor σ ρ τ) Unit) :=
  fun scene => .move move .start stays (allowed scene.state)

theorem discard : Idle (Cursor.discard : Action (Cursor σ ρ τ) Unit) :=
  ofMove .discard trivial fun _ => trivial

theorem hasNext : Idle (onAhead LookAhead.hasNext : Action (Cursor σ ρ τ) Bool) := by
  rw [onAhead_hasNext]
  exact (ofMove .look trivial fun _ => trivial).bind fun _ => present.bind fun _ => result _

theorem ite {condition : Prop} [Decidable condition] {first second : Action (Cursor σ ρ τ) α}
    (one : Idle first) (other : Idle second) : Idle (if condition then first else second) := by
  split
  · exact one
  · exact other

theorem atEnd : Idle (Cursor.atEnd : Action (Cursor σ ρ τ) Bool) :=
  (read _).bind fun _ => hasNext.bind fun _ => result _

theorem setLimit (records : Int) :
    Idle (Cursor.setLimit records : Action (Cursor σ ρ τ) Int) := by
  intro scene
  by_cases negative : records < 0
  · rw [run_setLimit_of_neg negative]
    exact .start
  · have notNegative := Int.not_lt.mp negative
    cases isOpen : scene.state.isOpen with
    | false =>
        rw [setLimit_eq notNegative, run_requireOpen_of_closed isOpen]
        exact .start
    | true =>
        rw [scene_of_setLimit isOpen notNegative]
        exact .move (.cap records) .start trivial ⟨isOpen, notNegative⟩

theorem peek : Idle (Cursor.peek : Action (Cursor σ ρ τ) (Option ρ)) := by
  intro scene
  cases isOpen : scene.state.isOpen with
  | false =>
      rw [Cursor.peek, run_requireOpen_of_closed isOpen]
      exact .start
  | true =>
      have looked : KeepsRecord scene _ := .move .look .start trivial trivial
      simp only [Move.action] at looked
      rw [run_peek_of_open isOpen]
      rcases fetched : (onAhead LookAhead.fetch).run scene with ⟨fault | _, after⟩
      · rw [fetched] at looked
        exact looked
      · rw [fetched] at looked
        exact looked

theorem close : Idle (Cursor.close : Action (Cursor σ ρ τ) Unit) := by
  intro scene
  cases isOpen : scene.state.isOpen with
  | false =>
      rw [run_close_of_closed isOpen]
      exact .start
  | true =>
      have allowed := shut_allowed_of_discard isOpen
      have discarded : KeepsRecord scene (Cursor.discard.run scene).2 := discard scene
      rw [run_close_of_open isOpen, Action.run_bind]
      rcases ran : Cursor.discard.run scene with ⟨fault | _, after⟩
      · rw [ran] at discarded
        exact discarded
      · rw [ran] at discarded allowed
        exact .move .shut discarded trivial allowed

theorem leave : Idle (Cursor.leave : Action (Cursor σ ρ τ) Unit) :=
  present.bind fun _ => ite close (result ())

end Idle

/-! ## Attempts -/

/-- From one scene to another by attempts to advance that are made in the given scenes;
between them the position and the current record stay. -/
inductive AttemptChain : Scene (Cursor σ ρ τ) → List (Scene (Cursor σ ρ τ)) →
    Scene (Cursor σ ρ τ) → Prop where
  | idle {scene after : Scene (Cursor σ ρ τ)} :
      KeepsRecord scene after → AttemptChain scene [] after
  | attempt {scene before after : Scene (Cursor σ ρ τ)} {later : List (Scene (Cursor σ ρ τ))} :
      KeepsRecord scene before → AttemptChain (Cursor.next.run before).2 later after →
      AttemptChain scene (before :: later) after

namespace AttemptChain

variable {scene between after : Scene (Cursor σ ρ τ)} {first second : List (Scene (Cursor σ ρ τ))}

theorem next (scene : Scene (Cursor σ ρ τ)) :
    AttemptChain scene [scene] (Cursor.next.run scene).2 :=
  .attempt .start (.idle .start)

theorem precede (keepsRecord : KeepsRecord scene between)
    (chain : AttemptChain between first after) :
    AttemptChain scene first after := by
  cases chain with
  | idle later => exact .idle (keepsRecord.trans later)
  | attempt before later => exact .attempt (keepsRecord.trans before) later

theorem trans (begun : AttemptChain scene first between)
    (continued : AttemptChain between second after) :
    AttemptChain scene (first ++ second) after := by
  induction begun with
  | idle keepsRecord => exact continued.precede keepsRecord
  | attempt keepsRecord _ ih => exact .attempt keepsRecord (ih continued)

theorem follow (chain : AttemptChain scene first between)
    (keepsRecord : KeepsRecord between after) :
    AttemptChain scene first after := by
  have whole := chain.trans (.idle keepsRecord)
  rwa [List.append_nil] at whole

theorem bind {action : Action (Cursor σ ρ τ) α} {rest : α → Action (Cursor σ ρ τ) β}
    (chain : AttemptChain scene first (action.run scene).2) (idle : ∀ value, Idle (rest value)) :
    AttemptChain scene first ((action >>= rest).run scene).2 := by
  rw [Action.run_bind]
  rcases ran : action.run scene with ⟨fault | value, after⟩
  · rw [ran] at chain
    exact chain
  · rw [ran] at chain
    exact chain.follow (idle value after)

theorem keeps {good : Scene (Cursor σ ρ τ) → Prop}
    (kept : ∀ (move : Move) scene, move.Allowed scene.state → good scene →
      good (move.action.run scene).2)
    (chain : AttemptChain scene first after) (good_scene : good scene) :
    (∀ before ∈ first, good before) ∧ good after := by
  induction chain with
  | idle keepsRecord => exact ⟨nofun, keepsRecord.keeps kept good_scene⟩
  | @attempt _ before _ later keepsRecord _ ih =>
      have good_before := keepsRecord.keeps kept good_scene
      have trail : Trail (fun _ => False) before _ _ := Traced.next before
      obtain ⟨others, last⟩ := ih (trail.keeps kept good_before)
      refine ⟨?_, last⟩
      intro made member
      rcases List.mem_cons.mp member with rfl | member
      · exact good_before
      · exact others made member

end AttemptChain

/-- The scenes in which advancing again and again makes its attempts: as many as the
bound allows, each but the last of them a success, and all where the place is ready. -/
def attemptsWhile (ready : Place ρ → Bool) (bound : Option Nat) (scene : Scene (Cursor σ ρ τ)) :
    List (Scene (Cursor σ ρ τ)) :=
  if bound = some 0 ∨ ready scene.state.toPlace = false then []
  else
    scene ::
      match _ : next.run scene with
      | (.ok true, after) => attemptsWhile ready (bound.map Nat.pred) after
      | _ => []
termination_by scene.state.ahead.remaining
decreasing_by exact remaining_lt_of_next ‹_›

/-- A bulk reading goes on from a record that it can map. -/
def mappable (map : Place ρ → Except Fault α) (place : Place ρ) : Bool :=
  place.current.isSome && (map place).toOption.isSome

/-- Whether a mapping fails does not depend on who has it called. -/
theorem mappable_inCoroutine (map : Place ρ → Except Fault α) :
    mappable (Place.inCoroutine map) = mappable map := by
  funext place
  simp only [mappable, Place.inCoroutine]
  cases map place <;> rfl

theorem attemptsWhile_of_not {ready : Place ρ → Bool} {bound : Option Nat}
    {scene : Scene (Cursor σ ρ τ)}
    (finished : bound = some 0 ∨ ready scene.state.toPlace = false) :
    attemptsWhile ready bound scene = [] := by
  rw [attemptsWhile, if_pos finished]

theorem attemptsWhile_eq {ready : Place ρ → Bool} {bound : Option Nat}
    {scene : Scene (Cursor σ ρ τ)} (more : bound ≠ some 0)
    (isReady : ready scene.state.toPlace = true) :
    attemptsWhile ready bound scene =
      scene ::
        match next.run scene with
        | (.ok true, after) => attemptsWhile ready (bound.map Nat.pred) after
        | _ => [] := by
  have goesOn : ¬(bound = some 0 ∨ ready scene.state.toPlace = false) := by simp [more, isReady]
  rw [attemptsWhile, if_neg goesOn]
  split <;> simp_all

theorem AttemptChain.again {ready : Place ρ → Bool} {bound : Option Nat}
    {scene after last : Scene (Cursor σ ρ τ)} (more : bound ≠ some 0)
    (isReady : ready scene.state.toPlace = true)
    (moved : Cursor.next.run scene = (.ok true, after))
    (chain : AttemptChain after (attemptsWhile ready (bound.map Nat.pred) after) last) :
    AttemptChain scene (attemptsWhile ready bound scene) last := by
  rw [attemptsWhile_eq more isReady, moved]
  refine .attempt .start ?_
  rw [moved]
  exact chain

theorem AttemptChain.last {ready : Place ρ → Bool} {bound : Option Nat}
    {scene after : Scene (Cursor σ ρ τ)} {outcome : Except Fault Bool} (more : bound ≠ some 0)
    (isReady : ready scene.state.toPlace = true)
    (ended : Cursor.next.run scene = (outcome, after)) (notMoved : outcome ≠ .ok true) :
    AttemptChain scene (attemptsWhile ready bound scene) after := by
  have chain := AttemptChain.next scene
  rw [attemptsWhile_eq more isReady]
  rw [ended] at chain ⊢
  match outcome with
  | .ok true => exact absurd rfl notMoved
  | .ok false => exact chain
  | .error fault => exact chain

/-- The place is of no account to a loop that maps nothing. -/
def anywhere (_ : Place ρ) : Bool := true

theorem AttemptChain.skipUpTo (wanted : Nat) (scene : Scene (Cursor σ ρ τ)) :
    AttemptChain scene (attemptsWhile anywhere (some wanted) scene)
      ((Cursor.skipUpTo wanted).run scene).2 := by
  induction wanted generalizing scene with
  | zero =>
      rw [attemptsWhile_of_not (.inl rfl)]
      exact .idle .start
  | succ wanted ih =>
      have more : some (wanted + 1) ≠ some 0 := by simp
      rw [run_skipUpTo_succ]
      rcases moved : Cursor.next.run scene with ⟨fault | _ | _, after⟩
      · exact .last more rfl moved (by simp)
      · exact .last more rfl moved (by simp)
      · exact .again more rfl moved (ih after)

theorem AttemptChain.drainFrom (scene : Scene (Cursor σ ρ τ)) :
    AttemptChain scene (attemptsWhile anywhere none scene) (Cursor.drainFrom scene).2 := by
  have more : (none : Option Nat) ≠ some 0 := nofun
  fun_induction Cursor.drainFrom scene with
  | case1 scene after moved ih => exact .again more rfl moved ih
  | case2 scene after ended => exact .last more rfl ended (by simp)
  | case3 scene fault after failed => exact .last more rfl failed (by simp)

/-- Walking over the records attempts one advance for each of them. -/
theorem AttemptChain.collect (bound : Option Nat) (scene : Scene (Cursor σ ρ τ)) :
    AttemptChain scene (attemptsWhile anywhere bound scene)
      ((Source.collect bound : Action (Cursor σ ρ τ) (List (Option ρ))).run scene).2 := by
  simp only [Source.collect]
  fun_induction Source.collectFrom bound scene with
  | case1 =>
      rw [attemptsWhile_of_not (.inl rfl)]
      exact .idle .start
  | case2 bound scene more record after taken rest last collected ih =>
      have advanced : Cursor.advance.run scene = (.ok record, after) := taken
      rw [collected] at ih
      obtain ⟨moved, between, ran, answered⟩ := Action.of_run_bind_ok advanced
      cases moved with
      | false => cases answered
      | true =>
          cases answered
          exact .again more rfl ran ih
  | case3 bound scene more fault after failed =>
      have advanced : Cursor.advance.run scene = (.error fault, after) := failed
      rw [Cursor.advance, Action.run_bind] at advanced
      rcases ran : Cursor.next.run scene with ⟨fault' | _ | _, between⟩
      · rw [ran] at advanced
        cases advanced
        exact .last more rfl ran (by simp)
      · rw [ran] at advanced
        cases advanced
        exact .last more rfl ran (by simp)
      · rw [ran] at advanced
        cases advanced

/-- A bulk reading attempts an advance from every record that it has mapped. -/
theorem AttemptChain.gather (map : Place ρ → Except Fault α) (scene : Scene (Cursor σ ρ τ)) :
    AttemptChain scene (attemptsWhile (mappable map) none scene)
      ((Cursor.gather map).run scene).2 := by
  have gathered : AttemptChain scene (attemptsWhile (mappable map) none scene)
      (Cursor.gatherFrom map scene).2 := by
    have more : (none : Option Nat) ≠ some 0 := nofun
    fun_induction Cursor.gatherFrom map scene with
    | case1 scene noRecord =>
        rw [attemptsWhile_of_not (.inr (by simp [mappable, noRecord]))]
        exact .idle .start
    | case2 scene record current fault failed =>
        rw [attemptsWhile_of_not (.inr (by simp [mappable, failed, Except.toOption]))]
        exact .idle .start
    | case3 scene record current value mapped after moved rest last gathered ih =>
        have isReady : mappable map scene.state.toPlace = true := by
          simp [mappable, current, mapped, Except.toOption]
        rw [gathered] at ih
        exact .again more isReady moved ih
    | case4 scene record current value mapped after ended =>
        have isReady : mappable map scene.state.toPlace = true := by
          simp [mappable, current, mapped, Except.toOption]
        exact .last more isReady ended (by simp)
    | case5 scene record current value mapped fault after failed =>
        have isReady : mappable map scene.state.toPlace = true := by
          simp [mappable, current, mapped, Except.toOption]
        exact .last more isReady failed (by simp)
  exact gathered.bind fun values => Idle.discard.bind fun _ => .result values

theorem AttemptChain.advance (scene : Scene (Cursor σ ρ τ)) :
    AttemptChain scene [scene] (Cursor.advance.run scene).2 := by
  apply (AttemptChain.next scene).bind
  intro moved
  exact .ite (Idle.present.bind fun _ => .result _) (.refusal _)

theorem AttemptChain.first (scene : Scene (Cursor σ ρ τ)) (isOpen : scene.state.isOpen = true) :
    AttemptChain scene (if scene.state.position = -1 then [scene] else [])
      (Cursor.first.run scene).2 := by
  rw [Cursor.first, Action.run_bind, run_read, Place.openPosition_of_open isOpen]
  simp only
  by_cases unmoved : scene.state.position = -1
  · have notLeft : ¬1 ≤ scene.state.position := by omega
    rw [if_pos unmoved, if_neg notLeft, if_pos unmoved]
    apply (AttemptChain.next scene).bind
    intro moved
    exact .ite ((Idle.refusal _).bind fun _ => .read _) (.read _)
  · rw [if_neg unmoved, if_neg unmoved]
    split
    · exact .idle .start
    · exact .idle .start

theorem AttemptChain.single (scene : Scene (Cursor σ ρ τ)) (isOpen : scene.state.isOpen = true) :
    AttemptChain scene (if scene.state.position = -1 then [scene] else [])
      (Cursor.single.run scene).2 := by
  apply (AttemptChain.first scene isOpen).bind
  intro record
  apply Idle.hasNext.bind
  intro more
  exact .ite ((Idle.refusal _).bind fun _ => .result _) (.result _)

/-- A negative number of records is refused before any attempt. -/
theorem AttemptChain.skip (records : Int) (scene : Scene (Cursor σ ρ τ))
    (isOpen : scene.state.isOpen = true) :
    AttemptChain scene (attemptsWhile anywhere (some records.toNat) scene)
      ((Cursor.skip records).run scene).2 := by
  rw [Cursor.skip]
  split
  · next negative =>
    have none : records.toNat = 0 := by omega
    rw [none, attemptsWhile_of_not (.inl rfl)]
    exact .idle .start
  · rw [run_requireOpen_of_open isOpen]
    exact .skipUpTo _ scene

theorem AttemptChain.summarize (scene : Scene (Cursor σ ρ τ)) :
    AttemptChain scene (attemptsWhile anywhere none scene) (Cursor.summarize.run scene).2 := by
  have drained : AttemptChain scene (attemptsWhile anywhere none scene)
      ((⟨Cursor.drainFrom⟩ : Action (Cursor σ ρ τ) Unit).run scene).2 := .drainFrom scene
  exact drained.bind fun _ => Idle.discard.bind fun _ => Idle.present.bind fun _ => .result _

/-! ## Operations -/

section Operations

variable {σ τ : Type} [Source σ (Option Record)]

/-- The scenes in which an operation of an open cursor attempts to advance. -/
def attempts (operation : CursorOperation) (scene : Scene (Cursor σ Record τ)) :
    List (Scene (Cursor σ Record τ)) :=
  match operation with
  | .next => [scene]
  | .advance => [scene]
  | .first _ => if scene.state.position = -1 then [scene] else []
  | .single _ => if scene.state.position = -1 then [scene] else []
  | .skip records => attemptsWhile anywhere (some records.toNat) scene
  | .summarize => attemptsWhile anywhere none scene
  | .collect bound => attemptsWhile anywhere bound scene
  | .list map =>
      if scene.state.position = -1 then
        match (onAhead LookAhead.hasNext).run scene with
        | (.ok true, between) =>
            between ::
              match next.run between with
              | (.ok _, after) => attemptsWhile (mappable map) none after
              | (.error _, _) => []
        | _ => []
      else if scene.state.position = 0 then attemptsWhile (mappable map) none scene
      else []
  | _ => []

theorem AttemptChain.list (map : Place Record → Except Fault Value)
    (scene : Scene (Cursor σ Record τ))
    (isOpen : scene.state.isOpen = true) :
    AttemptChain scene (attempts (.list map) scene) ((Cursor.list map).run scene).2 := by
  rw [Cursor.list, run_requireOpen_of_open isOpen, Action.run_bind, Action.run_present, attempts]
  simp only
  split
  · have looked : KeepsRecord scene _ := Idle.hasNext scene
    rw [Action.run_bind]
    rcases ran : (onAhead LookAhead.hasNext).run scene with ⟨fault | _ | _, between⟩
    · rw [ran] at looked
      exact .idle looked
    · rw [ran] at looked
      exact .idle looked
    · rw [ran] at looked
      refine .attempt looked ?_
      simp only [if_true, Action.run_bind]
      rcases Cursor.next.run between with ⟨fault | moved, after⟩
      · exact .idle .start
      · rw [← mappable_inCoroutine]
        exact .gather _ after
  · split
    · rw [← mappable_inCoroutine]
      exact .gather _ scene
    · exact .idle .start

/-- An operation of an open cursor goes from attempt to attempt. -/
theorem chain_of_perform (operation : CursorOperation) (scene : Scene (Cursor σ Record τ))
    (isOpen : scene.state.isOpen = true) :
    AttemptChain scene (attempts operation scene) ((perform operation).run scene).2 := by
  have idle {α : Type} {action : Action (Cursor σ Record τ) α} {make : α → Value}
      (idle : Idle action) : AttemptChain scene [] ((answering action make).run scene).2 :=
    .idle ((idle.bind fun _ => .result _) scene)
  have threaded {α : Type} {action : Action (Cursor σ Record τ) α} {make : α → Value}
      {made : List (Scene (Cursor σ Record τ))}
      (chain : AttemptChain scene made (action.run scene).2) :
      AttemptChain scene made ((answering action make).run scene).2 :=
    chain.bind fun _ => .result _
  cases operation with
  | next => exact threaded (.next scene)
  | advance => exact threaded (.advance scene)
  | first key =>
      apply (AttemptChain.first scene isOpen).bind
      intro record
      exact (Idle.ofExcept _).bind fun _ => .result _
  | single key =>
      apply (AttemptChain.single scene isOpen).bind
      intro record
      exact (Idle.ofExcept _).bind fun _ => .result _
  | skip records => exact threaded (.skip records scene isOpen)
  | summarize => exact (AttemptChain.summarize scene).bind fun _ => .result _
  | collect bound => exact threaded (.collect bound scene)
  | list map => exact threaded (.list map scene isOpen)
  | limit records => exact idle (.setLimit records)
  | peek => exact idle .peek
  | atEnd => exact idle .atEnd
  | close => exact idle .close
  | leave => exact idle .leave
  | record => exact idle (.read _)
  | position => exact idle (.read _)
  | keys => exact idle (.read _)
  | size => exact idle (.read _)
  | containsKey column => exact idle (.read _)
  | index column => exact idle (.read _)
  | get key => exact idle (.read _)
  | isOpen => exact idle (.read _)
  | literal => exact idle (.read _)
  | enter => exact .idle .start

/-- The scenes in which operations attempt to advance, one operation after the other. -/
def attemptsDuring :
    List CursorOperation → Scene (Cursor σ Record τ) → List (Scene (Cursor σ Record τ))
  | [], _ => []
  | operation :: operations, scene =>
      attempts operation scene ++ attemptsDuring operations ((perform operation).run scene).2

theorem chain_sceneAfter (operations : List CursorOperation) {scene : Scene (Cursor σ Record τ)}
    (isOpen : (sceneAfter operations scene).state.isOpen = true) :
    AttemptChain scene (attemptsDuring operations scene) (sceneAfter operations scene) := by
  induction operations generalizing scene with
  | nil => exact .idle .start
  | cons operation operations ih =>
      have wasOpen := (Progress.sceneAfter (operation :: operations) scene).isOpen_of isOpen
      exact (chain_of_perform operation scene wasOpen).trans (ih isOpen)

end Operations

/-! ## Verdicts -/

/-- What an attempt to advance finds: a record, that none is left, or nothing where it
fails before.  One that reaches the limit has found its record, even if the source then
fails to be released. -/
def verdict (scene : Scene (Cursor σ ρ τ)) : Option Bool :=
  match next.run scene with
  | (.ok moved, _) => some moved
  | (.error _, after) => if after.state.position = scene.state.position then none else some true

/-- How an attempt to advance leaves the cursor. -/
inductive AttemptResult (scene : Scene (Cursor σ ρ τ)) : Prop where
  | found (record : ρ) :
      verdict scene = some true →
      (next.run scene).2.state.toPlace = scene.state.toPlace.onto
    (some record) → AttemptResult scene
  | ended :
      verdict scene = some false → (next.run scene).1 = .ok false →
      (next.run scene).2.state.toPlace = scene.state.toPlace.cleared → AttemptResult scene
  | failed (fault : Fault) :
      verdict scene = none → (next.run scene).1 = .error fault →
      (next.run scene).2.state.toPlace = scene.state.toPlace → AttemptResult scene

/-- An attempt that fails and leaves the cursor in its place finds nothing. -/
theorem AttemptResult.of_stands {scene after : Scene (Cursor σ ρ τ)} {fault : Fault}
    (ran : next.run scene = (.error fault, after))
    (stands : after.state.toPlace = scene.state.toPlace) : AttemptResult scene := by
  have same : after.state.position = scene.state.position := congrArg Place.position stands
  have nothing : verdict scene = none := by simp [verdict, ran, same]
  refine .failed fault nothing ?_ ?_
  · rw [ran]
  · rw [ran]
    exact stands

/-- An open cursor attempts to advance over the course before it. -/
theorem AttemptResult.of_awaits {failures closings : Fault → Prop} {scene : Scene (Cursor σ ρ τ)}
    (awaits : Awaits (fun record => record.isSome) failures closings scene)
    (isOpen : scene.state.isOpen = true) : AttemptResult scene := by
  obtain ⟨place, course, hasCourse, obeys⟩ := awaits
  obtain ⟨answer, hasCourse'⟩ := hasCourse.next (hasCourse.isOpen_eq.symm.trans isOpen)
  have stands := hasCourse'.place_eq
  rw [← hasCourse.place_eq] at answer stands
  rcases ran : Cursor.next.run scene with ⟨outcome, after⟩
  rw [ran] at answer stands
  cases course with
  | failure closing fault rest =>
      cases answer
      exact .of_stands ran stands
  | ended closing last =>
      cases last with
      | error fault =>
          cases answer
          exact .of_stands ran stands
      | ok =>
          cases answer
          refine .ended ?_ (by rw [ran]) (by rw [ran]; exact stands)
          simp [verdict, ran]
  | item _ record rest =>
      obtain ⟨record, rfl⟩ := Option.isSome_iff_exists.mp (Course.obeys_item.mp obeys).2.1
      have stepped : after.state.toPlace = scene.state.toPlace.onto (some record) := by
        rw [stands, advanceOf]
        split <;> rfl
      have further : after.state.position ≠ scene.state.position :=
        Place.position_ne_of_onto stepped
      refine .found record ?_ (by rw [ran]; exact stepped)
      cases outcome with
      | error fault => simp [verdict, ran, further]
      | ok moved =>
          rw [advanceOf] at answer
          split at answer
          · cases closing : rest.closing with
            | error fault =>
                rw [closing] at answer
                cases answer
            | ok =>
                rw [closing] at answer
                cases answer
                simp [verdict, ran]
          · cases answer
            simp [verdict, ran]

/-- After attempts, there is a current record just if the last verdict was for one. -/
theorem AttemptChain.isSome_current_iff {scene after : Scene (Cursor σ ρ τ)}
    {made : List (Scene (Cursor σ ρ τ))} (chain : AttemptChain scene made after)
    (told : ∀ before ∈ made, AttemptResult before) {seen : List Bool}
    (known : scene.state.current.isSome ↔ seen.getLast? = some true) :
    after.state.current.isSome ↔ (seen ++ made.filterMap verdict).getLast? = some true := by
  induction chain generalizing seen with
  | idle keepsRecord =>
      rw [keepsRecord.stands.2, List.filterMap_nil, List.append_nil]
      exact known
  | @attempt scene before after later keepsRecord _ ih =>
      have others : ∀ before ∈ later, AttemptResult before :=
        fun other member => told other (.tail _ member)
      cases told before (.head _) with
      | found record verdict_eq stands =>
          have current : (Cursor.next.run before).2.state.current.isSome ↔
              (seen ++ [true]).getLast? = some true := by simp [stands]
          rw [List.filterMap_cons_some verdict_eq, List.append_cons]
          exact ih others current
      | ended verdict_eq _ stands =>
          have current : (Cursor.next.run before).2.state.current.isSome ↔
              (seen ++ [false]).getLast? = some true := by simp [stands, Place.cleared]
          rw [List.filterMap_cons_some verdict_eq, List.append_cons]
          exact ih others current
      | failed fault verdict_eq _ stands =>
          rw [List.filterMap_cons_none verdict_eq]
          apply ih others
          rw [stands, keepsRecord.stands.2]
          exact known

theorem AttemptChain.progress {scene after : Scene (Cursor σ ρ τ)}
    {made : List (Scene (Cursor σ ρ τ))}
    (chain : AttemptChain scene made after) :
    Progress scene after ∧ ∀ before ∈ made, Progress before after := by
  have forth {first : Scene (Cursor σ ρ τ)} (move : Move) (scene : Scene (Cursor σ ρ τ))
      (allowed : move.Allowed scene.state) (before : Progress first scene) :
      Progress first (move.action.run scene).2 := before.trans (.move move scene allowed)
  induction chain with
  | idle keepsRecord => exact ⟨keepsRecord.keeps forth (.refl _), nofun⟩
  | @attempt scene before after later keepsRecord _ ih =>
      have trail : Trail (fun _ => False) before _ _ := Traced.next before
      have advanced : Progress before after := (trail.keeps forth (.refl _)).trans ih.1
      refine ⟨(keepsRecord.keeps forth (.refl _)).trans advanced, ?_⟩
      intro made member
      rcases List.mem_cons.mp member with rfl | member
      · exact advanced
      · exact ih.2 made member

section Operations

variable {σ τ : Type} [Source σ (Option Record)]

/-- An open cursor has a current record just if it has moved and the last of its attempts
to advance that found anything found a record.  An attempt that failed before leaves the
cursor where it was, with the record it had. -/
theorem current_record_tells_last_verdict {keys : List Value} {source : σ} {summary : σ → τ}
    {clock : Clock} {journal : List Message} {course : Course (Option Record)}
    (follows : Source.Follows source clock course)
    (noneMissing : ∀ record, .ok record ∈ course.events → record.isSome)
    (operations : List CursorOperation)
    (isOpen : (sceneAfter operations
      ⟨ofSource keys source summary, clock, journal⟩).state.isOpen = true) :
    let start := ⟨ofSource keys source summary, clock, journal⟩
    let final := sceneAfter operations start
    let made := attemptsDuring operations start
    AttemptChain start made final ∧ (∀ scene ∈ made, AttemptResult scene) ∧
      ((∃ record, final.state.toPlace.record = .ok record) ↔
        0 ≤ final.state.position ∧ (made.filterMap verdict).getLast? = some true) := by
  intro start final made
  have chain : AttemptChain start made final := chain_sceneAfter operations isOpen
  have hasCourse : HasCourse start { keys } course := .ofSource journal follows
  have awaits : Awaits (fun record => record.isSome) (fun _ => True) (fun _ => True) start :=
    ⟨_, course, hasCourse, noneMissing, fun _ _ => trivial, fun _ _ => trivial⟩
  obtain ⟨wellFormed, _, currentInvariant⟩ :=
    chain.keeps CurrentInvariant.move ⟨awaits, .ofSource ..⟩
  have told : ∀ scene ∈ made, AttemptResult scene := by
    intro scene member
    exact .of_awaits (wellFormed scene member).1
      ((chain.progress.2 scene member).isOpen_of isOpen)
  have unknown : start.state.current.isSome ↔ ([] : List Bool).getLast? = some true := by
    simp [start, ofSource]
  have known := chain.isSome_current_iff told unknown
  rw [List.nil_append] at known
  refine ⟨chain, told, ?_⟩
  rw [← known, Place.record_of_open isOpen]
  cases current : final.state.current with
  | none => simp
  | some record =>
      have start_le := currentInvariant.start_le
      have moved : final.state.position ≠ -1 := by
        intro unmoved
        cases current.symm.trans (currentInvariant.unmoved unmoved)
      have further : 0 ≤ final.state.position := by omega
      simp [further]

/-- A new cursor over an iterator that fails between two records. -/
def onFaltering : Scene (Cursor (Script (Option Record)) Record Unit) :=
  ⟨ofSource [.string "n"] Script.faltering fun _ => (), {}, []⟩

theorem verdicts_on_faltering :
    let operations := [.next, .atEnd, .skip 2]
    let final := sceneAfter operations onFaltering
    (∃ record, final.state.toPlace.record = .ok record) ↔
      0 ≤ final.state.position ∧
        ((attemptsDuring operations onFaltering).filterMap verdict).getLast? = some true := by
  have isOpen : (sceneAfter [.next, .atEnd, .skip 2] onFaltering).state.isOpen = true := rfl
  exact (current_record_tells_last_verdict (Script.follows_faltering {})
    Script.obeys_faltering.item [.next, .atEnd, .skip 2] isOpen).2.2

/-- An attempt to advance that fails leaves the record that was current, as if the attempt
had found it. -/
theorem failed_attempt_leaves_record :
    let operations := [.next, .next]
    let final := sceneAfter operations onFaltering
    let outcomes := (attemptsDuring operations onFaltering).map fun scene => (next.run scene).1
    outcomes = [.ok true, .error (.foreign "ValueError" "unreadable")] ∧
      final.state.toPlace.record = .ok ⟨[(.string "n", .int 1)]⟩ ∧
      ¬((∃ record, final.state.toPlace.record = .ok record) ↔
        0 ≤ final.state.position ∧ outcomes.getLast? = some (.ok true)) := by
  refine ⟨rfl, rfl, ?_⟩
  intro claimed
  obtain ⟨_, succeeded⟩ := claimed.mp ⟨_, rfl⟩
  exact nomatch succeeded

end Operations

end Cursor

end QueryCursor
