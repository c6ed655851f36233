import QueryCursor.Proofs.Course.Script
import QueryCursor.Proofs.Watched

/-!
# Delivery

What a cursor takes from its source it delivers, once and in order: a record by
making it current, a failure by raising it.  One record at most is held before
it is delivered, and only discarding the rest loses it.
-/

namespace QueryCursor

/-- The failures among events, in order. -/
def failuresOf {α : Type} (events : List (Except Fault α)) : List Fault :=
  events.filterMap faultOf

@[simp] theorem failuresOf_append {α : Type} (first second : List (Except Fault α)) :
    failuresOf (first ++ second) = failuresOf first ++ failuresOf second :=
  List.filterMap_append

@[simp] theorem failuresOf_ok {α : Type} (item : α) (events : List (Except Fault α)) :
    failuresOf (.ok item :: events) = failuresOf events := rfl

@[simp] theorem failuresOf_error {α : Type} (fault : Fault) (events : List (Except Fault α)) :
    failuresOf (.error fault :: events) = fault :: failuresOf events := rfl

@[simp] theorem failuresOf_nil {α : Type} : failuresOf ([] : List (Except Fault α)) = [] := rfl

@[simp] theorem failuresOf_items {α : Type} (items : List α) :
    failuresOf (items.map .ok) = [] := by
  induction items with
  | nil => rfl
  | cons item items ih => exact ih

theorem faultOf_eq_some {α : Type} {outcome : Except Fault α} {fault : Fault} :
    faultOf outcome = some fault ↔ outcome = .error fault := by
  cases outcome <;> simp

namespace LookAhead

variable {σ α : Type} [Source σ α] {course : Course α} {settled : List (Except Fault α)}

/-- What was taken from the source is settled, but for the item that is held or
was given up. -/
inductive Kept (course : Course α) :
    List (Except Fault α) → LookAhead (Watched σ α) α → Clock → Prop where
  | empty {source : σ} {clock : Clock} {settled : List (Except Fault α)} {left : Course α} :
      Source.Follows source clock left → course.events = settled ++ left.events →
      left.closings ⊆ course.closings →
      Kept course settled ⟨⟨source, settled⟩, .empty⟩ clock
  | holding {source : σ} {clock : Clock} {settled : List (Except Fault α)} {item : α}
      {left : Course α} :
      Source.Follows source clock left → course.events = settled ++ .ok item :: left.events →
      left.closings ⊆ course.closings →
      Kept course settled ⟨⟨source, settled ++ [.ok item]⟩, .holding item⟩ clock
  | exhausted {source : σ} {clock : Clock} {settled taken : List (Except Fault α)} :
      taken <+: course.events → taken = settled ∨ (∃ item, taken = settled ++ [.ok item]) →
      Kept course settled ⟨⟨source, taken⟩, .exhausted⟩ clock

/-- The account of a scene. -/
def Keeps (course : Course α) (settled : List (Except Fault α))
    (scene : Scene (LookAhead (Watched σ α) α)) : Prop :=
  Kept course settled scene.state scene.clock

/-- Giving up what is left can fail as the course says, and settles nothing. -/
theorem Keeps.discard {scene : Scene (LookAhead (Watched σ α) α)}
    (keeps : Keeps course settled scene) :
    Keeps course settled (LookAhead.discard.run scene).2 ∧
      ∀ fault, (LookAhead.discard.run scene).1 = .error fault →
        .error fault ∈ course.closings := by
  obtain ⟨ahead, clock, journal⟩ := scene
  cases keeps with
  | exhausted inOrder lost => exact ⟨.exhausted inOrder lost, nofun⟩
  | @empty _ _ _ left follows events closings =>
      rw [run_discard clock journal rfl, Watched.run_release]
      refine ⟨.exhausted ⟨left.events, events.symm⟩ (.inl rfl), fun fault failed => closings ?_⟩
      rw [← failed, follows.closes journal]
      exact left.closing_mem_closings
  | @holding _ _ _ item left follows events closings =>
      rw [run_discard clock journal rfl, Watched.run_release]
      refine ⟨.exhausted ⟨left.events, ?_⟩ (.inr ⟨item, rfl⟩), fun fault failed => closings ?_⟩
      · rw [events, List.append_assoc]
        rfl
      · rw [← failed, follows.closes journal]
        exact left.closing_mem_closings

/-- A fetch that meets a failure of the source settles it by raising it.  Any other
one settles nothing, and fails only as the course says. -/
theorem Keeps.fetch {scene : Scene (LookAhead (Watched σ α) α)}
    (keeps : Keeps course settled scene) :
    (∃ fault, (LookAhead.fetch.run scene).1 = .error fault ∧ fault.isStop = false ∧
      Keeps course (settled ++ [.error fault]) (LookAhead.fetch.run scene).2) ∨
    (Keeps course settled (LookAhead.fetch.run scene).2 ∧
      ∀ fault, (LookAhead.fetch.run scene).1 = .error fault →
        .error fault ∈ course.closings) := by
  obtain ⟨ahead, clock, journal⟩ := scene
  cases keeps with
  | exhausted inOrder lost => exact .inr ⟨.exhausted inOrder lost, nofun⟩
  | holding follows events closings => exact .inr ⟨.holding follows events closings, nofun⟩
  | @empty source _ _ left follows events closings =>
      rw [run_fetch_empty, run_refill, Watched.run_pull]
      cases follows with
      | item _ pulled follows =>
          obtain ⟨journal', pulled⟩ := pulled journal
          rw [pulled]
          exact .inr ⟨.holding follows events fun closing member => closings (.tail _ member), nofun⟩
      | @failure _ _ _ _ closing fault rest _ pulled goesOn follows =>
          obtain ⟨journal', pulled⟩ := pulled journal
          have remembered : Watched.memory (.error fault : Except Fault α) = [.error fault] := by
            simp [Watched.memory, goesOn]
          rw [pulled]
          simp only [goesOn, remembered]
          refine .inl ⟨fault, rfl, goesOn, .empty follows ?_ ?_⟩
          · rw [events, List.append_assoc]
            rfl
          · exact fun closing member => closings (.tail _ member)
      | @ended _ source' _ clock' closing last signal text _ pulled closed =>
          obtain ⟨journal', pulled⟩ := pulled journal
          have forgotten : Watched.memory (.error (.stop signal text) : Except Fault α) = [] := rfl
          rw [pulled]
          simp only [forgotten, List.append_nil, Fault.isStop, if_true, Scene.withState]
          rw [run_discard clock' journal' rfl, Watched.run_release]
          refine .inr ⟨.exhausted ⟨[], ?_⟩ (.inl rfl), fun fault failed => closings ?_⟩
          · rw [events]
            rfl
          · rw [← failed, closed journal']
            exact .tail _ (.head _)

/-- Taking an item that is held settles it. -/
theorem Keeps.next {scene : Scene (LookAhead (Watched σ α) α)} {item : α}
    (keeps : Keeps course settled scene) (held : scene.state.stage = .holding item) :
    (LookAhead.next.run scene).1 = .ok item ∧
      (∃ later, course.events = settled ++ .ok item :: later) ∧
      Keeps course (settled ++ [.ok item]) (LookAhead.next.run scene).2 := by
  obtain ⟨ahead, clock, journal⟩ := scene
  cases keeps with
  | exhausted => cases held
  | empty => cases held
  | @holding _ _ _ item left follows events closings =>
      cases held
      refine ⟨rfl, ⟨left.events, events⟩, .empty follows ?_ closings⟩
      rw [events, List.append_assoc]
      rfl

theorem Keeps.failuresOf_taken {scene : Scene (LookAhead (Watched σ α) α)}
    (keeps : Keeps course settled scene) :
    failuresOf scene.state.source.taken = failuresOf settled := by
  obtain ⟨ahead, clock, journal⟩ := scene
  cases keeps with
  | empty => rfl
  | holding => simp
  | exhausted _ taken =>
      rcases taken with rfl | ⟨item, rfl⟩
      · rfl
      · simp

end LookAhead

namespace Cursor

variable {σ ρ τ : Type} [Source σ (Option ρ)] {course : Course (Option ρ)}
  {settled : List (Except Fault (Option ρ))} {other : Fault → Prop}
  {scene : Scene (Cursor (Watched σ (Option ρ)) ρ τ)}

/-- The account of a cursor: what is settled has become current record by record,
as far as it is no failure. -/
structure Accounted (course : Course (Option ρ)) (settled : List (Except Fault (Option ρ)))
    (scene : Scene (Cursor (Watched σ (Option ρ)) ρ τ)) : Prop where
  keeps : LookAhead.Keeps course settled (scene.withState scene.state.ahead)
  position_eq : ((itemsOf settled).length : Int) = scene.state.position + 1
  current_eq : ∀ record, scene.state.current = some record →
    course.items[scene.state.position.toNat]? = some (some record)

/-- The record that is current after the position has changed from one scene to another. -/
def becameCurrent {σ : Type} (before after : Scene (Cursor σ ρ τ)) : List (Option ρ) :=
  if after.state.position = before.state.position then [] else [after.state.current]

omit [Source σ (Option ρ)] in
theorem becameCurrent_of_still {before after : Scene (Cursor σ ρ τ)}
    (still : after.state.position = before.state.position) : becameCurrent before after = [] :=
  if_pos still

omit [Source σ (Option ρ)] in
theorem becameCurrent_of_onto {before after : Scene (Cursor σ ρ τ)} {record : Option ρ}
    (moved : after.state.toPlace = before.state.toPlace.onto record) :
    becameCurrent before after = [record] := by
  have further : after.state.position ≠ before.state.position := Place.position_ne_of_onto moved
  rw [becameCurrent, if_neg further, moved]
  rfl

/-- A step of the account: either it settles a failure by raising it and goes nowhere, or it
settles what has become current, and then fails only as the source fails to be released. -/
def Settles (course : Course (Option ρ)) (settled : List (Except Fault (Option ρ)))
    (fault? : Option Fault) (before after : Scene (Cursor (Watched σ (Option ρ)) ρ τ)) : Prop :=
  (∃ fault, fault? = some fault ∧ fault.isStop = false ∧
    Accounted course (settled ++ [.error fault]) after ∧ becameCurrent before after = []) ∨
  (Accounted course (settled ++ (becameCurrent before after).map .ok) after ∧
    ∀ fault, fault? = some fault → .error fault ∈ course.closings)

theorem Accounted.settlesNothing {fault? : Option Fault}
    {after : Scene (Cursor (Watched σ (Option ρ)) ρ τ)}
    (accounted : Accounted course settled after)
    (still : after.state.position = scene.state.position)
    (failing : ∀ fault, fault? = some fault → .error fault ∈ course.closings) :
    Settles course settled fault? scene after := by
  refine .inr ⟨?_, failing⟩
  rw [becameCurrent_of_still still]
  simpa using accounted

theorem Accounted.goesOn {after : Scene (Cursor (Watched σ (Option ρ)) ρ τ)}
    (accounted : Accounted course settled after)
    (still : after.state.position = scene.state.position) :
    Settles course settled none scene after := by
  apply accounted.settlesNothing still
  intro fault failed
  cases failed

theorem Accounted.discard (accounted : Accounted course settled scene) :
    Accounted course settled (Cursor.discard.run scene).2 ∧
      ∀ fault, (Cursor.discard.run scene).1 = .error fault → .error fault ∈ course.closings := by
  obtain ⟨journal, ran⟩ := run_discard scene
  have keeps : LookAhead.Keeps course settled ⟨scene.state.ahead, scene.clock, journal⟩ :=
    accounted.keeps
  rw [ran]
  exact ⟨⟨keeps.discard.1, accounted.position_eq, accounted.current_eq⟩, keeps.discard.2⟩

theorem Accounted.fetch (accounted : Accounted course settled scene) :
    Settles course settled (faultOf ((onAhead LookAhead.fetch).run scene).1) scene
      ((onAhead LookAhead.fetch).run scene).2 := by
  rcases accounted.keeps.fetch with ⟨fault, failed, goesOn, keeps⟩ | ⟨keeps, failing⟩
  · refine .inl ⟨fault, ?_, goesOn, ⟨keeps, ?_, accounted.current_eq⟩, becameCurrent_of_still rfl⟩
    · rw [run_onAhead, failed]
      rfl
    · rw [itemsOf_append, itemsOf_error, itemsOf_nil, List.append_nil]
      exact accounted.position_eq
  · refine Accounted.settlesNothing ⟨keeps, accounted.position_eq, accounted.current_eq⟩ rfl ?_
    intro fault failed
    exact failing fault (faultOf_eq_some.mp failed)

/-- A step delivers the record that is held, and then gives up the rest if that was
the last one. -/
theorem Accounted.step (accounted : Accounted course settled scene) {record : Option ρ}
    (held : scene.state.ahead.stage = .holding record) :
    Settles course settled (faultOf (Cursor.step.run scene).1) scene
      (Cursor.step.run scene).2 := by
  obtain ⟨taken, ⟨later, events⟩, keeps⟩ := accounted.keeps.next held
  have position := accounted.position_eq
  rcases ran : LookAhead.next.run (scene.withState scene.state.ahead) with ⟨outcome, between⟩
  rw [ran] at taken keeps
  cases taken
  have tookRecord : (onAhead LookAhead.next).run scene =
      (.ok record, between.withState { scene.state with ahead := between.state }) := by
    rw [run_onAhead, ran]
  have stepped : Accounted course (settled ++ [record].map .ok) (between.withState
      { scene.state with toPlace := scene.state.toPlace.onto record, ahead := between.state }) := by
    refine ⟨keeps, ?_, ?_⟩
    · show ((itemsOf (settled ++ [.ok record])).length : Int) = scene.state.position + 1 + 1
      rw [itemsOf_append, itemsOf_ok, itemsOf_nil, List.length_append, List.length_singleton]
      omega
    · intro became current
      have place : (scene.state.position + 1).toNat = (itemsOf settled).length := by omega
      show course.items[(scene.state.position + 1).toNat]? = some (some became)
      rw [place, Course.items, events, itemsOf_append, itemsOf_ok]
      simpa using current
  rw [run_step tookRecord]
  split
  · obtain ⟨after, failing⟩ := stepped.discard
    refine .inr ⟨?_, fun fault failed => failing fault (faultOf_eq_some.mp failed)⟩
    rw [becameCurrent_of_onto (toPlace_of_discard _)]
    exact after
  · refine .inr ⟨?_, nofun⟩
    rw [becameCurrent_of_onto rfl]
    exact stepped

theorem Accounted.move (move : Move) (allowed : move.Allowed scene.state)
    (accounted : Accounted course settled scene) :
    Settles course settled (faultOf (move.action.run scene).1) scene
      (move.action.run scene).2 := by
  cases move with
  | look => exact accounted.fetch
  | step =>
      obtain ⟨_, record, held⟩ := allowed
      exact accounted.step held
  | clear =>
      refine Accounted.goesOn ⟨accounted.keeps, accounted.position_eq, ?_⟩ rfl
      intro record current
      cases current
  | discard =>
      obtain ⟨after, failing⟩ := accounted.discard
      exact after.settlesNothing (congrArg Place.position (toPlace_of_discard scene))
        fun fault failed => failing fault (faultOf_eq_some.mp failed)
  | cap records =>
      rw [run_cap]
      split
      · have limited : Accounted course settled (limitedTo records scene) :=
          ⟨accounted.keeps, accounted.position_eq, accounted.current_eq⟩
        obtain ⟨after, failing⟩ := limited.discard
        have still : (Cursor.discard.run (limitedTo records scene)).2.state.position =
            scene.state.position := by
          rw [toPlace_of_discard]
          rfl
        exact after.settlesNothing still
          fun fault failed => failing fault (faultOf_eq_some.mp failed)
      · exact Accounted.goesOn ⟨accounted.keeps, accounted.position_eq, accounted.current_eq⟩ rfl
  | shut =>
      exact Accounted.goesOn ⟨accounted.keeps, accounted.position_eq, accounted.current_eq⟩ rfl

/-- A trail settles at most one failure, by ending in it. -/
theorem Accounted.trail {fault? : Option Fault}
    {after : Scene (Cursor (Watched σ (Option ρ)) ρ τ)} (trail : Trail other scene fault? after)
    (accounted : Accounted course settled scene) :
    ∃ more, Accounted course (settled ++ more) after ∧
      ((∃ fault, fault? = some fault ∧ fault.isStop = false ∧ failuresOf more = [fault]) ∨
        (failuresOf more = [] ∧ ∀ fault, fault? = some fault →
          fault.IsOwn ∨ other fault ∨ .error fault ∈ course.closings)) := by
  induction trail generalizing settled with
  | rest => exact ⟨[], by simpa using accounted, .inr ⟨rfl, nofun⟩⟩
  | refused allowed =>
      refine ⟨[], by simpa using accounted, .inr ⟨rfl, ?_⟩⟩
      intro fault same
      cases same
      exact allowed.imp_right .inl
  | failed move allowed failed =>
      have settles := accounted.move move allowed
      rw [failed] at settles
      rcases settles with ⟨fault, same, goesOn, after, _⟩ | ⟨after, failing⟩
      · exact ⟨_, after, .inl ⟨fault, same, goesOn, rfl⟩⟩
      · refine ⟨_, after, .inr ⟨failuresOf_items _, ?_⟩⟩
        intro fault same
        exact .inr (.inr (failing fault same))
  | @moved scene between _ _ move allowed moved _ ih =>
      have settles := accounted.move move allowed
      rw [moved] at settles
      rcases settles with ⟨fault, same, _⟩ | ⟨progress, _⟩
      · cases same
      · obtain ⟨more, after, charged⟩ := ih progress
        refine ⟨(becameCurrent scene between).map .ok ++ more, ?_, ?_⟩
        · rw [← List.append_assoc]
          exact after
        · rw [failuresOf_append, failuresOf_items, List.nil_append]
          exact charged
  | stopped stop _ _ first second =>
      obtain ⟨more, between, charged⟩ := first accounted
      rcases charged with ⟨fault, same, goesOn, _⟩ | ⟨noFailure, _⟩
      · cases same
        simp [stop] at goesOn
      · obtain ⟨others, after, charged⟩ := second between
        refine ⟨more ++ others, ?_, ?_⟩
        · rw [← List.append_assoc]
          exact after
        · rw [failuresOf_append, noFailure, List.nil_append]
          exact charged

/-! ## Every moment -/

/-- The scenes that a cursor passes on its moves, and the records that became current on the
way there, one each time that the position changed. -/
inductive PassesOnto {σ : Type} [Source σ (Option ρ)] (start : Scene (Cursor σ ρ τ)) :
    List (Option ρ) → Scene (Cursor σ ρ τ) → Prop where
  | start : PassesOnto start [] start
  | move {became : List (Option ρ)} {scene : Scene (Cursor σ ρ τ)} (move : Move) :
      PassesOnto start became scene → move.Allowed scene.state →
      PassesOnto start (became ++ becameCurrent scene (move.action.run scene).2)
        (move.action.run scene).2

theorem Passes.exists_onto {σ : Type} [Source σ (Option ρ)] {start scene : Scene (Cursor σ ρ τ)}
    (passes : Passes start scene) : ∃ became, PassesOnto start became scene := by
  induction passes with
  | start => exact ⟨[], .start⟩
  | move move _ allowed ih =>
      obtain ⟨became, passes⟩ := ih
      exact ⟨_, .move move passes allowed⟩

theorem itemsOf_map_ok {α : Type} (items : List α) : itemsOf (items.map .ok) = items := by
  induction items with
  | nil => rfl
  | cons item items ih => exact congrArg (item :: ·) ih

/-- What became current is settled, record by record. -/
theorem PassesOnto.accounted {start : Scene (Cursor (Watched σ (Option ρ)) ρ τ)}
    {became : List (Option ρ)} (passes : PassesOnto start became scene)
    (opened : Accounted course [] start) :
    ∃ settled, Accounted course settled scene ∧ itemsOf settled = became := by
  induction passes with
  | start => exact ⟨[], opened, rfl⟩
  | move move _ allowed ih =>
      obtain ⟨before, accounted, rfl⟩ := ih
      rcases accounted.move move allowed with ⟨fault, _, _, after, still⟩ | ⟨after, _⟩
      · refine ⟨_, after, ?_⟩
        rw [still, itemsOf_append, itemsOf_error, itemsOf_nil]
      · refine ⟨_, after, ?_⟩
        rw [itemsOf_append, itemsOf_map_ok]

/-- What was taken from the source, in order: what is settled, and what is held or
was given up. -/
structure Delivery (course : Course (Option ρ)) (became : List (Option ρ))
    (scene : Scene (Cursor (Watched σ (Option ρ)) ρ τ))
    (settled held : List (Except Fault (Option ρ))) : Prop where
  taken_eq : scene.state.ahead.source.taken = settled ++ held
  inOrder : settled ++ held <+: course.events
  /-- The records that are settled are those that became current, and so the first ones of
  the course. -/
  became_eq : itemsOf settled = became
  firstOnes : became <+: course.items
  /-- Every record that became current moved the position by one. -/
  position_eq : (became.length : Int) = scene.state.position + 1
  current_eq : ∀ record, scene.state.current = some record →
    course.items[scene.state.position.toNat]? = some (some record)
  held_le : held = [] ∨ ∃ record, held = [.ok record]
  /-- A record that is held stays, unless the rest is given up. -/
  held_of_stage : scene.state.ahead.stage ≠ .exhausted →
    held = scene.state.ahead.stage.held?.toList.map .ok

theorem Accounted.delivery (accounted : Accounted course settled scene) :
    ∃ held, Delivery course (itemsOf settled) scene settled held := by
  have keeps := accounted.keeps
  have position := accounted.position_eq
  have current := accounted.current_eq
  have firstOnes {held : List (Except Fault (Option ρ))}
      (inOrder : settled ++ held <+: course.events) : itemsOf settled <+: course.items :=
    ((List.prefix_append settled held).trans inOrder).filterMap _
  obtain ⟨⟨place, ahead, summary⟩, clock, journal⟩ := scene
  cases keeps with
  | @empty _ _ _ left _ events =>
      have inOrder : settled ++ [] <+: course.events := ⟨left.events, by rw [events]; simp⟩
      exact ⟨[], by simp, inOrder, rfl, firstOnes inOrder, position, current, .inl rfl,
        fun _ => rfl⟩
  | @holding _ _ _ item left _ events =>
      have inOrder : settled ++ [.ok item] <+: course.events := ⟨left.events, by rw [events]; simp⟩
      exact ⟨[.ok item], rfl, inOrder, rfl, firstOnes inOrder, position, current,
        .inr ⟨item, rfl⟩, fun _ => rfl⟩
  | @exhausted _ _ _ taken inOrder lost =>
      rcases lost with rfl | ⟨item, rfl⟩
      · have nothingHeld : taken ++ [] <+: course.events := by simpa using inOrder
        exact ⟨[], by simp, nothingHeld, rfl, firstOnes nothingHeld, position, current, .inl rfl,
          fun more => absurd rfl more⟩
      · exact ⟨[.ok item], rfl, inOrder, rfl, firstOnes inOrder, position, current,
          .inr ⟨item, rfl⟩, fun more => absurd rfl more⟩

/-! ## Whole runs -/

section Operations

variable {σ τ : Type} [Source σ (Option Record)] {course : Course (Option Record)}
  {settled : List (Except Fault (Option Record))}

/-- The failures are raised by the operations of a run, in order and each by one of
them.  Whatever else the operations raise is their own, or comes from the release
of the source. -/
inductive Charged (course : Course (Option Record)) : List CursorOperation →
    List (Except Fault (CursorAnswer τ) × Scene (Cursor (Watched σ (Option Record)) Record τ)) →
    List Fault → Prop where
  | nil : Charged course [] [] []
  | raised {operation : CursorOperation} {operations : List CursorOperation} {fault : Fault}
      {after : Scene (Cursor (Watched σ (Option Record)) Record τ)}
      {performed : List
        (Except Fault (CursorAnswer τ) × Scene (Cursor (Watched σ (Option Record)) Record τ))}
      {faults : List Fault} :
      Charged course operations performed faults →
      Charged course (operation :: operations) ((.error fault, after) :: performed)
        (fault :: faults)
  | other {operation : CursorOperation} {operations : List CursorOperation}
      {outcome : Except Fault (CursorAnswer τ)}
      {after : Scene (Cursor (Watched σ (Option Record)) Record τ)}
      {performed : List
        (Except Fault (CursorAnswer τ) × Scene (Cursor (Watched σ (Option Record)) Record τ))}
      {faults : List Fault} :
      (∀ fault, outcome = .error fault →
        fault.IsOwn ∨ operation.Fails fault ∨ .error fault ∈ course.closings) →
      Charged course operations performed faults →
      Charged course (operation :: operations) ((outcome, after) :: performed) faults

theorem Accounted.runAll (operations : List CursorOperation)
    {scene : Scene (Cursor (Watched σ (Option Record)) Record τ)}
    (accounted : Accounted course settled scene) :
    ∃ more, Accounted course (settled ++ more) (sceneAfter operations scene) ∧
      Charged course operations (Action.runAll (operations.map perform) scene)
        (failuresOf more) := by
  induction operations generalizing scene settled with
  | nil =>
      refine ⟨[], ?_, .nil⟩
      rw [List.append_nil]
      exact accounted
  | cons operation operations ih =>
      obtain ⟨first, between, charged⟩ := accounted.trail (trail_of_perform operation scene)
      obtain ⟨others, after, chargedLater⟩ := ih between
      refine ⟨first ++ others, ?_, ?_⟩
      · rw [← List.append_assoc]
        exact after
      · rw [failuresOf_append, List.map_cons, Action.runAll]
        rcases ran : (perform operation).run scene with ⟨outcome, last⟩
        rw [ran] at charged chargedLater
        rcases charged with ⟨fault, raised, _, same⟩ | ⟨none, other⟩
        · cases faultOf_eq_some.mp raised
          rw [same]
          exact .raised chargedLater
        · rw [none]
          exact .other (fun fault failed => other fault (faultOf_eq_some.mpr failed)) chargedLater

/-- A watched source delivers exactly what it is taken for, and is the source it
was. -/
theorem delivery_is_exact {keys : List Value} {source : σ} {summary : σ → τ} {clock : Clock}
    {journal : List Message} (follows : Source.Follows source clock course)
    (operations : List CursorOperation) :
    let start := ⟨ofSource keys (⟨source, []⟩ : Watched σ (Option Record))
      fun watched => summary watched.source, clock, journal⟩
    (Action.runAll (operations.map perform) start).map (observe fun _ => ()) =
        (Action.runAll (operations.map perform)
          ⟨ofSource keys source summary, clock, journal⟩).map (observe fun _ => ()) ∧
      (∀ became scene, PassesOnto start became scene →
        ∃ settled held, Delivery course became scene settled held) ∧
      (∃ became, PassesOnto start became (sceneAfter operations start)) ∧
      Charged course operations (Action.runAll (operations.map perform) start)
        (failuresOf (sceneAfter operations start).state.ahead.source.taken) := by
  intro start
  have opened : Accounted course [] start :=
    ⟨.empty follows rfl (List.Subset.refl _), rfl, nofun⟩
  refine ⟨runAll_watched follows operations, ?_, ?_, ?_⟩
  · intro became scene passes
    obtain ⟨settled, accounted, rfl⟩ := passes.accounted opened
    exact ⟨settled, accounted.delivery⟩
  · exact (Passes.sceneAfter operations start).exists_onto
  · obtain ⟨more, after, charged⟩ := opened.runAll operations
    have taken : failuresOf (sceneAfter operations start).state.ahead.source.taken = _ :=
      after.keeps.failuresOf_taken
    rw [taken, List.nil_append]
    exact charged

/-- A new cursor over a watched iterator that fails between two records. -/
def overFaltering : Scene (Cursor (Watched (Script (Option Record)) (Option Record)) Record Unit) :=
  ⟨ofSource [.string "n"] ⟨Script.faltering, []⟩ fun _ => (), {}, []⟩

theorem delivery_from_faltering_is_exact :
    (∃ became, PassesOnto overFaltering became
        (sceneAfter [.peek, .skip 2, .atEnd, .limit 0] overFaltering) ∧
      ∃ settled held, Delivery Script.falteringCourse became
        (sceneAfter [.peek, .skip 2, .atEnd, .limit 0] overFaltering) settled held) ∧
      Charged Script.falteringCourse [.peek, .skip 2, .atEnd, .limit 0]
        (Action.runAll ([.peek, .skip 2, .atEnd, .limit 0].map perform) overFaltering)
        (failuresOf (sceneAfter [.peek, .skip 2, .atEnd, .limit 0]
          overFaltering).state.ahead.source.taken) := by
  obtain ⟨_, moments, ⟨became, passed⟩, charged⟩ := @delivery_is_exact _ Unit _ _ [.string "n"] _
    (fun _ => ()) _ [] (Script.follows_faltering {}) [.peek, .skip 2, .atEnd, .limit 0]
  exact ⟨⟨became, passed, moments became _ passed⟩, charged⟩

end Operations

end Cursor

end QueryCursor
