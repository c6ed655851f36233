import QueryCursor.Proofs.Draining
import QueryCursor.Proofs.Exhaustion
import QueryCursor.Proofs.Lookup

/-!
# Refusals

A cursor that refuses an operation is left as it was: it stands where it stood, and
advances from there deliver the same records.  Looking ahead for the next record costs
nothing, and a record is moved onto only by what is not refused any more.  The one
exception is asking for the only record of several before the first of them, which moves
onto that one.
-/

namespace QueryCursor

/-- A fault by which a cursor refuses an operation. -/
def Fault.IsRefusal (fault : Fault) : Prop :=
  fault.kind = "ClientError" ∨ fault.kind = "NoSuchRecord"

instance (fault : Fault) : Decidable fault.IsRefusal :=
  inferInstanceAs (Decidable (_ ∨ _))

theorem Fault.OfLookup.not_isRefusal {fault : Fault} (ofLookup : fault.OfLookup) :
    ¬fault.IsRefusal := by
  cases fault with
  | record cause => cases cause <;> simp [IsRefusal, kind, RecordFault.kind]
  | unhashable part => simp [IsRefusal, kind]
  | _ => exact ofLookup.elim

/-- No refusal is changed on its way out of a coroutine, and none comes about there. -/
theorem Fault.leavingCoroutine_of_isRefusal {fault : Fault}
    (refused : fault.leavingCoroutine.IsRefusal) : fault.leavingCoroutine = fault := by
  cases fault with
  | stop signal text =>
      cases signal with
      | plain => simp [leavingCoroutine, StopSignal.inside, IsRefusal, kind] at refused
      | awaited => rfl
  | _ => rfl

/-- A mapping that is called in a coroutine fails with a refusal only if it makes that
itself. -/
theorem Place.of_inCoroutine_refused {ρ α : Type} {map : Place ρ → Except Fault α}
    {place : Place ρ} {fault : Fault} (failed : Place.inCoroutine map place = .error fault)
    (refused : fault.IsRefusal) : map place = .error fault := by
  rw [inCoroutine] at failed
  cases mapped : map place with
  | ok value =>
      rw [mapped] at failed
      cases failed
  | error cause =>
      rw [mapped] at failed
      cases failed
      rw [Fault.leavingCoroutine_of_isRefusal refused]

namespace Cursor

variable {σ ρ τ α β : Type}

/-! ## What advances deliver -/

/-- The records among events that so many advances from a position move onto.  None are
left after the limit. -/
def deliveries (limit : Int) : Nat → Int → List (Except Fault (Option ρ)) → List ρ
  | 0, _, _ => []
  | _, _, [] => []
  | count + 1, position, .error _ :: events => deliveries limit count position events
  | count + 1, position, .ok record :: events =>
      record.toList ++
        deliveries limit count (position + 1) (if position + 1 = limit then [] else events)

@[simp] theorem deliveries_nil (limit : Int) (count : Nat) (position : Int) :
    deliveries limit count position ([] : List (Except Fault (Option ρ))) = [] := by
  cases count <;> rfl

variable [Source σ (Option ρ)]

/-- The records that so many advances deliver by moving onto them. -/
def delivered : Nat → Scene (Cursor σ ρ τ) → List ρ
  | 0, _ => []
  | count + 1, scene =>
      let after := (next.run scene).2
      (if after.state.position = scene.state.position then [] else after.state.current.toList) ++
        delivered count after

theorem delivered_of_closed {scene : Scene (Cursor σ ρ τ)} (closed : scene.state.isOpen = false)
    (count : Nat) : delivered count scene = [] := by
  induction count with
  | zero => rfl
  | succ count ih => simp [delivered, run_next_of_closed closed, ih]

theorem delivered_of_still {scene after : Scene (Cursor σ ρ τ)}
    (advanced : (next.run scene).2 = after)
    (still : after.state.position = scene.state.position) (count : Nat) :
    delivered (count + 1) scene = delivered count after := by
  subst advanced
  rw [delivered, if_pos still]
  rfl

theorem delivered_of_moved {scene after : Scene (Cursor σ ρ τ)} {record : Option ρ}
    (advanced : (next.run scene).2 = after)
    (moved : after.state.toPlace = scene.state.toPlace.onto record) (count : Nat) :
    delivered (count + 1) scene = record.toList ++ delivered count after := by
  subst advanced
  have further : (next.run scene).2.state.position ≠ scene.state.position :=
    Place.position_ne_of_onto moved
  rw [delivered, if_neg further, moved]
  rfl

theorem HasCourse.delivered_eq {scene : Scene (Cursor σ ρ τ)} {place : Place ρ}
    {course : Course (Option ρ)} (hasCourse : HasCourse scene place course)
    (isOpen : place.isOpen = true)
    (count : Nat) :
    delivered count scene = deliveries place.limit count place.position course.events := by
  induction count generalizing scene place course with
  | zero => rfl
  | succ count ih =>
      obtain ⟨_, hasCourse'⟩ := hasCourse.next isOpen
      generalize advanced : (Cursor.next.run scene).2 = after at hasCourse'
      have stood := hasCourse.place_eq
      have stands := hasCourse'.place_eq
      subst stood
      cases course with
      | failure closing fault rest =>
          have still : after.state.position = scene.state.position := congrArg Place.position stands
          rw [delivered_of_still advanced still, ih hasCourse' isOpen]
          rfl
      | ended closing last =>
          have still : after.state.position = scene.state.position := by
            rw [stands]
            cases last <;> rfl
          rw [delivered_of_still advanced still]
          cases last <;> simp [ih hasCourse' isOpen, advanceOf, Course.events, Course.spent]
      | item closing record rest =>
          have moved : after.state.toPlace = scene.state.toPlace.onto record := by
            rw [stands, advanceOf]
            split <;> rfl
          rw [delivered_of_moved advanced moved, Course.events, deliveries]
          rw [advanceOf] at hasCourse'
          split at hasCourse'
          · next atLimit =>
            rw [ih hasCourse' isOpen, if_pos atLimit]
            rfl
          · next beyond =>
            rw [ih hasCourse' isOpen, if_neg beyond]
            rfl

/-! ## Standing still -/

/-- A course without a missing record, whose failures are neither stop signals nor refusals. -/
abbrev RefusalFree (course : Course (Option ρ)) : Prop :=
  course.Obeys (fun record => record.isSome)
    (fun fault => fault.isStop = false ∧ ¬fault.IsRefusal) fun fault => ¬fault.IsRefusal

theorem RefusalFree.unrefusing {course : Course (Option ρ)} (refusalFree : RefusalFree course) :
    course.Obeys (fun record => record.isSome) (fun fault => ¬fault.IsRefusal)
      fun fault => ¬fault.IsRefusal :=
  ⟨refusalFree.item, fun fault member => (refusalFree.failure fault member).2, refusalFree.closing⟩

/-- An advance closes no cursor, and leaves a course free of refusals. -/
theorem RefusalFree.advanceOf {course : Course (Option ρ)} (refusalFree : RefusalFree course)
    (place : Place ρ) :
    (QueryCursor.advanceOf place course).2.1.isOpen = place.isOpen ∧
      RefusalFree (QueryCursor.advanceOf place course).2.2 := by
  cases course with
  | ended closing last => cases last <;> exact ⟨rfl, .spent⟩
  | failure closing fault rest => exact ⟨rfl, (Course.obeys_failure.mp refusalFree).2.2⟩
  | item closing record rest =>
      rw [QueryCursor.advanceOf]
      split
      · exact ⟨rfl, .spent⟩
      · exact ⟨rfl, (Course.obeys_item.mp refusalFree).2.2⟩

/-- The cursor stands at a place, and the given events are before it. -/
def Stands (scene : Scene (Cursor σ ρ τ)) (place : Place ρ)
    (events : List (Except Fault (Option ρ))) : Prop :=
  ∃ course, HasCourse scene place course ∧ RefusalFree course ∧ course.events = events

namespace Stands

variable {scene after : Scene (Cursor σ ρ τ)} {place : Place ρ}
  {events : List (Except Fault (Option ρ))}

theorem place_eq (stands : Stands scene place events) : scene.state.toPlace = place := by
  obtain ⟨course, hasCourse, _⟩ := stands
  exact hasCourse.place_eq

theorem isOpen_eq (stands : Stands scene place events) : scene.state.isOpen = place.isOpen :=
  congrArg Place.isOpen stands.place_eq

theorem delivered_eq (stands : Stands scene place events) (isOpen : place.isOpen = true)
    (count : Nat) : delivered count scene = deliveries place.limit count place.position events := by
  obtain ⟨course, hasCourse, _, rfl⟩ := stands
  exact hasCourse.delivered_eq isOpen count

end Stands

/-- Unless an action fails for another reason than a refusal, the cursor stands where it
stood. -/
def KeepsStanding (action : Action (Cursor σ ρ τ) α) : Prop :=
  ∀ scene place events, Stands scene place events →
    (∃ fault, (action.run scene).1 = .error fault ∧ ¬fault.IsRefusal) ∨
      Stands (action.run scene).2 place events

namespace KeepsStanding

theorem result (value : α) : KeepsStanding (pure value : Action (Cursor σ ρ τ) α) :=
  fun _ _ _ => .inr

theorem refusal (fault : Fault) : KeepsStanding (throw fault : Action (Cursor σ ρ τ) α) :=
  fun _ _ _ => .inr

theorem read (view : Place ρ → Except Fault α) :
    KeepsStanding (Cursor.read view : Action (Cursor σ ρ τ) α) :=
  fun _ _ _ => .inr

theorem bind {action : Action (Cursor σ ρ τ) α} {rest : α → Action (Cursor σ ρ τ) β}
    (first : KeepsStanding action) (second : ∀ value, KeepsStanding (rest value)) :
    KeepsStanding (action >>= rest) := by
  intro scene place events stands
  have looked := first scene place events stands
  rw [Action.run_bind]
  rcases ran : action.run scene with ⟨fault | value, between⟩
  · rw [ran] at looked
    rcases looked with ⟨_, ⟨⟩, other⟩ | stands
    · exact .inl ⟨fault, rfl, other⟩
    · exact .inr stands
  · rw [ran] at looked
    rcases looked with ⟨_, ⟨⟩, _⟩ | stands
    exact second value between place events stands

theorem hasNext : KeepsStanding (onAhead LookAhead.hasNext : Action (Cursor σ ρ τ) Bool) := by
  rintro scene place events ⟨course, hasCourse, refusalFree, rfl⟩
  obtain ⟨answer, hasCourse'⟩ := hasCourse.hasNext
  cases course with
  | item closing record rest => exact .inr ⟨_, hasCourse', refusalFree.look, rfl⟩
  | failure closing fault rest =>
      exact .inl ⟨fault, answer, (Course.obeys_failure.mp refusalFree).2.1.2⟩
  | ended closing last =>
      cases last with
      | ok => exact .inr ⟨_, hasCourse', .spent, rfl⟩
      | error fault => exact .inl ⟨fault, answer, (Course.obeys_ended.mp refusalFree).2 fault rfl⟩

/-- A stop signal that comes of releasing the source shows as a refusal, but then nothing
is left. -/
theorem peek : KeepsStanding (Cursor.peek : Action (Cursor σ ρ τ) (Option ρ)) := by
  intro scene place events stands
  cases isOpen : place.isOpen with
  | false =>
      rw [Cursor.peek, run_requireOpen_of_closed (stands.isOpen_eq.trans isOpen)]
      exact .inr stands
  | true =>
      obtain ⟨course, hasCourse, refusalFree, rfl⟩ := stands
      obtain ⟨answer, hasCourse'⟩ := hasCourse.peek isOpen
      cases course with
      | item closing record rest => exact .inr ⟨_, hasCourse', refusalFree.look, rfl⟩
      | ended closing last => exact .inr ⟨_, hasCourse', .spent, rfl⟩
      | failure closing fault rest =>
          obtain ⟨_, ⟨goesOn, other⟩, _⟩ := Course.obeys_failure.mp refusalFree
          refine .inl ⟨fault, ?_, other⟩
          rw [answer]
          simp [Course.peeked, Course.take, goesOn]

theorem atEnd : KeepsStanding (Cursor.atEnd : Action (Cursor σ ρ τ) Bool) :=
  (read _).bind fun _ => hasNext.bind fun _ => result _

end KeepsStanding

/-! ## Going on -/

/-- The cursor is open, and nothing before it is a refusal. -/
def Ready (scene : Scene (Cursor σ ρ τ)) : Prop :=
  ∃ place events, Stands scene place events ∧ place.isOpen = true

/-- An action leaves the cursor ready, and if it fails then not by a refusal, except with
one that another party made. -/
structure Granted (other : Fault → Prop) (ran : Except Fault α × Scene (Cursor σ ρ τ)) :
    Prop where
  ready : Ready ran.2
  unrefused : ∀ fault, ran.1 = .error fault → fault.IsRefusal → other fault

namespace Granted

variable {other : Fault → Prop} {scene : Scene (Cursor σ ρ τ)}

theorem ofOk {value : α} (ready : Ready scene) :
    Granted other ((.ok value, scene) : Except Fault α × Scene (Cursor σ ρ τ)) :=
  ⟨ready, nofun⟩

theorem ofError {fault : Fault} (ready : Ready scene)
    (unlike : fault.IsRefusal → other fault) :
    Granted other ((.error fault, scene) : Except Fault α × Scene (Cursor σ ρ τ)) := by
  refine ⟨ready, ?_⟩
  rintro _ ⟨⟩
  exact unlike

/-- A fault is the same for whatever value was wanted. -/
theorem failed {fault : Fault}
    (granted : Granted other ((.error fault, scene) : Except Fault α × Scene (Cursor σ ρ τ))) :
    Granted other ((.error fault, scene) : Except Fault β × Scene (Cursor σ ρ τ)) :=
  .ofError granted.ready (granted.unrefused fault rfl)

theorem map {outcome : Except Fault α} (granted : Granted other (outcome, scene))
    (make : α → β) : Granted other (outcome.map make, scene) := by
  cases outcome with
  | ok value => exact .ofOk granted.ready
  | error fault => exact granted.failed

end Granted

/-- A cursor that is ready does not refuse the action. -/
def Grants (other : Fault → Prop) (action : Action (Cursor σ ρ τ) α) : Prop :=
  ∀ scene, Ready scene → Granted other (action.run scene)

namespace Grants

variable {other : Fault → Prop}

theorem of_run {action : Action (Cursor σ ρ τ) α} {scene : Scene (Cursor σ ρ τ)}
    {ran : Except Fault α × Scene (Cursor σ ρ τ)} (grants : Grants other action)
    (ready : Ready scene) (runs : action.run scene = ran) : Granted other ran := by
  rw [← runs]
  exact grants scene ready

theorem result (value : α) : Grants other (pure value : Action (Cursor σ ρ τ) α) :=
  fun _ ready => .ofOk ready

theorem present : Grants other (Action.present : Action (Cursor σ ρ τ) (Cursor σ ρ τ)) :=
  fun _ ready => .ofOk ready

theorem refusal {fault : Fault} (unlike : ¬fault.IsRefusal) :
    Grants other (throw fault : Action (Cursor σ ρ τ) α) :=
  fun _ ready => .ofError ready fun refused => absurd refused unlike

theorem bind {action : Action (Cursor σ ρ τ) α} {rest : α → Action (Cursor σ ρ τ) β}
    (first : Grants other action) (second : ∀ value, Grants other (rest value)) :
    Grants other (action >>= rest) := by
  intro scene ready
  rw [Action.run_bind]
  rcases ran : action.run scene with ⟨fault | value, between⟩
  · exact (first.of_run ready ran).failed
  · exact second value between (first.of_run ready ran).ready

theorem ite {condition : Prop} [Decidable condition] {first second : Action (Cursor σ ρ τ) α}
    (one : Grants other first) (otherwise : Grants other second) :
    Grants other (if condition then first else second) := by
  split
  · exact one
  · exact otherwise

theorem requireOpen :
    Grants other (Cursor.read Place.requireOpen : Action (Cursor σ ρ τ) Unit) := by
  intro scene ready
  obtain ⟨place, events, stands, isOpen⟩ := id ready
  rw [run_read, Place.requireOpen, if_pos (stands.isOpen_eq.trans isOpen)]
  exact .ofOk ready

theorem hasNext : Grants other (onAhead LookAhead.hasNext : Action (Cursor σ ρ τ) Bool) := by
  rintro scene ⟨place, events, ⟨course, hasCourse, refusalFree, _⟩, isOpen⟩
  obtain ⟨answer, hasCourse'⟩ := hasCourse.hasNext
  refine ⟨⟨_, _, ⟨_, hasCourse', refusalFree.look, rfl⟩, isOpen⟩, ?_⟩
  intro fault failed refused
  exact absurd refused (refusalFree.unrefusing.ofLook (answer.symm.trans failed))

theorem discard : Grants other (Cursor.discard : Action (Cursor σ ρ τ) Unit) := by
  rintro scene ⟨place, events, ⟨course, hasCourse, refusalFree, _⟩, isOpen⟩
  obtain ⟨answer, hasCourse'⟩ := hasCourse.discard
  refine ⟨⟨_, _, ⟨_, hasCourse', .spent, rfl⟩, isOpen⟩, ?_⟩
  intro fault failed refused
  exact absurd refused (refusalFree.ofClosing (answer.symm.trans failed))

theorem next : Grants other (Cursor.next : Action (Cursor σ ρ τ) Bool) := by
  rintro scene ⟨place, events, ⟨course, hasCourse, refusalFree, _⟩, isOpen⟩
  constructor
  · obtain ⟨_, hasCourse'⟩ := hasCourse.next isOpen
    obtain ⟨stillOpen, stillRefusalFree⟩ := refusalFree.advanceOf place
    exact ⟨_, _, ⟨_, hasCourse', stillRefusalFree, rfl⟩, stillOpen.trans isOpen⟩
  · intro fault failed refused
    exact absurd refused
      (hasCourse.of_next_error isOpen refusalFree.unrefusing (Prod.ext failed rfl))

theorem advance : Grants other (Cursor.advance : Action (Cursor σ ρ τ) (Option ρ)) := by
  apply next.bind
  intro moved
  have unlike : ¬Fault.ended.IsRefusal := by decide
  exact .ite (present.bind fun _ => .result _) (.refusal unlike)

theorem skipUpTo (wanted : Nat) :
    Grants other (Cursor.skipUpTo wanted : Action (Cursor σ ρ τ) Nat) := by
  induction wanted with
  | zero => exact .result 0
  | succ wanted ih => exact next.bind fun moved => .ite (ih.bind fun _ => .result _) (.result 0)

theorem skip {records : Int} (notNegative : 0 ≤ records) :
    Grants other (Cursor.skip records : Action (Cursor σ ρ τ) Nat) := by
  rw [Cursor.skip, if_neg (Int.not_lt.mpr notNegative)]
  exact requireOpen.bind fun _ => skipUpTo _

theorem setLimit {records : Int} (notNegative : 0 ≤ records) :
    Grants other (Cursor.setLimit records : Action (Cursor σ ρ τ) Int) := by
  have cap : Grants other ((Move.cap records).action : Action (Cursor σ ρ τ) Unit) := by
    rintro scene ⟨place, events, ⟨course, hasCourse, refusalFree, _⟩, isOpen⟩
    have limited : Ready (limitedTo records scene) :=
      ⟨_, _, ⟨course, hasCourse.move fun place => { place with limit := place.position + records },
        refusalFree, rfl⟩, isOpen⟩
    rw [run_cap]
    split
    · exact discard _ limited
    · exact .ofOk limited
  rw [setLimit_eq notNegative]
  exact requireOpen.bind fun _ => cap.bind fun _ => present.bind fun _ => .result _

theorem drainFrom : Grants other (⟨Cursor.drainFrom⟩ : Action (Cursor σ ρ τ) Unit) := by
  intro scene ready
  simp only
  fun_induction Cursor.drainFrom scene with
  | case1 scene after moved ih =>
      have granted : Granted other _ := next.of_run ready moved
      exact ih granted.ready
  | case2 scene after ended =>
      have granted : Granted other _ := next.of_run ready ended
      exact .ofOk granted.ready
  | case3 scene fault after failed => exact (next.of_run ready failed).failed

theorem collect (bound : Option Nat) :
    Grants other (Source.collect bound : Action (Cursor σ ρ τ) (List (Option ρ))) := by
  intro scene ready
  simp only [Source.collect]
  fun_induction Source.collectFrom bound scene with
  | case1 => exact .ofOk ready
  | case2 bound scene more record after taken rest last collected ih =>
      have granted : Granted other _ := advance.of_run ready taken
      rw [collected] at ih
      exact (ih granted.ready).map _
  | case3 bound scene more fault after failed =>
      have granted : Granted other _ := advance.of_run ready failed
      split
      · exact .ofOk granted.ready
      · exact granted.failed

/-- A mapping is only asked on a record of an open cursor. -/
theorem gather {map : Place ρ → Except Fault α}
    (raised : ∀ place fault, place.isOpen = true → place.current.isSome →
      map place = .error fault → fault.IsRefusal → other fault) :
    Grants other (Cursor.gather map : Action (Cursor σ ρ τ) (List α)) := by
  have gathered : Grants other (⟨Cursor.gatherFrom map⟩ : Action (Cursor σ ρ τ) (List α)) := by
    intro scene ready
    simp only
    fun_induction Cursor.gatherFrom map scene with
    | case1 => exact .ofOk ready
    | case2 scene record current fault failed =>
        obtain ⟨place, events, stands, isOpen⟩ := id ready
        refine .ofError ready (raised _ fault (stands.isOpen_eq.trans isOpen) ?_ failed)
        rw [current]
        rfl
    | case3 scene record current value mapped after moved rest last gathered ih =>
        have granted : Granted other _ := next.of_run ready moved
        rw [gathered] at ih
        exact (ih granted.ready).map _
    | case4 scene record current value mapped after moved =>
        have granted : Granted other _ := next.of_run ready moved
        exact .ofOk granted.ready
    | case5 scene record current value mapped fault after moved =>
        exact (next.of_run ready moved).failed
  exact gathered.bind fun values => discard.bind fun _ => .result values

theorem summarize : Grants other (Cursor.summarize : Action (Cursor σ ρ τ) τ) :=
  drainFrom.bind fun _ => discard.bind fun _ => present.bind fun _ => .result _

end Grants

/-! ## Refusals -/

/-- Where the action is refused, the cursor stands where it stood, unless the refusal comes
from another party. -/
def RefusedInPlace (other : Fault → Prop) (action : Action (Cursor σ ρ τ) α)
    (scene : Scene (Cursor σ ρ τ)) : Prop :=
  ∀ fault after, action.run scene = (.error fault, after) → fault.IsRefusal → ¬other fault →
    ∀ place events, Stands scene place events → Stands after place events

namespace RefusedInPlace

variable {other : Fault → Prop} {scene : Scene (Cursor σ ρ τ)}

theorem ofKeepsStanding {action : Action (Cursor σ ρ τ) α} (looks : KeepsStanding action) :
    RefusedInPlace other action scene := by
  intro fault after ran refused _ place events stands
  have looked := looks scene place events stands
  rw [ran] at looked
  rcases looked with ⟨_, ⟨⟩, unlike⟩ | stands
  · exact absurd refused unlike
  · exact stands

theorem ofGrants {action : Action (Cursor σ ρ τ) α} (grants : Grants other action)
    (isOpen : scene.state.isOpen = true) : RefusedInPlace other action scene := by
  intro fault after ran refused own place events stands
  have ready : Ready scene := ⟨place, events, stands, stands.isOpen_eq.symm.trans isOpen⟩
  exact absurd ((grants.of_run ready ran).unrefused fault rfl refused) own

theorem congr {action action' : Action (Cursor σ ρ τ) α}
  (refusedInPlace : RefusedInPlace other action scene)
    (same : action'.run scene = action.run scene) : RefusedInPlace other action' scene := by
  intro fault after ran
  exact refusedInPlace fault after (same.symm.trans ran)

theorem ofSame {action : Action (Cursor σ ρ τ) α} {outcome : Except Fault α}
    (same : action.run scene = (outcome, scene)) : RefusedInPlace other action scene := by
  intro fault after ran _ _ place events stands
  obtain ⟨_, rfl⟩ := Prod.mk.inj (same.symm.trans ran)
  exact stands

/-- What comes after an action and never fails by a refusal need not be looked at. -/
theorem bind {action : Action (Cursor σ ρ τ) α} {rest : α → Action (Cursor σ ρ τ) β}
    (refusedInPlace : RefusedInPlace other action scene)
    (unrefused : ∀ value between fault after,
      (rest value).run between = (.error fault, after) → ¬fault.IsRefusal) :
    RefusedInPlace other (action >>= rest) scene := by
  intro fault after ran refused own place events stands
  rw [Action.run_bind] at ran
  rcases begun : action.run scene with ⟨other | value, between⟩
  · rw [begun] at ran
    cases ran
    exact refusedInPlace fault after begun refused own place events stands
  · rw [begun] at ran
    exact absurd refused (unrefused value between fault after ran)

end RefusedInPlace

/-! ## The first record -/

/-- How a cursor that has not moved yet is asked for the first record of a course. -/
inductive Opens (place : Place ρ) (course : Course (Option ρ)) :
    Except Fault ρ × Scene (Cursor σ ρ τ) → Prop where
  | failed (fault : Fault) (after : Scene (Cursor σ ρ τ)) :
      ¬fault.IsRefusal → Opens place course (.error fault, after)
  | empty (closing : Except Fault Unit) (after : Scene (Cursor σ ρ τ)) :
      course = .ended closing (.ok ()) → HasCourse after place Course.spent →
      Opens place course (.error (.absent .emptyResult), after)
  | found (closing : Except Fault Unit) (record : ρ) (rest : Course (Option ρ))
      (after : Scene (Cursor σ ρ τ)) :
      course = .item closing (some record) rest →
      HasCourse after (place.onto (some record))
        (if place.position + 1 = place.limit then Course.spent else rest) →
      Opens place course (.ok record, after)

/-- A cursor that has moved is not moved by being asked for the first record. -/
theorem run_first_of_moved {scene : Scene (Cursor σ ρ τ)} (moved : scene.state.position ≠ -1) :
    ∃ outcome, first.run scene = (outcome, scene) := by
  cases isOpen : scene.state.isOpen with
  | false =>
      obtain ⟨cause, refused⟩ := RefusesClosed.first scene isOpen
      exact ⟨_, refused⟩
  | true =>
      rw [first, Action.run_bind, run_read, Place.openPosition_of_open isOpen]
      simp only [if_neg moved]
      split
      · exact ⟨_, rfl⟩
      · exact ⟨_, rfl⟩

variable {scene : Scene (Cursor σ ρ τ)} {place : Place ρ} {course : Course (Option ρ)}

theorem HasCourse.first (hasCourse : HasCourse scene place course) (isOpen : place.isOpen = true)
    (refusalFree : RefusalFree course) (unmoved : place.position = -1)
    (noRecord : place.current = none) :
    Opens place course (Cursor.first.run scene) := by
  have position : scene.state.position = -1 := by rw [hasCourse.place_eq, unmoved]
  have notLeft : ¬1 ≤ scene.state.position := by omega
  rw [Cursor.first, Action.run_bind, run_read,
    Place.openPosition_of_open (hasCourse.isOpen_eq.trans isOpen)]
  simp only [if_neg notLeft, if_pos position]
  rw [Action.run_bind]
  rcases ran : Cursor.next.run scene with ⟨fault | moved | moved, after⟩
  · exact .failed fault after (hasCourse.of_next_error isOpen refusalFree.unrefusing ran)
  · obtain ⟨⟨closing, ended⟩, hasCourse'⟩ := hasCourse.of_next_false isOpen ran
    have still : place.cleared = place := by
      rw [Place.cleared, ← noRecord]
    rw [still] at hasCourse'
    exact .empty closing after ended hasCourse'
  · obtain ⟨closing, record?, rest, rfl, hasCourse'⟩ := hasCourse.of_next_true isOpen ran
    obtain ⟨record, rfl⟩ := Option.isSome_iff_exists.mp (Course.obeys_item.mp refusalFree).2.1
    have stillOpen : (place.onto (some record)).isOpen = true := isOpen
    have read : after.state.toPlace.record = .ok record := by
      rw [hasCourse'.place_eq, Place.record_of_open stillOpen]
      rfl
    simp only [Bool.not_true, Bool.false_eq_true, if_false, run_read, read]
    exact .found closing record rest after rfl hasCourse'

/-- An unmoved cursor that refuses to give its only record has none, or has moved onto the
first of several. -/
theorem HasCourse.refused_single (hasCourse : HasCourse scene place course)
    (isOpen : place.isOpen = true)
    (refusalFree : RefusalFree course) (unmoved : place.position = -1)
    (noRecord : place.current = none)
    {fault : Fault} {after : Scene (Cursor σ ρ τ)}
    (ran : Cursor.single.run scene = (.error fault, after)) (refused : fault.IsRefusal) :
    (course.events = [] ∧ HasCourse after place Course.spent) ∨
      ∃ record second rest, course.events = .ok (some record) :: .ok (some second) :: rest.events ∧
        place.position + 1 ≠ place.limit ∧
        HasCourse after (place.onto (some record)) (.item rest.closing (some second) rest) := by
  have opens := hasCourse.first isOpen refusalFree unmoved noRecord
  rw [Cursor.single, Action.run_bind] at ran
  generalize Cursor.first.run scene = begun at opens ran
  cases opens with
  | failed fault after unlike =>
      cases ran
      exact absurd refused unlike
  | empty closing after ended hasCourse' =>
      cases ran
      subst ended
      exact .inl ⟨rfl, hasCourse'⟩
  | found closing record rest between begins hasCourse' =>
      subst begins
      generalize begun : (if place.position + 1 = place.limit then Course.spent else rest) = later
        at hasCourse'
      have refusalFreeLater : RefusalFree later := by
        rw [← begun]
        split
        · exact .spent
        · exact (Course.obeys_item.mp refusalFree).2.2
      obtain ⟨answer, hasCourse'⟩ := hasCourse'.hasNext
      rcases looked : (onAhead LookAhead.hasNext).run between with ⟨_ | more, last⟩
      · simp only [Action.run_bind, looked] at answer ran
        cases ran
        exact absurd refused (refusalFreeLater.unrefusing.ofLook answer.symm)
      · simp only [Action.run_bind, looked] at answer ran hasCourse'
        cases more with
        | false => cases ran
        | true =>
            cases ran
            obtain ⟨_, second?, others, rfl⟩ := Course.item_of_look answer.symm
            obtain ⟨second, rfl⟩ :=
              Option.isSome_iff_exists.mp (Course.obeys_item.mp refusalFreeLater).2.1
            have beyond : ¬place.position + 1 = place.limit := by
              intro atLimit
              rw [if_pos atLimit] at begun
              cases begun
            rw [if_neg beyond] at begun
            subst begun
            exact .inr ⟨record, second, others, rfl, beyond, hasCourse'⟩

end Cursor

/-- The faults that a mapping raises on a record of an open cursor. -/
def CursorOperation.Raises : CursorOperation → Fault → Prop
  | .list map, fault =>
      ∃ place : Place Record, place.isOpen = true ∧ place.current.isSome ∧ map place = .error fault
  | _, _ => False

namespace Cursor

/-! ## Operations -/

variable {σ τ α : Type} {scene : Scene (Cursor σ Record τ)} {other : Fault → Prop}

theorem not_isRefusal_of_select {key : Option Value} {record : Record} {fault : Fault}
    (failed : select key record = .error fault) : ¬fault.IsRefusal := by
  cases key with
  | none => cases failed
  | some key => exact (Record.ofLookup_of_lookup failed).not_isRefusal

/-- A record that was found is selected from without a refusal. -/
theorem refused_before_select {action : Action (Cursor σ Record τ) Record} {key : Option Value}
    {fault : Fault} {after : Scene (Cursor σ Record τ)}
    (ran : (action >>= fun record => answering (.ofExcept (select key record)) id).run scene =
      (.error fault, after)) (refused : fault.IsRefusal) :
    action.run scene = (.error fault, after) := by
  rw [Action.run_bind] at ran
  rcases begun : action.run scene with ⟨_ | record, between⟩
  · rw [begun] at ran
    cases ran
    rfl
  · rw [begun] at ran
    simp only [run_answering, Action.run_ofExcept] at ran
    cases selected : select key record with
    | ok => simp [selected, Except.map] at ran
    | error other =>
        rw [selected] at ran
        cases ran
        exact absurd refused (not_isRefusal_of_select selected)

variable [Source σ (Option Record)]

theorem RefusedInPlace.select {action : Action (Cursor σ Record τ) Record} (key : Option Value)
    (refusedInPlace : RefusedInPlace other action scene) :
    RefusedInPlace other
      (action >>= fun record => Cursor.answering (.ofExcept (Cursor.select key record)) id)
      scene :=
  fun fault after ran refused =>
    refusedInPlace fault after (refused_before_select ran refused) refused

/-- Where there is no first record, asking for it leaves the cursor unmoved. -/
theorem RefusedInPlace.first (isOpen : scene.state.isOpen = true)
    (currentInvariant : scene.state.position = -1 → scene.state.current = none) :
    RefusedInPlace other (Cursor.first : Action (Cursor σ Record τ) Record) scene := by
  by_cases unmoved : scene.state.position = -1
  · rintro fault after ran refused _ place events ⟨course, hasCourse, refusalFree, rfl⟩
    have stood := hasCourse.place_eq
    subst stood
    have opens := hasCourse.first isOpen refusalFree unmoved (currentInvariant unmoved)
    rw [ran] at opens
    cases opens with
    | failed _ _ unlike => exact absurd refused unlike
    | empty _ _ ended hasCourse' =>
        subst ended
        exact ⟨_, hasCourse', .spent, rfl⟩
  · obtain ⟨outcome, same⟩ := run_first_of_moved unmoved
    exact .ofSame same

/-- A cursor that has moved does not move by being asked for its only record. -/
theorem RefusedInPlace.single (moved : scene.state.position ≠ -1) :
    RefusedInPlace other (Cursor.single : Action (Cursor σ Record τ) Record) scene := by
  obtain ⟨outcome, same⟩ := run_first_of_moved moved
  cases outcome with
  | error fault =>
      apply ofSame
      rw [Cursor.single, Action.run_bind, same]
  | ok record =>
      have looks : KeepsStanding (do
          let more ← onAhead LookAhead.hasNext
          if more then throw (Fault.absent .several)
          return record : Action (Cursor σ Record τ) Record) := by
        apply KeepsStanding.hasNext.bind
        intro more
        split
        · exact (KeepsStanding.refusal _).bind fun _ => .result _
        · exact .result _
      apply (ofKeepsStanding looks).congr
      rw [Cursor.single, Action.run_bind, same]

theorem RefusedInPlace.list {map : Place Record → Except Fault α}
    (isOpen : scene.state.isOpen = true)
    (raised : ∀ place fault, place.isOpen = true → place.current.isSome →
      map place = .error fault → other fault) :
    RefusedInPlace other (Cursor.list map : Action (Cursor σ Record τ) (List α)) scene := by
  have gather :
      Grants other (Cursor.gather (Place.inCoroutine map) : Action (Cursor σ Record τ) (List α)) :=
    .gather fun place fault isOpen current failed refused =>
      raised place fault isOpen current (Place.of_inCoroutine_refused failed refused)
  have fromStart : Grants other (do
      let more ← onAhead LookAhead.hasNext
      if more then
        let _ ← next
        Cursor.gather (Place.inCoroutine map)
      else return [] : Action (Cursor σ Record τ) (List α)) :=
    Grants.hasNext.bind fun _ => .ite (Grants.next.bind fun _ => gather) (.result [])
  have begun : (Cursor.list map).run scene = Action.run
      (if scene.state.position = -1 then do
        let more ← onAhead LookAhead.hasNext
        if more then
          let _ ← next
          Cursor.gather (Place.inCoroutine map)
        else return []
      else if scene.state.position = 0 then Cursor.gather (Place.inCoroutine map)
      else throw (Fault.misuse (.notAtFirst scene.state.position))) scene := by
    rw [Cursor.list, run_requireOpen_of_open isOpen, Action.run_bind, Action.run_present]
  refine congr ?_ begun
  split
  · exact ofGrants fromStart isOpen
  · split
    · exact ofGrants gather isOpen
    · exact ofKeepsStanding (.refusal _)

theorem RefusedInPlace.skip (records : Int) (isOpen : scene.state.isOpen = true) :
    RefusedInPlace other (Cursor.skip records : Action (Cursor σ Record τ) Nat) scene := by
  by_cases negative : records < 0
  · apply ofSame
    rw [Cursor.skip, if_pos negative, Action.run_bind, Action.run_throw]
  · exact ofGrants (.skip (Int.not_lt.mp negative)) isOpen

theorem RefusedInPlace.setLimit (records : Int) (isOpen : scene.state.isOpen = true) :
    RefusedInPlace other (Cursor.setLimit records : Action (Cursor σ Record τ) Int) scene := by
  by_cases negative : records < 0
  · exact ofSame (run_setLimit_of_neg negative scene)
  · exact ofGrants (.setLimit (Int.not_lt.mp negative)) isOpen

/-- An open cursor is closed unless its source fails to be released. -/
theorem RefusedInPlace.close (isOpen : scene.state.isOpen = true) :
    RefusedInPlace other (Cursor.close : Action (Cursor σ Record τ) Unit) scene := by
  have discarded : RefusedInPlace other (Cursor.discard : Action (Cursor σ Record τ) Unit) scene :=
    ofGrants .discard isOpen
  refine congr (discarded.bind ?_) (run_close_of_open isOpen)
  intro _ between fault after shut
  cases shut

/-- An operation that is refused leaves the cursor where it stood.  The exception is asking
for the only record of a cursor that has not moved yet. -/
theorem refusedInPlace_perform (operation : CursorOperation)
    (currentInvariant : scene.state.position = -1 → scene.state.current = none)
    (begun : (∃ key, operation = .single key) → scene.state.position ≠ -1)
    (isOpen : scene.state.isOpen = true) :
    RefusedInPlace operation.Raises
      (perform operation : Action (Cursor σ Record τ) (CursorAnswer τ))
      scene := by
  have answering {α : Type} {action : Action (Cursor σ Record τ) α} {make : α → Value}
      (refusedInPlace : RefusedInPlace operation.Raises action scene) :
      RefusedInPlace operation.Raises (Cursor.answering action make) scene :=
    refusedInPlace.bind fun _ _ _ _ ran => nomatch ran
  cases operation with
  | next => exact answering (.ofGrants .next isOpen)
  | skip records => exact answering (.skip records isOpen)
  | limit records => exact answering (.setLimit records isOpen)
  | peek => exact answering (.ofKeepsStanding .peek)
  | atEnd => exact answering (.ofKeepsStanding .atEnd)
  | record => exact answering (.ofKeepsStanding (.read _))
  | position => exact answering (.ofKeepsStanding (.read _))
  | first key => exact (RefusedInPlace.first isOpen currentInvariant).select key
  | single key => exact (RefusedInPlace.single (begun ⟨key, rfl⟩)).select key
  | list map =>
      apply answering
      apply RefusedInPlace.list isOpen
      intro place fault openThere current raised
      exact ⟨place, openThere, current, raised⟩
  | summarize => exact (RefusedInPlace.ofGrants .summarize isOpen).bind fun _ _ _ _ ran => nomatch
    ran
  | close => exact answering (.close isOpen)
  | keys => exact answering (.ofKeepsStanding (.read _))
  | size => exact answering (.ofKeepsStanding (.read _))
  | containsKey column => exact answering (.ofKeepsStanding (.read _))
  | index column => exact answering (.ofKeepsStanding (.read _))
  | get key => exact answering (.ofKeepsStanding (.read _))
  | isOpen => exact answering (.ofKeepsStanding (.read _))
  | literal => exact answering (.ofKeepsStanding (.read _))
  | enter => exact .ofKeepsStanding (.result _)
  | leave =>
      apply answering
      apply (RefusedInPlace.close isOpen).congr
      rw [Cursor.leave, Action.run_bind, Action.run_present]
      simp only [isOpen, if_true]
  | advance => exact answering (.ofGrants .advance isOpen)
  | collect bound => exact answering (.ofGrants (.collect bound) isOpen)

theorem run_perform_of_closed (operation : CursorOperation)
    (closed : scene.state.isOpen = false) :
    ∃ outcome, (perform operation).run scene = (outcome, scene) := by
  by_cases needsOpen : operation.NeedsOpen
  · obtain ⟨cause, refused⟩ := RefusesClosed.perform needsOpen scene closed
    exact ⟨_, refused⟩
  · cases operation with
    | leave =>
        have left : leave.run scene = (.ok (), scene) := by
          rw [leave, Action.run_bind, Action.run_present]
          simp only [closed, Bool.false_eq_true, if_false]
          rfl
        rw [perform, run_answering, left]
        exact ⟨_, rfl⟩
    | collect bound =>
        have none : bound = some 0 := Decidable.not_not.mp needsOpen
        have collected : (Source.collect bound).run scene = (.ok [], scene) := by
          show Source.collectFrom bound scene = _
          rw [Source.collectFrom, if_pos none]
        rw [perform, run_answering, collected]
        exact ⟨_, rfl⟩
    | keys => exact ⟨_, rfl⟩
    | size => exact ⟨_, rfl⟩
    | containsKey => exact ⟨_, rfl⟩
    | isOpen => exact ⟨_, rfl⟩
    | enter => exact ⟨_, rfl⟩
    | literal =>
        rw [perform, run_answering, run_read]
        exact ⟨_, rfl⟩
    | _ => exact absurd trivial needsOpen

/-- The cursor stands where it stood, and delivers what it would have delivered. -/
structure Unspent (before after : Scene (Cursor σ Record τ)) : Prop where
  place_eq : after.state.toPlace = before.state.toPlace
  delivered_eq : ∀ count, delivered count after = delivered count before

/-- The cursor has moved onto the first record, and delivers the others next. -/
structure FirstSpent (before after : Scene (Cursor σ Record τ)) : Prop where
  place_eq : ∃ record, delivered 1 before = [record] ∧
    after.state.toPlace = { before.state.toPlace with position := 0, current := some record }
  delivered_eq : ∀ count,
    delivered (count + 1) before = delivered 1 before ++ delivered count after
  more : ∃ second, delivered 1 after = [second]

/-- The cursor is asked for its only record before the first of several. -/
def AsksSingleOfSeveral (operation : CursorOperation) (scene : Scene (Cursor σ Record τ)) : Prop :=
  (∃ key, operation = .single key) ∧ scene.state.position = -1 ∧
    ∃ count, 2 ≤ (delivered count scene).length

theorem Stands.unspent {before after : Scene (Cursor σ Record τ)} {place : Place Record}
    {events : List (Except Fault (Option Record))} (stood : Stands before place events)
    (stands : Stands after place events) : Unspent before after where
  place_eq := stands.place_eq.trans stood.place_eq.symm
  delivered_eq count := by
    cases isOpen : place.isOpen with
    | true => rw [stands.delivered_eq isOpen, stood.delivered_eq isOpen]
    | false =>
        rw [delivered_of_closed (stands.isOpen_eq.trans isOpen),
          delivered_of_closed (stood.isOpen_eq.trans isOpen)]

theorem HasCourse.firstSpent {before after : Scene (Cursor σ Record τ)} {place : Place Record}
    {record second : Record} {course rest : Course (Option Record)} {closing : Except Fault Unit}
    (faced : HasCourse before place course)
    (comes : course.events = .ok (some record) :: .ok (some second) :: rest.events)
    (hasCourse : HasCourse after (place.onto (some record)) (.item closing (some second) rest))
    (isOpen : place.isOpen = true) (unmoved : place.position = -1)
    (beyond : place.position + 1 ≠ place.limit) :
    FirstSpent before after ∧ (delivered 2 before).length = 2 := by
  have stillOpen : (place.onto (some record)).isOpen = true := isOpen
  have one : delivered 1 before = [record] := by
    rw [faced.delivered_eq isOpen, comes]
    rfl
  have second : delivered 1 after = [second] := by
    rw [hasCourse.delivered_eq stillOpen]
    rfl
  have others : ∀ count, delivered (count + 1) before = delivered 1 before ++ delivered count after := by
    intro count
    rw [one, faced.delivered_eq isOpen, hasCourse.delivered_eq stillOpen, comes, deliveries,
      if_neg beyond]
    rfl
  refine ⟨⟨⟨record, one, ?_⟩, others, _, second⟩, ?_⟩
  · rw [hasCourse.place_eq, faced.place_eq, Place.onto, unmoved]
    rfl
  · rw [others 1, one, second]
    rfl

/-- A cursor that has not moved yet and refuses to give its only record has spent nothing,
or the first of several. -/
theorem HasCourse.spent_by_single {before after : Scene (Cursor σ Record τ)} {place : Place Record}
    {course : Course (Option Record)} (hasCourse : HasCourse before place course)
    (isOpen : place.isOpen = true) (refusalFree : RefusalFree course)
    (unmoved : place.position = -1)
    (noRecord : place.current = none) {fault : Fault}
    (ran : Cursor.single.run before = (.error fault, after)) (refused : fault.IsRefusal) :
    (¬(∃ count, 2 ≤ (delivered count before).length) → Unspent before after) ∧
      ((∃ count, 2 ≤ (delivered count before).length) → FirstSpent before after) := by
  have stood : Stands before place course.events := ⟨course, hasCourse, refusalFree, rfl⟩
  rcases hasCourse.refused_single isOpen refusalFree unmoved noRecord ran refused with
    ⟨ended, hasCourse'⟩ | ⟨record, second, rest, comes, beyond, hasCourse'⟩
  · rw [ended] at stood
    refine ⟨fun _ => stood.unspent ⟨_, hasCourse', .spent, rfl⟩, ?_⟩
    rintro ⟨count, several⟩
    rw [stood.delivered_eq isOpen] at several
    simp at several
  · obtain ⟨spent, two⟩ := hasCourse.firstSpent comes hasCourse' isOpen unmoved beyond
    exact ⟨fun few => absurd ⟨2, Nat.le_of_eq two.symm⟩ few, fun _ => spent⟩

/-- A refusal costs nothing.  Only a cursor that is asked for its only record before the
first of several moves onto that one. -/
theorem refusal_costs_nothing {keys : List Value} {source : σ} {summary : σ → τ} {clock : Clock}
    {journal : List Message} {course : Course (Option Record)}
    (follows : Source.Follows source clock course)
    (obeys : course.Obeys (fun record => record.isSome) (fun fault => ¬fault.IsRefusal)
      fun fault => ¬fault.IsRefusal)
    (operations : List CursorOperation) (operation : CursorOperation) {fault : Fault}
    {after : Scene (Cursor σ Record τ)} :
    let before := sceneAfter operations ⟨ofSource keys source summary, clock, journal⟩
    (perform operation).run before = (.error fault, after) → fault.IsRefusal →
      ¬operation.Raises fault →
      (¬AsksSingleOfSeveral operation before → Unspent before after) ∧
        (AsksSingleOfSeveral operation before → FirstSpent before after) := by
  intro before ran refused own
  have refusalFree : RefusalFree course :=
    ⟨obeys.item, fun fault member => ⟨follows.isStop_eq_false member, obeys.failure fault member⟩,
      obeys.closing⟩
  have faced : HasCourse
      (⟨ofSource keys source summary, clock, journal⟩ : Scene (Cursor σ Record τ))
      { keys } course := .ofSource journal follows
  obtain ⟨⟨place, left, hasCourse, refusalFree⟩, currentInvariant⟩ :=
    keeps_sceneAfter CurrentInvariant.move operations
      ⟨⟨_, course, faced, refusalFree⟩, .ofSource ..⟩
  have stood : Stands before place left.events := ⟨left, hasCourse, refusalFree, rfl⟩
  have stands_at := hasCourse.place_eq
  subst stands_at
  cases isOpen : before.state.isOpen with
  | false =>
      obtain ⟨outcome, same⟩ := run_perform_of_closed operation isOpen
      obtain ⟨_, rfl⟩ := Prod.mk.inj (same.symm.trans ran)
      refine ⟨fun _ => stood.unspent stood, ?_⟩
      rintro ⟨_, _, count, several⟩
      rw [delivered_of_closed isOpen] at several
      simp at several
  | true =>
      by_cases begins : (∃ key, operation = .single key) ∧ before.state.position = -1
      · obtain ⟨⟨key, rfl⟩, unmoved⟩ := begins
        obtain ⟨unspent, firstSpent⟩ := hasCourse.spent_by_single isOpen refusalFree unmoved
          (currentInvariant.unmoved unmoved) (refused_before_select ran refused) refused
        refine ⟨?_, fun asksSingle => firstSpent asksSingle.2.2⟩
        intro notAsksSingle
        apply unspent
        exact fun several => notAsksSingle ⟨⟨key, rfl⟩, unmoved, several⟩
      · have begun : (∃ key, operation = .single key) → before.state.position ≠ -1 :=
          fun only unmoved => begins ⟨only, unmoved⟩
        have stands : Stands after before.state.toPlace left.events :=
          refusedInPlace_perform operation currentInvariant.unmoved begun isOpen fault after ran
            refused own _ _ stood
        exact ⟨fun _ => stood.unspent stands,
          fun asksSingle => absurd ⟨asksSingle.1, asksSingle.2.1⟩ begins⟩

/-- Two records. -/
def pair : List (Option Record) := [some ⟨[(.string "n", .int 1)]⟩, some ⟨[(.string "n", .int 2)]⟩]

/-- A new cursor over a generator of two records. -/
def onPair : Scene (Cursor (Script (Option Record)) Record Unit) :=
  let source : Script (Option Record) :=
    { mode := .awaited, form := .generator, pending := pair.map .item }
  ⟨ofSource [.string "n"] source fun _ => (), {}, []⟩

theorem only_record_of_pair_costs_first :
    FirstSpent onPair ((perform (.single none)).run onPair).2 := by
  have follows : Source.Follows onPair.state.ahead.source onPair.clock (.ofItems pair) :=
    Script.follows_items onPair.clock rfl rfl rfl
  have obeys : (Course.ofItems pair).Obeys (fun record => record.isSome)
      (fun fault => ¬fault.IsRefusal) fun fault => ¬fault.IsRefusal :=
    Course.obeys_item.mpr ⟨nofun, rfl, Course.obeys_item.mpr ⟨nofun, rfl, .spent⟩⟩
  have ran : (perform (.single none)).run onPair = (.error (.absent .several), _) := rfl
  have refused : (Fault.absent .several).IsRefusal := by decide
  have asksSingle : AsksSingleOfSeveral (.single none) onPair :=
    ⟨⟨none, rfl⟩, rfl, 2, Nat.le_refl 2⟩
  exact (refusal_costs_nothing follows obeys [] (.single none) ran refused id).2 asksSingle

end Cursor

end QueryCursor
