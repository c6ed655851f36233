import QueryCursor.Proofs.Course.Script
import QueryCursor.Proofs.Shown
import QueryCursor.Proofs.Standing

/-!
# Draining

There are five ways to read a cursor to its end: advancing until no record is
left, walking over the records, skipping more than there are, summarizing, and
from the first record on reading in bulk.  They do the same and end the same,
also when a limit is reached, a record fails, or the source fails to be released.
-/

namespace QueryCursor

/-- The records that can be reached from a place, up to the limit. -/
def Place.reachable {ρ : Type} (place : Place ρ) (course : Course (Option ρ)) :
    List (Option ρ) :=
  if place.position < place.limit then course.items.take (place.limit - place.position).toNat
  else course.items

/-- What can be reached from a place before a record is that record, and what can
be reached from there. -/
theorem Place.reachable_item {ρ : Type} (place : Place ρ) (closing : Except Fault Unit)
    (record : Option ρ) (rest : Course (Option ρ)) :
    place.reachable (.item closing record rest) =
      record :: (place.onto record).reachable
        (if place.position + 1 = place.limit then Course.spent else rest) := by
  have position := place.position_onto record
  have limit := place.limit_onto record
  rw [reachable, reachable, Course.items_item]
  by_cases atLimit : place.position + 1 = place.limit
  · have one : (place.limit - place.position).toNat = 1 := by omega
    have before : place.position < place.limit := by omega
    simp [atLimit, before, one, Course.spent]
  · rw [if_neg atLimit]
    by_cases before : place.position < place.limit
    · have more : (place.limit - place.position).toNat =
          ((place.onto record).limit - (place.onto record).position).toNat + 1 := by omega
      have stillBefore : (place.onto record).position < (place.onto record).limit := by omega
      rw [if_pos before, if_pos stillBefore, more, List.take_succ_cons]
    · have stillBeyond : ¬(place.onto record).position < (place.onto record).limit := by omega
      rw [if_neg before, if_neg stillBeyond]

/-- On every record the mapping gives the value of that record. -/
def Place.Maps {ρ α : Type} (map : Place ρ → Except Fault α) (value : ρ → α) : Prop :=
  ∀ place : Place ρ, ∀ record, place.isOpen = true → place.current = some record →
    map place = .ok (value record)

theorem Place.Maps.inCoroutine {ρ α : Type} {map : Place ρ → Except Fault α} {value : ρ → α}
    (maps : Place.Maps map value) : Place.Maps (Place.inCoroutine map) value := by
  intro place record isOpen current
  rw [Place.inCoroutine, maps place record isOpen current]
  rfl

theorem Place.maps_recordValue : Place.Maps Place.recordValue Record.toValue := by
  intro place record isOpen current
  simp [Place.recordValue, Place.record_of_open isOpen, current, bind, Except.bind, pure,
    Except.pure]

namespace Cursor

variable {σ ρ τ α : Type} [Source σ (Option ρ)] {scene after last : Scene (Cursor σ ρ τ)}
  {place : Place ρ} {course : Course (Option ρ)} {fault : Fault} {outcome : Except Fault Unit}
  {records : List ρ}

/-! ## One advance -/

theorem HasCourse.of_next_true (hasCourse : HasCourse scene place course)
    (isOpen : place.isOpen = true)
    (moved : Cursor.next.run scene = (.ok true, after)) :
    ∃ closing record rest, course = .item closing record rest ∧
      HasCourse after (place.onto record)
        (if place.position + 1 = place.limit then Course.spent else rest) := by
  obtain ⟨answer, hasCourse⟩ := hasCourse.next isOpen
  rw [moved] at answer hasCourse
  cases course with
  | item closing record rest =>
      refine ⟨closing, record, rest, rfl, ?_⟩
      rw [advanceOf] at hasCourse
      split at hasCourse
      · next atLimit => rwa [if_pos atLimit]
      · next beyond => rwa [if_neg beyond]
  | failure => cases answer
  | ended closing last => cases last <;> cases answer

theorem HasCourse.of_next_false (hasCourse : HasCourse scene place course)
    (isOpen : place.isOpen = true)
    (ended : Cursor.next.run scene = (.ok false, after)) :
    (∃ closing, course = .ended closing (.ok ())) ∧
      HasCourse after place.cleared Course.spent := by
  obtain ⟨answer, hasCourse⟩ := hasCourse.next isOpen
  rw [ended] at answer hasCourse
  cases course with
  | item _ record rest =>
      rw [advanceOf] at answer
      split at answer
      · cases closing : rest.closing <;> rw [closing] at answer <;> cases answer
      · cases answer
  | failure => cases answer
  | ended closing last =>
      cases last with
      | ok => exact ⟨⟨closing, rfl⟩, hasCourse⟩
      | error => cases answer

/-- An advance fails with a failure of the course, or one to release it. -/
theorem HasCourse.of_next_error {items : Option ρ → Prop} {kind : Fault → Prop}
    (hasCourse : HasCourse scene place course) (isOpen : place.isOpen = true)
    (obeys : course.Obeys items kind kind)
    (failed : Cursor.next.run scene = (.error fault, after)) : kind fault := by
  obtain ⟨answer, _⟩ := hasCourse.next isOpen
  rw [failed] at answer
  cases course with
  | item _ record rest =>
      rw [advanceOf] at answer
      split at answer
      · cases closing : rest.closing with
        | ok =>
            rw [closing] at answer
            cases answer
        | error =>
            rw [closing] at answer
            cases answer
            exact (Course.obeys_item.mp obeys).2.2.ofClosing closing
      · cases answer
  | failure =>
      cases answer
      exact (Course.obeys_failure.mp obeys).2.1
  | ended closing last =>
      cases last with
      | ok => cases answer
      | error =>
          cases answer
          exact (Course.obeys_ended.mp obeys).2 _ rfl

/-! ## Advancing to the end -/

/-- Advancing until no record is left: the records that became current, how it
ends, and where. -/
inductive Walk : Scene (Cursor σ ρ τ) → List ρ → Except Fault Unit → Scene (Cursor σ ρ τ) →
    Prop where
  | more {scene between last : Scene (Cursor σ ρ τ)} {record : ρ} {records : List ρ}
      {outcome : Except Fault Unit} :
      Cursor.next.run scene = (.ok true, between) → between.state.current = some record →
      Walk between records outcome last → Walk scene (record :: records) outcome last
  | ended {scene last : Scene (Cursor σ ρ τ)} :
      Cursor.next.run scene = (.ok false, last) → Walk scene [] (.ok ()) last
  | failed {scene last : Scene (Cursor σ ρ τ)} {fault : Fault} :
      Cursor.next.run scene = (.error fault, last) → Walk scene [] (.error fault) last

/-- No record of the course is missing, and its failures are no stop signals. -/
abbrev WellFormed (course : Course (Option ρ)) : Prop :=
  course.Obeys (fun record => record.isSome) (fun fault => fault.isStop = false)
    (fun fault => fault.isStop = false)

/-- No record of the course is missing, and nothing of it fails. -/
abbrev FaultFree (course : Course (Option ρ)) : Prop :=
  course.Obeys (fun record => record.isSome) (fun _ => False) fun _ => False

theorem faultFree_ofItems (left : List ρ) : FaultFree (Course.ofItems (left.map some)) := by
  apply Course.Obeys.ofItems
  intro record member
  obtain ⟨_, _, rfl⟩ := List.mem_map.mp member
  rfl

theorem FaultFree.wellFormed (faultFree : FaultFree course) : WellFormed course :=
  ⟨faultFree.item, fun fault member => (faultFree.failure fault member).elim,
    fun fault member => (faultFree.closing fault member).elim⟩

/-- An advance onto a record leaves a sound course sound. -/
theorem HasCourse.wellFormed_of_next_true (hasCourse : HasCourse scene place course)
    (isOpen : place.isOpen = true)
    (wellFormed : WellFormed course) (moved : Cursor.next.run scene = (.ok true, after)) :
    ∃ closing record rest, course = .item closing (some record) rest ∧
      after.state.current = some record ∧
      HasCourse after (place.onto (some record))
        (if place.position + 1 = place.limit then Course.spent else rest) ∧
      WellFormed (if place.position + 1 = place.limit then Course.spent else rest) := by
  obtain ⟨closing, record?, rest, rfl, later⟩ := hasCourse.of_next_true isOpen moved
  obtain ⟨_, present, wellFormedRest⟩ := Course.obeys_item.mp wellFormed
  obtain ⟨record, rfl⟩ := Option.isSome_iff_exists.mp present
  refine ⟨closing, record, rest, rfl, ?_, later, ?_⟩
  · exact congrArg Place.current later.place_eq
  · split
    · exact .spent
    · exact wellFormedRest

/-- A cursor can always be advanced to its end. -/
theorem exists_walk (hasCourse : HasCourse scene place course) (isOpen : place.isOpen = true)
    (wellFormed : WellFormed course) : ∃ records outcome last, Walk scene records outcome last := by
  fun_induction Cursor.drainFrom scene generalizing place course with
  | case1 scene after moved ih =>
      obtain ⟨closing, record, rest, rfl, current, hasCourse, wellFormed⟩ :=
        hasCourse.wellFormed_of_next_true isOpen wellFormed moved
      obtain ⟨records, outcome, last, walk⟩ := ih hasCourse isOpen wellFormed
      exact ⟨record :: records, outcome, last, .more moved current walk⟩
  | case2 scene after ended => exact ⟨[], .ok (), after, .ended ended⟩
  | case3 scene fault after failed => exact ⟨[], .error fault, after, .failed failed⟩

/-- Before the first record a bulk reading is an advance, and a bulk reading from the record
that it finds. -/
theorem run_list_of_unmoved {map : Place ρ → Except Fault α} (isOpen : scene.state.isOpen = true)
    (unmoved : scene.state.position = -1) (noRecord : scene.state.current = none) :
    (Cursor.list map).run scene =
      match Cursor.next.run scene with
      | (.ok true, after) => (gather (Place.inCoroutine map)).run after
      | (.ok false, after) => (.ok [], after)
      | (.error fault, after) => (.error fault, after) := by
  have advanced := run_next_of_open isOpen
  rw [list, run_requireOpen_of_open isOpen, Action.run_bind, Action.run_present]
  simp only [unmoved, if_true, Action.run_bind]
  rcases looked : (onAhead LookAhead.hasNext).run scene with ⟨fault | _ | _, between⟩
  · rw [looked] at advanced
    rw [advanced]
  · have same := toPlace_of_hasNext looked
    rw [looked] at advanced
    simp only [withState_cleared ((congrArg Place.current same).trans noRecord)] at advanced
    rw [advanced]
    rfl
  · simp only [if_true, Action.run_bind, run_next_of_hasNext isOpen looked]
    rw [looked] at advanced
    rcases moved : Cursor.next.run scene with ⟨_ | _ | _, after⟩
    · rfl
    · -- An advance that was told of a record does not miss it.
      rw [moved] at advanced
      cases stepped : (step.run between).1 <;> simp [stepped, Except.map] at advanced
    · rfl

/-- From the first record on a bulk reading starts with the current one. -/
theorem run_list_of_first {map : Place ρ → Except Fault α} (isOpen : scene.state.isOpen = true)
    (first : scene.state.position = 0) :
    (Cursor.list map).run scene = (gather (Place.inCoroutine map)).run scene := by
  have moved : ¬(0 : Int) = -1 := by omega
  rw [list, run_requireOpen_of_open isOpen, Action.run_bind, Action.run_present]
  simp only [first, if_true, if_neg moved]

namespace Walk

theorem drainFrom_eq (walk : Walk scene records outcome last) :
    Cursor.drainFrom scene = (outcome, last) := by
  induction walk with
  | more moved _ _ ih =>
      rw [Cursor.drainFrom_eq, moved]
      exact ih
  | ended ended => rw [Cursor.drainFrom_eq, ended]
  | failed failed => rw [Cursor.drainFrom_eq, failed]

theorem skipUpTo_eq (walk : Walk scene records outcome last) {wanted : Nat}
    (enough : records.length < wanted) :
    (Cursor.skipUpTo wanted).run scene = (outcome.map fun _ => records.length, last) := by
  induction walk generalizing wanted with
  | @more _ _ _ _ _ outcome moved _ _ ih =>
      cases wanted with
      | zero => simp at enough
      | succ wanted =>
          have others := ih (Nat.lt_of_succ_lt_succ enough)
          rw [run_skipUpTo_succ, moved]
          simp only [others]
          cases outcome <;> rfl
  | ended ended =>
      cases wanted with
      | zero => simp at enough
      | succ wanted =>
          rw [run_skipUpTo_succ, ended]
          rfl
  | failed failed =>
      cases wanted with
      | zero => simp at enough
      | succ wanted =>
          rw [run_skipUpTo_succ, failed]
          rfl

theorem collectFrom_eq (walk : Walk scene records outcome last)
    (hasCourse : HasCourse scene place course)
    (isOpen : place.isOpen = true) (wellFormed : WellFormed course) :
    Source.collectFrom none scene = (outcome.map fun _ => records.map some, last) := by
  have unbounded : (none : Option Nat) ≠ some 0 := nofun
  induction walk generalizing place course with
  | @more _ _ _ _ _ outcome moved current _ ih =>
      obtain ⟨closing, record, rest, rfl, _, hasCourse, wellFormed⟩ :=
        hasCourse.wellFormed_of_next_true isOpen wellFormed moved
      have others := ih hasCourse isOpen wellFormed
      rw [Cursor.collectFrom_eq unbounded, advance, Action.run_bind, moved]
      simp only [if_true, Action.run_bind, Action.run_present, Action.run_pure, current,
        Option.map_none, others]
      cases outcome <;> rfl
  | ended ended =>
      rw [Cursor.collectFrom_eq unbounded, advance, Action.run_bind, ended]
      rfl
  | failed failed =>
      have goesOn := hasCourse.of_next_error isOpen wellFormed failed
      rw [Cursor.collectFrom_eq unbounded, advance, Action.run_bind, failed]
      simp [goesOn, Except.map]

/-- The same walk after the current record, taken by a mapping that gives a value
on every record. -/
theorem gatherFrom_eq (walk : Walk scene records outcome last)
    (hasCourse : HasCourse scene place course)
    (isOpen : place.isOpen = true) (wellFormed : WellFormed course) {map : Place ρ → Except Fault α}
    {value : ρ → α} (maps : Place.Maps map value)
    {record : ρ} (current : scene.state.current = some record) :
    Cursor.gatherFrom map scene = (outcome.map fun _ => (record :: records).map value, last) := by
  have first := maps scene.state.toPlace record (hasCourse.isOpen_eq.trans isOpen) current
  rw [gatherFrom_of_ok current first]
  induction walk generalizing place course record with
  | @more _ _ _ _ _ outcome moved next _ ih =>
      obtain ⟨_, _, rest, rfl, _, hasCourse, wellFormed⟩ :=
        hasCourse.wellFormed_of_next_true isOpen wellFormed moved
      have second := maps _ _ (hasCourse.isOpen_eq.trans isOpen) next
      have others := ih hasCourse isOpen wellFormed next second
      rw [moved]
      simp only [gatherFrom_of_ok next second, others]
      cases outcome <;> rfl
  | ended ended =>
      rw [ended]
      rfl
  | failed failed =>
      rw [failed]
      rfl

theorem length_le (walk : Walk scene records outcome last)
  (hasCourse : HasCourse scene place course)
    (isOpen : place.isOpen = true) (wellFormed : WellFormed course) :
    records.length ≤ course.items.length := by
  induction walk generalizing place course with
  | more moved _ _ ih =>
      obtain ⟨closing, record, rest, rfl, _, hasCourse, wellFormed⟩ :=
        hasCourse.wellFormed_of_next_true isOpen wellFormed moved
      refine Nat.succ_le_succ (Nat.le_trans (ih hasCourse isOpen wellFormed) ?_)
      split
      · exact Nat.zero_le _
      · exact Nat.le_refl _
  | ended => exact Nat.zero_le _
  | failed => exact Nat.zero_le _

/-- A walk that does not fail reaches all that can be reached, and leaves
nothing. -/
theorem of_ok (walk : Walk scene records (.ok ()) last) (hasCourse : HasCourse scene place course)
    (isOpen : place.isOpen = true) (wellFormed : WellFormed course) :
    records.map some = place.reachable course ∧ last.state.ahead.stage = .exhausted ∧
      last.state.toPlace =
        { place with current := none, position := place.position + records.length } := by
  generalize succeeded : (.ok () : Except Fault Unit) = outcome at walk
  induction walk generalizing place course with
  | more moved current _ ih =>
      obtain ⟨closing, record, rest, rfl, became, hasCourse, wellFormed⟩ :=
        hasCourse.wellFormed_of_next_true isOpen wellFormed moved
      obtain ⟨reached, exhausted, stands⟩ := ih hasCourse isOpen wellFormed succeeded
      cases current.symm.trans became
      refine ⟨?_, exhausted, ?_⟩
      · rw [Place.reachable_item, List.map_cons, reached]
      · rw [stands]
        simp only [Place.onto, List.length_cons, Place.mk.injEq, and_true, true_and]
        omega
  | ended ended =>
      obtain ⟨⟨closing, rfl⟩, after⟩ := hasCourse.of_next_false isOpen ended
      refine ⟨?_, exhausted_of_next_false ended, ?_⟩
      · simp [Place.reachable]
      · rw [after.place_eq]
        simp [Place.cleared]
  | failed => cases succeeded

/-- A walk does not fail where nothing fails. -/
theorem outcome_of_faultFree (walk : Walk scene records outcome last)
    (hasCourse : HasCourse scene place course) (isOpen : place.isOpen = true)
    (faultFree : FaultFree course) : outcome = .ok () := by
  induction walk generalizing place course with
  | ended => rfl
  | failed failed => exact (hasCourse.of_next_error isOpen faultFree failed).elim
  | more moved _ _ ih =>
      obtain ⟨closing, record, rest, rfl, later⟩ := hasCourse.of_next_true isOpen moved
      apply ih later isOpen
      split
      · exact .spent
      · exact (Course.obeys_item.mp faultFree).2.2

theorem summarize_eq (walk : Walk scene records outcome last)
    (hasCourse : HasCourse scene place course)
    (isOpen : place.isOpen = true) (wellFormed : WellFormed course) :
    Cursor.summarize.run scene = (outcome.map fun _ => last.state.summaryNow, last) := by
  rw [summarize, Action.run_bind]
  simp only [walk.drainFrom_eq]
  cases outcome with
  | error fault => rfl
  | ok =>
      obtain ⟨_, exhausted, _⟩ := walk.of_ok hasCourse isOpen wellFormed
      simp only [Action.run_bind, run_discard_of_exhausted exhausted]
      rfl

theorem gather_eq (walk : Walk scene records outcome last)
  (hasCourse : HasCourse scene place course)
    (isOpen : place.isOpen = true) (wellFormed : WellFormed course) {map : Place ρ → Except Fault α}
    {value : ρ → α} (maps : Place.Maps map value)
    {record : ρ} (current : scene.state.current = some record) :
    (Cursor.gather map).run scene =
      (outcome.map fun _ => (record :: records).map value, last) := by
  rw [gather, Action.run_bind]
  simp only [walk.gatherFrom_eq hasCourse isOpen wellFormed maps current]
  cases outcome with
  | error fault => rfl
  | ok =>
      obtain ⟨_, exhausted, _⟩ := walk.of_ok hasCourse isOpen wellFormed
      simp only [Except.map, Action.run_bind, run_discard_of_exhausted exhausted]
      rfl

theorem list_eq_of_unmoved (walk : Walk scene records outcome last)
    (hasCourse : HasCourse scene place course) (isOpen : place.isOpen = true)
    (wellFormed : WellFormed course)
    (noRecord : scene.state.current = none) {map : Place ρ → Except Fault α} {value : ρ → α}
    (maps : Place.Maps map value)
    (unmoved : scene.state.position = -1) :
    (Cursor.list map).run scene = (outcome.map fun _ => records.map value, last) := by
  rw [run_list_of_unmoved (hasCourse.isOpen_eq.trans isOpen) unmoved noRecord]
  cases walk with
  | more moved current walk =>
      obtain ⟨closing, record, rest, rfl, _, hasCourse, wellFormed⟩ :=
        hasCourse.wellFormed_of_next_true isOpen wellFormed moved
      rw [moved]
      exact walk.gather_eq hasCourse isOpen wellFormed maps.inCoroutine current
  | ended ended =>
      rw [ended]
      rfl
  | failed failed =>
      rw [failed]
      rfl

theorem list_eq (walk : Walk scene records outcome last) (hasCourse : HasCourse scene place course)
    (isOpen : place.isOpen = true) (wellFormed : WellFormed course)
    (currentInvariant : CurrentInvariant scene)
    {map : Place ρ → Except Fault α} {value : ρ → α} (maps : Place.Maps map value)
    (atFirst : scene.state.position = -1 ∨ scene.state.position = 0) :
    (Cursor.list map).run scene =
      (outcome.map fun _ => (scene.state.current.toList ++ records).map value, last) := by
  rcases atFirst with unmoved | first
  · have noRecord := currentInvariant.unmoved unmoved
    rw [noRecord]
    exact walk.list_eq_of_unmoved hasCourse isOpen wellFormed noRecord maps unmoved
  · have openScene := hasCourse.isOpen_eq.trans isOpen
    rw [run_list_of_first openScene first]
    cases current : scene.state.current with
    | some record => exact walk.gather_eq hasCourse isOpen wellFormed maps.inCoroutine current
    | none =>
        -- The last advance found the end, and so does the next one.
        have exhausted : scene.state.ahead.stage = .exhausted :=
          (currentInvariant.exhausted current).resolve_left (by omega)
        have advanced := run_next_of_open openScene
        rw [run_hasNext_of_exhausted exhausted] at advanced
        simp only [withState_cleared current] at advanced
        cases walk with
        | more moved => cases moved.symm.trans advanced
        | failed failed => cases failed.symm.trans advanced
        | ended ended =>
            cases ended.symm.trans advanced
            rw [gather, Action.run_bind]
            simp only [gatherFrom_of_none current, Action.run_bind,
              run_discard_of_exhausted exhausted]
            rfl

end Walk

/-! ## Every way to the end -/

section Operations

variable {σ τ : Type} [Source σ (Option Record)]

/-- All ways to read a cursor to its end pass the same records, end in the same
way and in the same scene. -/
structure Drains (scene : Scene (Cursor σ Record τ)) (left : Course (Option Record))
    (records : List Record) (outcome : Except Fault Unit) (last : Scene (Cursor σ Record τ)) :
    Prop where
  walk : Walk scene records outcome last
  collect : (perform (.collect none)).run scene =
    (outcome.map fun _ => .value (.list (records.map Record.toValue)), last)
  skip : ∀ count : Int, left.items.length < count →
    (perform (.skip count)).run scene = (outcome.map fun _ => .value (.int records.length), last)
  summarize : (perform .summarize).run scene =
    (outcome.map fun _ => .summary last.state.summaryNow, last)
  list : scene.state.position = -1 ∨ scene.state.position = 0 →
    (perform (.list Place.recordValue)).run scene =
      (outcome.map fun _ =>
        .value (.list ((scene.state.current.toList ++ records).map Record.toValue)), last)
  finish : outcome = .ok () →
    records.map some = scene.state.toPlace.reachable left ∧
      last.state.ahead.stage = .exhausted ∧
      last.state.toPlace =
        { scene.state.toPlace with
          current := none, position := scene.state.position + records.length }

theorem Walk.drains {scene last : Scene (Cursor σ Record τ)} {left : Course (Option Record)}
    {records : List Record} {outcome : Except Fault Unit}
    (walk : Walk scene records outcome last) (hasCourse : HasCourse scene scene.state.toPlace left)
    (isOpen : scene.state.isOpen = true) (wellFormed : WellFormed left)
    (currentInvariant : CurrentInvariant scene) :
    Drains scene left records outcome last where
  walk := walk
  collect := by
    rw [perform, run_answering, Source.collect]
    simp only [walk.collectFrom_eq hasCourse isOpen wellFormed]
    cases outcome with
    | error => rfl
    | ok =>
        simp only [Except.map, List.map_map]
        rfl
  skip := by
    intro count enough
    have fewer := walk.length_le hasCourse isOpen wellFormed
    have notNegative : ¬count < 0 := by omega
    have wanted : records.length < count.toNat := by omega
    rw [perform, run_answering, skip, if_neg notNegative, run_requireOpen_of_open isOpen,
      walk.skipUpTo_eq wanted]
    cases outcome <;> rfl
  summarize := by
    rw [perform, Action.run_bind, walk.summarize_eq hasCourse isOpen wellFormed]
    cases outcome <;> rfl
  list := by
    intro atFirst
    have listed :=
      walk.list_eq hasCourse isOpen wellFormed currentInvariant Place.maps_recordValue atFirst
    rw [perform, run_answering, listed]
    cases outcome <;> rfl
  finish := by
    rintro rfl
    exact walk.of_ok hasCourse isOpen wellFormed

/-- All ways of draining agree, from every open cursor that operations lead to. -/
theorem draining_agrees {keys : List Value} {source : σ} {summary : σ → τ} {clock : Clock}
    {journal : List Message} {course : Course (Option Record)}
    (follows : Source.Follows source clock course)
    (noneMissing : ∀ record, .ok record ∈ course.events → record.isSome)
    (closingsGoOn : ∀ fault, .error fault ∈ course.closings → fault.isStop = false)
    (operations : List CursorOperation)
    (isOpen : (sceneAfter operations
      ⟨ofSource keys source summary, clock, journal⟩).state.isOpen = true) :
    let scene := sceneAfter operations ⟨ofSource keys source summary, clock, journal⟩
    ∃ left records outcome last, HasCourse scene scene.state.toPlace left ∧
      Drains scene left records outcome last := by
  intro scene
  have wellFormed : WellFormed course :=
    ⟨noneMissing, fun fault member => follows.isStop_eq_false member, closingsGoOn⟩
  have hasCourse : HasCourse ⟨ofSource keys source summary, clock, journal⟩ { keys } course :=
    .ofSource journal follows
  have reached : RecordsOnly scene ∧ CurrentInvariant scene :=
    keeps_sceneAfter CurrentInvariant.move operations
      ⟨⟨_, course, hasCourse, wellFormed⟩, .ofSource ..⟩
  obtain ⟨⟨place, left, hasCourse, wellFormed⟩, currentInvariant⟩ := reached
  have stands : HasCourse scene scene.state.toPlace left := ⟨rfl, hasCourse.leaves⟩
  obtain ⟨records, outcome, last, walk⟩ := exists_walk stands isOpen wellFormed
  exact ⟨left, records, outcome, last, stands,
    walk.drains stands isOpen wellFormed currentInvariant⟩

/-- The ways to the end agree after an iterator failed once. -/
theorem draining_faltering_agrees :
    let scene := sceneAfter [.peek, .next, .next, .limit 1]
      (⟨ofSource [.string "n"] Script.faltering fun _ => (), {}, []⟩ :
        Scene (Cursor (Script (Option Record)) Record Unit))
    ∃ left records outcome last, HasCourse scene scene.state.toPlace left ∧
      Drains scene left records outcome last := by
  have obeys := Script.obeys_faltering
  apply draining_agrees (Script.follows_faltering {}) obeys.item
  · intro fault member
    exact (obeys.closing fault member).1
  · rfl

end Operations

end Cursor

end QueryCursor
