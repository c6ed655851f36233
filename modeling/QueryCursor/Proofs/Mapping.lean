import QueryCursor.Proofs.Release
import QueryCursor.Proofs.Skipping
import QueryCursor.Proofs.Whereabouts

/-!
# Reading in bulk through a mapping

A bulk reading takes a mapping to the records from the first one on, in order, with the
cursor on each of them.  A mapping that fails ends it there: the cursor stays on the record
that the mapping has failed on, and goes on to have all those after it before it.
-/

namespace QueryCursor

namespace Place

variable {ρ : Type}

/-- The place on a record at a position. -/
def visit (place : Place ρ) (position : Int) (record : ρ) : Place ρ :=
  { place with position, current := some record }

/-- The places on records that are visited one after the other, from a position on. -/
def visits (place : Place ρ) (position : Int) : List ρ → List (Place ρ)
  | [] => []
  | record :: records => place.visit position record :: place.visits (position + 1) records

@[simp] theorem visit_visit (place : Place ρ) (position position' : Int) (record record' : ρ) :
    (place.visit position' record').visit position record = place.visit position record := rfl

@[simp] theorem position_visit (place : Place ρ) (position : Int) (record : ρ) :
    (place.visit position record).position = position := rfl

@[simp] theorem visits_visit (place : Place ρ) (position position' : Int) (record : ρ)
    (records : List ρ) :
    (place.visit position' record).visits position records = place.visits position records := by
  induction records generalizing position with
  | nil => rfl
  | cons first records ih => simp only [visits, visit_visit, ih]

/-- A place with a current record is the visit of it. -/
theorem visit_current {place : Place ρ} {record : ρ} (current : place.current = some record) :
    place.visit place.position record = place := by
  obtain ⟨keys, position, limit, isOpen, _⟩ := place
  cases current
  rfl

theorem inCoroutine_of_ok {α : Type} {map : Place ρ → Except Fault α} {place : Place ρ} {value : α}
    (mapped : map place = .ok value) : inCoroutine map place = .ok value := by
  rw [inCoroutine, mapped]
  rfl

theorem inCoroutine_of_error {α : Type} {map : Place ρ → Except Fault α} {place : Place ρ}
    {fault : Fault} (failed : map place = .error fault) :
    inCoroutine map place = .error fault.leavingCoroutine := by
  rw [inCoroutine, failed]
  rfl

/-- It does not matter whether each failure leaves the coroutine or that of all places. -/
theorem mapM_inCoroutine {α : Type} (map : Place ρ → Except Fault α) (places : List (Place ρ)) :
    places.mapM (inCoroutine map) = (places.mapM map).mapError Fault.leavingCoroutine := by
  induction places with
  | nil => rfl
  | cons place places ih =>
      rw [List.mapM_cons, List.mapM_cons, ih]
      cases mapped : map place with
      | error fault =>
          rw [inCoroutine_of_error mapped]
          rfl
      | ok value =>
          rw [inCoroutine_of_ok mapped]
          cases places.mapM map <;> rfl

theorem onto_eq_visit (place : Place ρ) (record : ρ) :
    place.onto (some record) = place.visit (place.position + 1) record := rfl

end Place

namespace Cursor

variable {σ ρ τ α : Type} [Source σ (Option ρ)] {scene last : Scene (Cursor σ ρ τ)}
  {records : List ρ}

/-! ## Where a cursor stands among records -/

/-- The current record is the one at the position of the cursor, and the records after that
position are before it, unless the rest has been given up. -/
structure RecordInvariant (records : List ρ) (scene : Scene (Cursor σ ρ τ)) : Prop where
  start_le : -1 ≤ scene.state.position
  current : ∀ record, scene.state.current = some record →
    0 ≤ scene.state.position ∧ records[scene.state.position.toNat]? = some record
  left : scene.state.ahead.stage ≠ .exhausted →
    HasCourse scene scene.state.toPlace
      (.ofItems ((records.drop (scene.state.position + 1).toNat).map some))

namespace RecordInvariant

theorem ofSource {keys : List Value} {source : σ} {summary : σ → τ} {clock : Clock}
    (journal : List Message) (follows : Source.Follows source clock (.ofItems (records.map some))) :
    RecordInvariant records ⟨Cursor.ofSource keys source summary, clock, journal⟩ where
  start_le := Int.le_refl _
  current := nofun
  left _ := .ofSource journal follows

theorem courseInvariant (invariant : RecordInvariant records scene) :
    CourseInvariant (.ofItems (records.map some)) scene := by
  refine ⟨invariant.start_le, ?_, fun left => ⟨_, invariant.left left, ?_⟩⟩
  · intro record current
    obtain ⟨started, found⟩ := invariant.current record current
    rw [Course.items_ofItems, List.getElem?_map, found]
    exact ⟨started, rfl⟩
  · rw [Course.items_ofItems, Course.items_ofItems, List.map_drop]

/-- The invariant for a course of records is the one for the records, as long as nothing fails of
what is left. -/
theorem ofCourseInvariant (courseInvariant : CourseInvariant (.ofItems (records.map some)) scene)
    (faultFree : scene.state.ahead.stage ≠ .exhausted →
      Awaits (fun record => record.isSome) (fun _ => False) (fun _ => False) scene) :
    RecordInvariant records scene := by
  refine ⟨courseInvariant.start_le, ?_, ?_⟩
  · intro record current
    obtain ⟨started, found⟩ := courseInvariant.current record current
    rw [Course.items_ofItems, List.getElem?_map] at found
    obtain ⟨_, found, ⟨⟩⟩ := Option.map_eq_some_iff.mp found
    exact ⟨started, found⟩
  · intro left
    obtain ⟨rest, hasCourse, items⟩ := courseInvariant.left left
    rw [Course.items_ofItems, ← List.map_drop] at items
    rw [← items, ← ((faultFree left).obeys hasCourse).eq_ofItems]
    exact hasCourse

theorem move (move : Move) (scene : Scene (Cursor σ ρ τ)) (allowed : move.Allowed scene.state)
    (invariant : RecordInvariant records scene) :
    RecordInvariant records (move.action.run scene).2 := by
  refine .ofCourseInvariant (invariant.courseInvariant.move move scene allowed) fun left => ?_
  have leftBefore : scene.state.ahead.stage ≠ .exhausted := by
    intro exhausted
    rw [(Progress.move move scene allowed).ahead_eq exhausted] at left
    exact left exhausted
  exact Awaits.move move scene allowed ⟨_, _, invariant.left leftBefore, faultFree_ofItems _⟩

end RecordInvariant

/-! ## Visiting -/

/-- An advance from a visit onto a record is the visit of it. -/
theorem toPlace_of_moved {after : Scene (Cursor σ ρ τ)} {record : ρ}
    (moved : Cursor.next.run scene = (.ok true, after))
    (current : after.state.current = some record) :
    after.state.toPlace = scene.state.toPlace.visit (scene.state.position + 1) record := by
  obtain ⟨record', stands⟩ := toPlace_of_next_true moved
  rw [stands] at current
  rw [stands, ← Place.onto_eq_visit, ← current]
  rfl

/-- A mapping that does not fail is taken to every record that a walk passes, the current
one first. -/
theorem Walk.gatherFrom_visits {later : List ρ} (walk : Walk scene later (.ok ()) last)
    (map : Place ρ → Except Fault α) {first : ρ} (current : scene.state.current = some first) :
    (gatherFrom map scene).1 =
        (scene.state.toPlace.visits scene.state.position (first :: later)).mapM map ∧
      ∀ values, (gatherFrom map scene).1 = .ok values → (gatherFrom map scene).2 = last := by
  generalize succeeded : (.ok () : Except Fault Unit) = outcome at walk
  induction walk generalizing first with
  | failed => cases succeeded
  | ended ended =>
      rw [Place.visits, Place.visit_current current, List.mapM_cons]
      cases mapped : map _ with
      | error fault =>
          rw [gatherFrom_of_error current mapped]
          exact ⟨rfl, nofun⟩
      | ok value =>
          rw [gatherFrom_of_ok current mapped, ended]
          exact ⟨rfl, fun _ _ => rfl⟩
  | @more scene between last second later outcome moved became walk ih =>
      obtain ⟨answer, leads⟩ := ih became succeeded
      rw [Place.visits, Place.visit_current current, List.mapM_cons]
      cases mapped : map scene.state.toPlace with
      | error fault =>
          rw [gatherFrom_of_error current mapped]
          exact ⟨rfl, nofun⟩
      | ok value =>
          rw [toPlace_of_moved moved became, Place.visits_visit, Place.position_visit] at answer
          rw [gatherFrom_of_ok current mapped, moved]
          simp only [← answer]
          rcases gathered : gatherFrom map between with ⟨_ | values, after⟩
          · exact ⟨rfl, nofun⟩
          · rw [gathered] at leads
            exact ⟨rfl, fun _ _ => leads values rfl⟩

/-- A mapping that fails on a record ends the reading there, with the cursor on it. -/
theorem Walk.gatherFrom_interrupted {later earlier rest : List ρ} {first here : ρ}
    (walk : Walk scene later (.ok ()) last) {map : Place ρ → Except Fault α} {fault : Fault}
    (current : scene.state.current = some first)
    (split : first :: later = earlier ++ here :: rest)
    (each : ∀ stop ∈ scene.state.toPlace.visits scene.state.position earlier,
      ∃ value, map stop = .ok value)
    (failed : map (scene.state.toPlace.visit (scene.state.position + earlier.length) here) =
      .error fault) :
    ∃ after, gatherFrom map scene = (.error fault, after) ∧
      after.state.toPlace =
        scene.state.toPlace.visit (scene.state.position + earlier.length) here ∧
      Walk after rest (.ok ()) last := by
  induction earlier generalizing scene first later with
  | nil =>
      obtain ⟨rfl, rfl⟩ := List.cons.inj split
      have stands := Place.visit_current current
      simp only [List.length_nil, Int.natCast_zero, Int.add_zero, stands] at failed ⊢
      exact ⟨scene, gatherFrom_of_error current failed, rfl, walk⟩
  | cons record earlier ih =>
      obtain ⟨rfl, following⟩ := List.cons.inj split
      obtain ⟨value, mapped⟩ := each _ List.mem_cons_self
      rw [Place.visit_current current] at mapped
      cases walk with
      | ended => simp at following
      | more moved became walk =>
          have stands := toPlace_of_moved moved became
          have position : scene.state.position + 1 + earlier.length =
              scene.state.position + (first :: earlier).length := by
            rw [List.length_cons]
            omega
          have interrupted := ih walk became following
          rw [stands] at interrupted
          simp only [Place.visits_visit, Place.visit_visit, Place.position_visit,
            position] at interrupted
          obtain ⟨after, gathered, placed, walk⟩ :=
            interrupted (fun stop member => each stop (List.mem_cons_of_mem _ member)) failed
          refine ⟨after, ?_, placed, walk⟩
          rw [gatherFrom_of_ok current mapped, moved]
          simp only [gathered]
          rfl

/-! ## Reading from the first record on -/

/-- A cursor with records to visit from the first one on: it is before that one or on it, and
advances over the others to the end. -/
structure ListStart (visited : List ρ) (scene : Scene (Cursor σ ρ τ)) : Prop where
  isOpen : scene.state.isOpen = true
  atFirst : (scene.state.position = -1 ∧ scene.state.current = none) ∨
    (scene.state.position = 0 ∧ scene.state.current = visited.head? ∧
      (visited = [] → scene.state.ahead.stage = .exhausted))
  walk : ∃ last, Walk scene (visited.drop scene.state.current.toList.length) (.ok ()) last ∧
    last.state.ahead.stage = .exhausted

namespace ListStart

theorem list_nil (listStart : ListStart [] scene) (map : Place ρ → Except Fault α) :
    ∃ after, (Cursor.list map).run scene = (.ok [], after) := by
  obtain ⟨last, walk, _⟩ := listStart.walk
  rw [List.drop_nil] at walk
  rcases listStart.atFirst with ⟨unmoved, noRecord⟩ | ⟨first, noRecord, exhausted⟩
  · rw [run_list_of_unmoved listStart.isOpen unmoved noRecord]
    cases walk with
    | ended ended =>
        rw [ended]
        exact ⟨_, rfl⟩
  · rw [run_list_of_first listStart.isOpen first, run_gather, gatherFrom_of_none noRecord]
    simp only [run_discard_of_exhausted (exhausted rfl)]
    exact ⟨_, rfl⟩

theorem list_cons {first : ρ} {later : List ρ} (listStart : ListStart (first :: later) scene)
    (map : Place ρ → Except Fault α) :
    ∃ between last, (Cursor.list map).run scene = (gather (Place.inCoroutine map)).run between ∧
      between.state.toPlace = scene.state.toPlace.visit 0 first ∧
      Walk between later (.ok ()) last ∧ last.state.ahead.stage = .exhausted := by
  obtain ⟨last, walk, exhausted⟩ := listStart.walk
  rcases listStart.atFirst with ⟨unmoved, noRecord⟩ | ⟨onFirst, current, _⟩
  · rw [noRecord] at walk
    rw [run_list_of_unmoved listStart.isOpen unmoved noRecord]
    cases walk with
    | more moved became walk =>
        have stands := toPlace_of_moved moved became
        rw [unmoved] at stands
        rw [moved]
        exact ⟨_, last, rfl, stands, walk, exhausted⟩
  · rw [List.head?_cons] at current
    rw [current] at walk
    rw [run_list_of_first listStart.isOpen onFirst]
    refine ⟨scene, last, rfl, ?_, walk, exhausted⟩
    rw [← onFirst, Place.visit_current current]

/-- The mapping is taken to every record, in order and with the cursor on it. -/
theorem list_eq_mapM {visited : List ρ} (listStart : ListStart visited scene)
    (map : Place ρ → Except Fault α) :
    ((Cursor.list map).run scene).1 =
      ((scene.state.toPlace.visits 0 visited).mapM map).mapError Fault.leavingCoroutine := by
  rw [← Place.mapM_inCoroutine]
  cases visited with
  | nil =>
      obtain ⟨after, listed⟩ := listStart.list_nil map
      rw [listed]
      rfl
  | cons first later =>
      obtain ⟨between, last, listed, stands, walk, exhausted⟩ := listStart.list_cons map
      have current : between.state.current = some first := congrArg Place.current stands
      obtain ⟨answer, leads⟩ := walk.gatherFrom_visits (Place.inCoroutine map) current
      rw [stands, Place.visits_visit, Place.position_visit] at answer
      rw [listed, ← answer, run_gather]
      rcases gathered : gatherFrom (Place.inCoroutine map) between with ⟨_ | values, after⟩
      · rfl
      · rw [gathered] at leads
        obtain rfl : after = last := leads values rfl
        simp only [run_discard_of_exhausted exhausted]
        rfl

/-- A mapping that fails on a record ends the reading there, and the cursor is on that
record then, with the later ones still before it. -/
theorem list_interrupted {earlier later : List ρ} {here : ρ}
    (listStart : ListStart (earlier ++ here :: later) scene) {map : Place ρ → Except Fault α}
    {fault : Fault}
    (each : ∀ stop ∈ scene.state.toPlace.visits 0 earlier, ∃ value, map stop = .ok value)
    (failed : map (scene.state.toPlace.visit earlier.length here) = .error fault) :
    ∃ after last, (Cursor.list map).run scene = (.error fault.leavingCoroutine, after) ∧
      after.state.toPlace = scene.state.toPlace.visit earlier.length here ∧
      Walk after later (.ok ()) last ∧ last.state.ahead.stage = .exhausted := by
  generalize split : earlier ++ here :: later = visited at listStart
  cases visited with
  | nil => simp at split
  | cons first others =>
      obtain ⟨between, last, listed, stands, walk, exhausted⟩ := listStart.list_cons map
      have current : between.state.current = some first := congrArg Place.current stands
      have eachBetween : ∀ stop ∈ between.state.toPlace.visits between.state.position earlier,
          ∃ value, Place.inCoroutine map stop = .ok value := by
        rw [stands, Place.visits_visit, Place.position_visit]
        intro stop member
        obtain ⟨value, mapped⟩ := each stop member
        exact ⟨value, Place.inCoroutine_of_ok mapped⟩
      have failedBetween :
          Place.inCoroutine map
              (between.state.toPlace.visit (between.state.position + earlier.length) here) =
            .error fault.leavingCoroutine := by
        rw [stands, Place.visit_visit, Place.position_visit, Int.zero_add]
        exact Place.inCoroutine_of_error failed
      obtain ⟨after, gathered, placed, walk⟩ :=
        walk.gatherFrom_interrupted current split.symm eachBetween failedBetween
      refine ⟨after, last, ?_, ?_, walk, exhausted⟩
      · rw [listed, run_gather, gathered]
      · rw [placed, stands]
        simp

end ListStart

/-! ## From every cursor -/

/-- The records that a bulk reading visits from a cursor before the first of them or on it:
all of them up to the limit, or only the current one where the rest has been given up. -/
def visited (records : List ρ) (scene : Scene (Cursor σ ρ τ)) : List ρ :=
  if scene.state.ahead.exhausted then scene.state.current.toList
  else if scene.state.position < scene.state.limit then records.take (scene.state.limit + 1).toNat
  else records

omit [Source σ (Option ρ)] in
theorem visited_of_exhausted (exhausted : scene.state.ahead.stage = .exhausted) :
    visited records scene = scene.state.current.toList := by
  simp [visited, LookAhead.exhausted, exhausted, Stage.isExhausted]

omit [Source σ (Option ρ)] in
theorem visited_of_left (left : scene.state.ahead.stage ≠ .exhausted) :
    visited records scene =
      if scene.state.position < scene.state.limit then
        records.take (scene.state.limit + 1).toNat
      else records := by
  cases stage : scene.state.ahead.stage with
  | exhausted => exact absurd stage left
  | empty => simp [visited, LookAhead.exhausted, stage, Stage.isExhausted]
  | holding => simp [visited, LookAhead.exhausted, stage, Stage.isExhausted]

/-- A cursor advances over all items up to the limit. -/
theorem exists_walk_ofItems {place : Place ρ} {left : List ρ}
    (hasCourse : HasCourse scene place (.ofItems (left.map some))) (isOpen : place.isOpen = true) :
    ∃ last, last.state.ahead.stage = .exhausted ∧
      Walk scene
        (if place.position < place.limit then left.take (place.limit - place.position).toNat
          else left) (.ok ()) last := by
  have faultFree := faultFree_ofItems left
  obtain ⟨passed, outcome, last, walk⟩ := exists_walk hasCourse isOpen faultFree.wellFormed
  obtain rfl := walk.outcome_of_faultFree hasCourse isOpen faultFree
  obtain ⟨reached, exhausted, _⟩ := walk.of_ok hasCourse isOpen faultFree.wellFormed
  have all : passed =
      if place.position < place.limit then left.take (place.limit - place.position).toNat
        else left := by
    rw [Place.reachable, Course.items_ofItems, ← List.map_take] at reached
    apply (List.map_inj_right fun _ _ => Option.some.inj).mp
    rw [reached]
    split <;> rfl
  rw [← all]
  exact ⟨last, exhausted, walk⟩

theorem RecordInvariant.listStart (invariant : RecordInvariant records scene)
    (currentInvariant : CurrentInvariant scene)
    (isOpen : scene.state.isOpen = true)
    (atFirst : scene.state.position = -1 ∨ scene.state.position = 0) :
    ListStart (visited records scene) scene := by
  by_cases exhausted : scene.state.ahead.stage = .exhausted
  · rw [visited_of_exhausted exhausted]
    refine ⟨isOpen, ?_, ?_⟩
    · rcases atFirst with unmoved | first
      · exact .inl ⟨unmoved, currentInvariant.unmoved unmoved⟩
      · refine .inr ⟨first, ?_, fun _ => exhausted⟩
        cases scene.state.current <;> rfl
    · rw [List.drop_length]
      exact ⟨_, .ended (run_next_of_exhausted isOpen exhausted), exhausted⟩
  · obtain ⟨last, lastExhausted, walk⟩ := exists_walk_ofItems (invariant.left exhausted) isOpen
    rw [visited_of_left exhausted]
    rcases atFirst with unmoved | first
    · have noRecord := currentInvariant.unmoved unmoved
      refine ⟨isOpen, .inl ⟨unmoved, noRecord⟩, last, ?_, lastExhausted⟩
      rw [unmoved] at walk ⊢
      simpa [noRecord] using walk
    · cases current : scene.state.current with
      | none =>
          rcases currentInvariant.exhausted current with unmoved | ended
          · omega
          · exact absurd ended exhausted
      | some record =>
          obtain ⟨_, found⟩ := invariant.current record current
          rw [first] at found walk ⊢
          cases records with
          | nil => simp at found
          | cons head tail =>
              cases found
              have begins :
                  (if 0 < scene.state.limit then
                    (record :: tail).take (scene.state.limit + 1).toNat else record :: tail) =
                  record :: (if 0 < scene.state.limit then
                    tail.take (scene.state.limit - 0).toNat else tail) := by
                split
                · have more : (scene.state.limit + 1).toNat =
                      (scene.state.limit - 0).toNat + 1 := by omega
                  rw [more, List.take_succ_cons]
                · rfl
              rw [begins]
              refine ⟨isOpen, .inr ⟨first, current, nofun⟩, last, ?_, lastExhausted⟩
              rw [current]
              exact walk

/-- What a bulk reading leaves that was interrupted on a record: the cursor stands on that
record, the later ones are still before it, and it can be read in bulk again only from the
first record on. -/
structure LeftOn (scene after : Scene (Cursor σ ρ τ)) (earlier : List ρ) (here : ρ)
    (later : List ρ) : Prop where
  place_eq : after.state.toPlace = scene.state.toPlace.visit earlier.length here
  delivers : ∃ last, Walk after later (.ok ()) last
  again : earlier = [] → ∀ {β : Type} (map : Place ρ → Except Fault β),
    ((Cursor.list map).run after).1 =
      ((scene.state.toPlace.visits 0 (here :: later)).mapM map).mapError Fault.leavingCoroutine
  refused : earlier ≠ [] → ∀ {β : Type} (map : Place ρ → Except Fault β),
    (Cursor.list map).run after = (.error (.misuse (.notAtFirst earlier.length)), after)

/-- A reading that was interrupted on a record goes on from it. -/
theorem ListStart.leftOn {earlier later : List ρ} {here : ρ}
    (listStart : ListStart (earlier ++ here :: later) scene) {map : Place ρ → Except Fault α}
    {fault : Fault}
    (each : ∀ stop ∈ scene.state.toPlace.visits 0 earlier, ∃ value, map stop = .ok value)
    (failed : map (scene.state.toPlace.visit earlier.length here) = .error fault) :
    ((Cursor.list map).run scene).1 = .error fault.leavingCoroutine ∧
      LeftOn scene ((Cursor.list map).run scene).2 earlier here later := by
  obtain ⟨after, last, listed, stands, walk, exhausted⟩ := listStart.list_interrupted each failed
  have isOpen : after.state.isOpen = true :=
    (congrArg Place.isOpen stands).trans listStart.isOpen
  have position : after.state.position = earlier.length := congrArg Place.position stands
  have current : after.state.current = some here := congrArg Place.current stands
  rw [listed]
  refine ⟨rfl, stands, ⟨last, walk⟩, ?_, ?_⟩
  · rintro rfl β other
    have stillListStart : ListStart (here :: later) after := by
      refine ⟨isOpen, .inr ⟨position, current, nofun⟩, last, ?_, exhausted⟩
      rw [current]
      exact walk
    rw [stillListStart.list_eq_mapM other]
    rw [show after.state.toPlace = _ from stands, Place.visits_visit]
  · intro moved β other
    have left : (earlier.length : Int) ≠ 0 := by
      simpa using moved
    have notBefore : ¬(earlier.length : Int) = -1 := by omega
    show (Cursor.list other).run after = _
    rw [list, run_requireOpen_of_open isOpen, Action.run_bind, Action.run_present]
    simp only [position, if_neg notBefore, if_neg left]
    rfl

/-- A bulk reading takes its mapping to every record it visits, once and in order, with the
cursor on that record; where the mapping fails, the reading ends and the cursor stays. -/
theorem list_visits_records {σ τ α : Type} [Source σ (Option Record)] {keys : List Value}
    {records : List Record} {source : σ} {summary : σ → τ} {clock : Clock}
    {journal : List Message}
    (follows : Source.Follows source clock (.ofItems (records.map some)))
    (operations : List CursorOperation) (map : Place Record → Except Fault α) :
    let scene : Scene (Cursor σ Record τ) :=
      sceneAfter operations ⟨ofSource keys source summary, clock, journal⟩
    let place := scene.state.toPlace
    place.isOpen = true → place.position = -1 ∨ place.position = 0 →
      ((list map).run scene).1 =
        ((place.visits 0 (visited records scene)).mapM map).mapError Fault.leavingCoroutine ∧
      (∀ values, ((list map).run scene).1 = .ok values →
        ((list map).run scene).2.state.ahead.stage = .exhausted) ∧
      ∀ earlier here later fault, visited records scene = earlier ++ here :: later →
        (∀ stop ∈ place.visits 0 earlier, ∃ value, map stop = .ok value) →
        map (place.visit earlier.length here) = .error fault →
        ((list map).run scene).1 = .error fault.leavingCoroutine ∧
          LeftOn scene ((list map).run scene).2 earlier here later := by
  intro scene place isOpen atFirst
  have hasCourse : HasCourse ⟨ofSource keys source summary, clock, journal⟩ { keys }
      (.ofItems (records.map some)) := .ofSource journal follows
  have currentInvariant : RecordsOnly scene ∧ CurrentInvariant scene :=
    keeps_sceneAfter CurrentInvariant.move operations
      ⟨⟨_, _, hasCourse, (faultFree_ofItems records).wellFormed⟩, .ofSource ..⟩
  have invariant : RecordInvariant records scene :=
    keeps_sceneAfter RecordInvariant.move operations (.ofSource journal follows)
  have listStart := invariant.listStart currentInvariant.2 isOpen atFirst
  refine ⟨listStart.list_eq_mapM map, ?_, ?_⟩
  · intro values listed
    exact exhausted_of_list (Prod.ext listed rfl)
  · intro earlier here later fault split each failed
    rw [split] at listStart
    exact listStart.leftOn each failed

/-- A mapping that takes no second record leaves a cursor on it, and the third one before
it. -/
theorem list_stays_on_refused_record :
    let records : List Record :=
      [⟨[(.string "n", .int 1)]⟩, ⟨[(.string "n", .int 2)]⟩, ⟨[(.string "n", .int 3)]⟩]
    let source : Script (Option Record) :=
      ⟨.awaited, .generator, (records.map some).map .item, 0, false, 0⟩
    let scene : Scene (Cursor (Script (Option Record)) Record Unit) :=
      sceneAfter [.peek, .limit 4] ⟨ofSource [.string "n"] source fun _ => (), {}, []⟩
    let map (place : Place Record) : Except Fault Value :=
      if place.position = 1 then .error (.foreign "ValueError" "odd") else place.recordValue
    ((list map).run scene).1 = .error (.foreign "ValueError" "odd") ∧
      LeftOn scene ((list map).run scene).2 [⟨[(.string "n", .int 1)]⟩]
        ⟨[(.string "n", .int 2)]⟩ [⟨[(.string "n", .int 3)]⟩] := by
  intro records source scene map
  have follows : Source.Follows source {} (.ofItems (records.map some)) :=
    Script.follows_items {} rfl rfl rfl
  refine (list_visits_records follows [.peek, .limit 4] map rfl (.inl rfl)).2.2 _ _ _
    (.foreign "ValueError" "odd") rfl ?_ rfl
  intro stop member
  cases List.mem_singleton.mp member
  exact ⟨_, rfl⟩

theorem run_list_of_failed {σ ρ τ α : Type} [Source σ (Option ρ)] {scene : Scene (Cursor σ ρ τ)}
    {map : Place ρ → Except Fault α} {record : ρ} {fault : Fault}
    (isOpen : scene.state.isOpen = true) (first : scene.state.position = 0)
    (current : scene.state.current = some record)
    (failed : map scene.state.toPlace = .error fault) :
    (list map).run scene = (.error fault.leavingCoroutine, scene) := by
  rw [run_list_of_first isOpen first, run_gather,
    gatherFrom_of_error current (Place.inCoroutine_of_error failed)]

/-- On the first of two records a plain stop signal of the mapping is not raised as it is.
And where the rest was given up at a limit, a wider limit does not bring the second record
back: it is not delivered after a mapping has failed on the first one. -/
theorem list_reports_stop_and_delivers_no_second :
    let source : Script (Option Record) :=
      { mode := .awaited
        form := .generator
        pending := [some ⟨[(.string "n", .int 1)]⟩, some ⟨[(.string "n", .int 2)]⟩].map .item }
    let start : Scene (Cursor (Script (Option Record)) Record Unit) :=
      ⟨ofSource [.string "n"] source fun _ => (), {}, []⟩
    let onFirst := sceneAfter [.next] start
    let widened := sceneAfter [.limit 1, .next, .limit 5] start
    let stopping (_ : Place Record) : Except Fault Value := .error (.stop .plain "")
    let failing (_ : Place Record) : Except Fault Value := .error (.foreign "ValueError" "odd")
    ((list stopping).run onFirst).1 =
        .error (.foreign "RuntimeError" "coroutine raised StopIteration") ∧
      ((list failing).run widened).1 = .error (.foreign "ValueError" "odd") ∧
      ((list failing).run widened).2.state.position = 0 ∧
      ((list failing).run widened).2.state.limit = 5 ∧
      (next.run ((list failing).run widened).2).1 = .ok false := by
  intro source start onFirst widened stopping failing
  have stopped : (list stopping).run onFirst = _ := run_list_of_failed rfl rfl rfl rfl
  have failed : (list failing).run widened = _ := run_list_of_failed rfl rfl rfl rfl
  rw [stopped, failed]
  exact ⟨rfl, rfl, rfl, rfl, rfl⟩

end Cursor

end QueryCursor
