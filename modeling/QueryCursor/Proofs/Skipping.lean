import QueryCursor.Proofs.Draining
import QueryCursor.Proofs.Exhaustion
import QueryCursor.Proofs.Limit
import QueryCursor.Proofs.Upholding

/-!
# Skipping

A skip is a number of advances that ends early where an advance finds no record.  Such an
advance can be made again and changes nothing, so that two skips in a row do what one of
their sum does: with the same records, the same failure, and in the same scene.
-/

namespace QueryCursor

namespace Cursor

variable {σ ρ τ : Type} [Source σ (Option ρ)] {scene between after : Scene (Cursor σ ρ τ)}

/-! ## One advance -/

/-- An advance that found no record finds none when it is made again, and leaves everything
as it is. -/
theorem run_next_again (ended : next.run scene = (.ok false, after)) :
    next.run after = (.ok false, after) := by
  have stands := toPlace_of_next_false ended
  have isOpen : after.state.isOpen = true :=
    (congrArg Place.isOpen stands).trans (hasNext_of_next ended).1
  have noRecord : after.state.current = none := congrArg Place.current stands
  rw [run_next_of_exhausted isOpen (exhausted_of_next_false ended), withState_cleared noRecord]

/-- The rest has been given up, at a limit or otherwise, or the source says that it has
ended when it is asked for a record. -/
def MeetsEnd (scene : Scene (Cursor σ ρ τ)) : Prop :=
  scene.state.ahead.stage = .exhausted ∨
    scene.state.ahead.stage = .empty ∧ ∃ fault,
      (Source.pull.run (scene.withState scene.state.ahead.source)).1 = .error fault ∧
        fault.isStop = true

/-- An advance that does not fail finds no record exactly at the end. -/
theorem meetsEnd_iff_of_next {more : Bool} (moved : next.run scene = (.ok more, after)) :
    MeetsEnd scene ↔ more = false := by
  obtain ⟨_, between, looked, _⟩ := hasNext_of_next moved
  have stage := stage_of_hasNext looked
  rw [onAhead_hasNext, Action.run_bind] at looked
  rcases run_fetch_cases scene with ⟨left, ran⟩ | ⟨empty, outcome, last, pulled, ran⟩
  · rw [ran] at looked
    cases looked
    cases held : scene.state.ahead.stage with
    | empty => exact absurd held left
    | exhausted => simp [MeetsEnd, held, Stage.held?]
    | holding => simp [MeetsEnd, held, Stage.held?]
  · cases outcome with
    | ok record =>
        rw [ran] at looked
        cases looked
        simp [MeetsEnd, empty, pulled, Stage.held?]
    | error fault =>
        simp only at ran
        split at ran
        · next stop =>
          rcases fetched : (onAhead LookAhead.fetch).run scene with ⟨_ | _, fetchedTo⟩
          · rw [fetched] at looked
            cases looked
          · rw [fetched] at looked ran
            cases looked
            simp only at ran
            simp [MeetsEnd, empty, pulled, stop, ran, Stage.held?]
        · rw [ran] at looked
          cases looked

/-! ## Many advances -/

theorem skipUpTo_of_next_false (ended : next.run scene = (.ok false, scene)) (wanted : Nat) :
    (skipUpTo wanted).run scene = (.ok 0, scene) := by
  cases wanted with
  | zero => rfl
  | succ wanted => rw [run_skipUpTo_succ, ended]

/-- Moving forward twice is moving forward once, as often as both together. -/
theorem skipUpTo_add (first second : Nat) :
    (skipUpTo (first + second) : Action (Cursor σ ρ τ) Nat) = do
      let passed ← skipUpTo first
      let others ← skipUpTo second
      return passed + others := by
  induction first with
  | zero =>
      simp only [skipUpTo, Nat.zero_add, pure_bind, bind_pure]
  | succ first ih =>
      apply Action.ext
      intro scene
      rw [Nat.succ_add, run_skipUpTo_succ, ih, Action.run_bind, run_skipUpTo_succ]
      rcases moved : next.run scene with ⟨_ | _ | _, after⟩
      · rfl
      · simp only [Action.run_bind, skipUpTo_of_next_false (run_next_again moved)]
        rfl
      · simp only [Action.run_bind]
        rcases (skipUpTo first).run after with ⟨_ | passed, between⟩
        · rfl
        · simp only [Except.map]
          rcases (skipUpTo second).run between with ⟨_ | others, last⟩
          · rfl
          · simp only [Action.run_pure, Prod.mk.injEq, Except.ok.injEq, and_true]
            omega

theorem run_skip_of_open (isOpen : scene.state.isOpen = true) {wanted : Int}
    (notNegative : 0 ≤ wanted) :
    (skip wanted).run scene = (skipUpTo wanted.toNat).run scene := by
  simp only [skip, if_neg (Int.not_lt.mpr notNegative)]
  exact run_requireOpen_of_open isOpen _

theorem run_skip_of_closed (closed : scene.state.isOpen = false) {wanted : Int}
    (notNegative : 0 ≤ wanted) :
    (skip wanted).run scene = (.error (.misuse .closed), scene) := by
  simp only [skip, if_neg (Int.not_lt.mpr notNegative)]
  exact run_requireOpen_of_closed closed _

/-! ## What a skip does -/

/-- So many advances one after the other, each of them onto a record. -/
inductive AdvancesBy : Scene (Cursor σ ρ τ) → Nat → Scene (Cursor σ ρ τ) → Prop where
  | none {scene : Scene (Cursor σ ρ τ)} : AdvancesBy scene 0 scene
  | more {scene between after : Scene (Cursor σ ρ τ)} {count : Nat} :
      next.run scene = (.ok true, between) → AdvancesBy between count after →
      AdvancesBy scene (count + 1) after

/-- A skip that leads from one scene to another and gives a count.  It stops short
exactly where fewer advances than wanted lead to the end. -/
structure Skipped (scene after : Scene (Cursor σ ρ τ)) (wanted : Int) (count : Nat) : Prop where
  count_le : count ≤ wanted
  place_eq : after.state.toPlace =
    { scene.state.toPlace with
      position := scene.state.position + count, current := after.state.current }
  short_iff : count < wanted ↔
    ∃ (moved : Nat) (last : Scene (Cursor σ ρ τ)), moved < wanted ∧ AdvancesBy scene moved last ∧
      MeetsEnd last
  short : count < wanted →
    after.state.current = none ∧ after.state.ahead.stage = .exhausted

theorem Skipped.of_skipUpTo {wanted count : Nat}
    (skipped : (skipUpTo wanted).run scene = (.ok count, after)) :
    Skipped scene after wanted count := by
  induction wanted generalizing scene count with
  | zero =>
      cases skipped
      refine ⟨Int.le_refl _, by simp, ?_, fun less => absurd less (Int.lt_irrefl _)⟩
      constructor
      · exact fun less => absurd less (Int.lt_irrefl _)
      · rintro ⟨moved, _, less, _⟩
        omega
  | succ wanted ih =>
      rw [skipUpTo] at skipped
      obtain ⟨more, between, moved, skipped⟩ := Action.of_run_bind_ok skipped
      have atEnd := meetsEnd_iff_of_next moved
      cases more with
      | false =>
          cases skipped
          have stands := toPlace_of_next_false moved
          refine ⟨by omega, by simp [stands, Place.cleared], ?_, ?_⟩
          · refine iff_of_true (by omega) ⟨0, scene, by omega, .none, atEnd.mpr rfl⟩
          · exact fun _ => ⟨congrArg Place.current stands, exhausted_of_next_false moved⟩
      | true =>
          obtain ⟨others, last, skipped, counted⟩ := Action.of_run_bind_ok skipped
          cases counted
          obtain ⟨record, stands⟩ := toPlace_of_next_true moved
          have later := ih skipped
          refine ⟨?_, ?_, ?_, ?_⟩
          · have := later.count_le
            omega
          · rw [later.place_eq, stands]
            simp only [Place.onto, Place.mk.injEq, true_and, and_true]
            omega
          · have before : ((others + 1 : Nat) : Int) < ((wanted + 1 : Nat) : Int) ↔
                (others : Int) < wanted := by omega
            rw [before, later.short_iff]
            constructor
            · rintro ⟨count, end_, less, advancesBy, meets⟩
              exact ⟨count + 1, end_, by omega, .more moved advancesBy, meets⟩
            · rintro ⟨_, end_, less, advancesBy, meets⟩
              cases advancesBy with
              | none => cases atEnd.mp meets
              | @more _ _ _ count moved' advancesBy =>
                  cases moved.symm.trans moved'
                  exact ⟨count, end_, by omega, advancesBy, meets⟩
          · intro less
            apply later.short
            omega

theorem of_run_skip_ok {wanted : Int} {count : Nat}
    (skipped : (skip wanted).run scene = (.ok count, after)) :
    0 ≤ wanted ∧ scene.state.isOpen = true ∧
      (skipUpTo wanted.toNat).run scene = (.ok count, after) := by
  by_cases negative : wanted < 0
  · simp [skip, negative] at skipped
  · have notNegative := Int.not_lt.mp negative
    cases isOpen : scene.state.isOpen with
    | false =>
        rw [run_skip_of_closed isOpen notNegative] at skipped
        cases skipped
    | true =>
        rw [run_skip_of_open isOpen notNegative] at skipped
        exact ⟨notNegative, rfl, skipped⟩

theorem Skipped.of_skip {wanted : Int} {count : Nat}
    (skipped : (skip wanted).run scene = (.ok count, after)) :
    Skipped scene after wanted count := by
  obtain ⟨notNegative, _, skipped⟩ := of_run_skip_ok skipped
  have done := Skipped.of_skipUpTo skipped
  rwa [Int.toNat_of_nonneg notNegative] at done

/-- Two skips in a row do what one of their sum does, in every scene. -/
theorem skip_add {first second : Int} (first_nonneg : 0 ≤ first) (second_nonneg : 0 ≤ second) :
    (skip (first + second) : Action (Cursor σ ρ τ) Nat) = do
      let passed ← skip first
      let others ← skip second
      return passed + others := by
  have sum_nonneg : 0 ≤ first + second := by omega
  apply Action.ext
  intro scene
  rw [Action.run_bind]
  cases isOpen : scene.state.isOpen with
  | false => rw [run_skip_of_closed isOpen sum_nonneg, run_skip_of_closed isOpen first_nonneg]
  | true =>
      rw [run_skip_of_open isOpen sum_nonneg, Int.toNat_add first_nonneg second_nonneg,
        skipUpTo_add, Action.run_bind, run_skip_of_open isOpen first_nonneg]
      rcases skipped : (skipUpTo first.toNat).run scene with ⟨_ | passed, between⟩
      · rfl
      · -- The first skip has not closed the cursor.
        have stillOpen : between.state.isOpen = true :=
          (congrArg Place.isOpen (Skipped.of_skipUpTo skipped).place_eq).trans isOpen
        simp only [Action.run_bind, run_skip_of_open stillOpen second_nonneg]

/-- A skip passes as many records as wanted, or as can be reached. -/
theorem HasCourse.count_of_skipUpTo {place : Place ρ} {course : Course (Option ρ)}
    (hasCourse : HasCourse scene place course) {wanted count : Nat}
    (isOpen : place.isOpen = true)
    (skipped : (skipUpTo wanted).run scene = (.ok count, after)) :
    count = min wanted (place.reachable course).length := by
  induction wanted generalizing scene place course count with
  | zero =>
      cases skipped
      simp
  | succ wanted ih =>
      rw [skipUpTo] at skipped
      obtain ⟨more, between, moved, skipped⟩ := Action.of_run_bind_ok skipped
      cases more with
      | false =>
          cases skipped
          obtain ⟨⟨closing, rfl⟩, _⟩ := hasCourse.of_next_false isOpen moved
          simp [Place.reachable]
      | true =>
          obtain ⟨others, last, skipped, counted⟩ := Action.of_run_bind_ok skipped
          cases counted
          obtain ⟨closing, record, rest, rfl, later⟩ := hasCourse.of_next_true isOpen moved
          have counted := ih later isOpen skipped
          rw [Place.reachable_item, List.length_cons, Nat.add_min_add_right, counted]

end Cursor

/-! ## What is taken of the source -/

/-- The items that were taken are the first ones of a course, and the source still follows
the rest of it as long as it has not been given up. -/
structure Takes {σ α : Type} [Source σ α] (course : Course α)
    (ahead : LookAhead (Overheard σ α) α) (clock : Clock) : Prop where
  taken : itemsFrom ahead.source.calls <+: course.items
  left : ahead.stage ≠ .exhausted → ∃ rest,
    Source.Follows ahead.source.source clock rest ∧
      itemsFrom ahead.source.calls ++ rest.items = course.items

namespace Takes

variable {σ α : Type} [Source σ α] {course : Course α}

theorem ofLeft {source : σ} {calls : List (SourceCall α)} {stage : Stage α} {clock : Clock}
    {rest : Course α} (follows : Source.Follows source clock rest)
    (items_eq : itemsFrom calls ++ rest.items = course.items) :
    Takes course ⟨⟨source, calls⟩, stage⟩ clock :=
  ⟨⟨rest.items, items_eq⟩, fun _ => ⟨rest, follows, items_eq⟩⟩

theorem itemsFrom_of_discard (scene : Scene (LookAhead (Overheard σ α) α)) :
    itemsFrom (LookAhead.discard.run scene).2.state.source.calls =
      itemsFrom scene.state.source.calls := by
  obtain ⟨⟨⟨source, calls⟩, stage⟩, clock, journal⟩ := scene
  have released (outcome : Except Fault Unit) :
      itemsFrom (calls ++ [.release outcome]) = itemsFrom calls := by simp
  cases stage with
  | exhausted => rfl
  | empty => exact released _
  | holding => exact released _

theorem discard (scene : Scene (LookAhead (Overheard σ α) α))
    (taken : itemsFrom scene.state.source.calls <+: course.items) :
    Takes course (LookAhead.discard.run scene).2.state
      (LookAhead.discard.run scene).2.clock := by
  refine ⟨?_, fun left => absurd (LookAhead.exhausted_of_run_discard scene) left⟩
  rw [itemsFrom_of_discard]
  exact taken

theorem fetch (scene : Scene (LookAhead (Overheard σ α) α))
    (takes : Takes course scene.state scene.clock) :
    Takes course (LookAhead.fetch.run scene).2.state (LookAhead.fetch.run scene).2.clock := by
  obtain ⟨⟨⟨source, calls⟩, stage⟩, clock, journal⟩ := scene
  cases stage with
  | exhausted => exact takes
  | holding => exact takes
  | empty =>
      obtain ⟨rest, follows, items_eq⟩ := takes.left nofun
      rw [LookAhead.run_fetch_empty, LookAhead.run_refill]
      cases follows with
      | ended _ pulled =>
          obtain ⟨journal', pulled⟩ := pulled journal
          rw [Overheard.run_pull pulled]
          apply discard
          simp only [Scene.state_withState, itemsFrom_append, itemsFrom_pull_error,
            itemsFrom_nil, List.append_nil]
          exact takes.taken
      | item _ pulled follows =>
          obtain ⟨journal', pulled⟩ := pulled journal
          rw [Overheard.run_pull pulled]
          apply ofLeft follows
          rw [← items_eq]
          simp
      | failure _ pulled goesOn follows =>
          obtain ⟨journal', pulled⟩ := pulled journal
          rw [Overheard.run_pull pulled]
          simp only [goesOn]
          apply ofLeft follows
          rw [← items_eq]
          simp

theorem upholds : LookAhead.Upholds (Takes (σ := σ) course) where
  fetch := fetch
  take := by
    rintro source item clock ⟨taken, left⟩
    exact ⟨taken, fun _ => left nofun⟩
  discard scene takes := discard scene takes.taken

end Takes

namespace Cursor

variable {σ τ : Type} [Source σ (Option Record)]

/-- Whatever is asked of a cursor, it goes on to have a course before it. -/
theorem HasCourse.exists_sceneAfter {scene : Scene (Cursor σ Record τ)} {place : Place Record}
    {course : Course (Option Record)} (hasCourse : HasCourse scene place course)
    (operations : List CursorOperation) :
    ∃ left, HasCourse (sceneAfter operations scene) (sceneAfter operations scene).state.toPlace
      left := by
  have awaits : Awaits (fun _ => True) (fun _ => True) (fun _ => True) scene :=
    ⟨place, course, hasCourse, fun _ _ => trivial, fun _ _ => trivial, fun _ _ => trivial⟩
  obtain ⟨_, left, stands, _⟩ := keeps_sceneAfter Awaits.move operations awaits
  exact ⟨left, rfl, stands.leaves⟩

/-- Whatever is asked of a cursor, it takes of its source only what the source has, from
the first item on. -/
theorem itemsFrom_callsDuring_prefix {keys : List Value} {source : σ} {summary : σ → τ}
    {clock : Clock} {journal : List Message} {course : Course (Option Record)}
    (follows : Source.Follows source clock course) (operations : List CursorOperation) :
    itemsFrom (callsDuring operations ⟨ofSource keys source summary, clock, journal⟩) <+:
      course.items := by
  have kept : ∀ (move : Move) (scene : Scene (Cursor (Overheard σ (Option Record)) Record τ)),
      move.Allowed scene.state → Takes course scene.state.ahead scene.clock →
        Takes course (move.action.run scene).2.state.ahead (move.action.run scene).2.clock :=
    upholds_move Takes.upholds
  have start : Takes course
      (overheard ⟨ofSource keys source summary, clock, journal⟩).state.ahead clock :=
    Takes.ofLeft follows rfl
  exact (keeps_sceneAfter kept operations start).taken

/-- Skips add up, and a skip says how far it has got. -/
theorem skips_add_up (keys : List Value) (source : σ) (summary : σ → τ) (clock : Clock)
    (journal : List Message) (operations : List CursorOperation) {first second : Int}
    (first_nonneg : 0 ≤ first) (second_nonneg : 0 ≤ second) :
    let start : Scene (Cursor σ Record τ) := ⟨ofSource keys source summary, clock, journal⟩
    let scene := sceneAfter operations start
    (skip (first + second)).run scene =
        (do
          let passed ← skip first
          let others ← skip second
          return passed + others : Action (Cursor σ Record τ) Nat).run scene ∧
      (∀ wanted count after, (skip wanted).run scene = (.ok count, after) →
        Skipped scene after wanted count) ∧
      ∀ course, Source.Follows source clock course →
        (∃ left, HasCourse scene scene.state.toPlace left ∧
          ∀ wanted count after, (skip wanted).run scene = (.ok count, after) →
            count = min wanted.toNat (scene.state.toPlace.reachable left).length) ∧
        ∀ wanted, itemsFrom (callsDuring (operations ++ [.skip wanted]) start) <+:
          course.items := by
  intro start scene
  refine ⟨?_, fun wanted count after => Skipped.of_skip, ?_⟩
  · rw [skip_add first_nonneg second_nonneg]
  · intro course follows
    refine ⟨?_, fun wanted => itemsFrom_callsDuring_prefix follows _⟩
    obtain ⟨left, hasCourse⟩ := (HasCourse.ofSource journal follows).exists_sceneAfter operations
    refine ⟨left, hasCourse, ?_⟩
    intro wanted count after skipped
    obtain ⟨_, isOpen, skipped⟩ := of_run_skip_ok skipped
    exact hasCourse.count_of_skipUpTo isOpen skipped

/-- The skips of an iterator that fails between two records add up. -/
theorem skips_of_faltering_add_up :
    let start : Scene (Cursor (Script (Option Record)) Record Unit) :=
      ⟨ofSource [.string "n"] Script.faltering fun _ => (), {}, []⟩
    let scene := sceneAfter [.peek] start
    (skip (1 + 2)).run scene =
        (do
          let passed ← skip 1
          let others ← skip 2
          return passed + others :
            Action (Cursor (Script (Option Record)) Record Unit) Nat).run scene ∧
      itemsFrom (callsDuring [.peek, .skip 3] start) <+: Script.falteringCourse.items :=
  let added := skips_add_up [.string "n"] Script.faltering (fun _ => ()) {} [] [.peek]
    (show (0 : Int) ≤ 1 by decide) (show (0 : Int) ≤ 2 by decide)
  ⟨added.1, (added.2.2 Script.falteringCourse (Script.follows_faltering {})).2 3⟩

end Cursor

end QueryCursor
