import QueryCursor.Proofs.Interchange
import QueryCursor.Proofs.Overheard

/-!
# What a look-ahead shows

A look-ahead shows the items of its source in order, each of them once, whatever fails in
between.  Asking whether an item is left, or looking at it, does not change what comes next,
and once no item is left the source is not contacted any more.
-/

namespace QueryCursor

namespace Source

variable {σ α : Type} [Source σ α]

/-! ## What a source produces -/

/-- Asked for items from the start on, the source plays these events, and has not said so far
that it has ended. -/
inductive Produces (start : Scene σ) : List (Except Fault α) → Scene σ → Prop where
  | nothing : Produces start [] start
  | item {events : List (Except Fault α)} {scene after : Scene σ} {item : α} :
      Produces start events scene → pull.run scene = (.ok item, after) →
      Produces start (events ++ [.ok item]) after
  | failure {events : List (Except Fault α)} {scene after : Scene σ} {fault : Fault} :
      Produces start events scene → pull.run scene = (.error fault, after) →
      fault.isStop = false → Produces start (events ++ [.error fault]) after

/-- What a source produces is the beginning of its course. -/
theorem Produces.exists_rest {start last : Scene σ} {events : List (Except Fault α)}
    {course : Course α} (produces : Produces start events last)
    (follows : Follows start.state start.clock course) :
    ∃ rest, Follows last.state last.clock rest ∧ course.events = events ++ rest.events := by
  induction produces with
  | nothing => exact ⟨course, follows, rfl⟩
  | @item _ scene _ _ _ pulled ih =>
      obtain ⟨rest, follows, events_eq⟩ := ih
      cases follows with
      | ended _ ends =>
          obtain ⟨_, ran⟩ := ends scene.journal
          cases pulled.symm.trans ran
      | failure _ ends =>
          obtain ⟨_, ran⟩ := ends scene.journal
          cases pulled.symm.trans ran
      | item _ ends follows =>
          obtain ⟨_, ran⟩ := ends scene.journal
          cases pulled.symm.trans ran
          refine ⟨_, follows, ?_⟩
          rw [events_eq, Course.events, List.append_assoc]
          rfl
  | @failure _ scene _ _ _ pulled goesOn ih =>
      obtain ⟨rest, follows, events_eq⟩ := ih
      cases follows with
      | ended _ ends =>
          obtain ⟨_, ran⟩ := ends scene.journal
          cases pulled.symm.trans ran
          cases goesOn
      | item _ ends =>
          obtain ⟨_, ran⟩ := ends scene.journal
          cases pulled.symm.trans ran
      | failure _ ends _ follows =>
          obtain ⟨_, ran⟩ := ends scene.journal
          cases pulled.symm.trans ran
          refine ⟨_, follows, ?_⟩
          rw [events_eq, Course.events, List.append_assoc]
          rfl

/-- The items that a walk hands out until it is broken off, ends, or fails. -/
def handed (bound : Option Nat) (scene : Scene σ) : List α :=
  if bound = some 0 then []
  else
    match _ : pull.run scene with
    | (.ok item, after) => item :: handed (bound.map Nat.pred) after
    | (.error _, _) => []
termination_by remaining scene.state
decreasing_by exact remaining_lt_of_pull ‹_›

theorem handed_of_bound_zero (scene : Scene σ) : handed (some 0) scene = [] := by
  rw [handed, if_pos rfl]

theorem handed_eq {bound : Option Nat} (more : bound ≠ some 0) (scene : Scene σ) :
    handed bound scene =
      match pull.run scene with
      | (.ok item, after) => item :: handed (bound.map Nat.pred) after
      | (.error _, _) => [] := by
  rw [handed, if_neg more]
  split <;> simp_all

/-- A walk that does not fail gives the items that it hands out. -/
theorem handed_of_collectFrom {bound : Option Nat} {scene : Scene σ} {items : List α}
    (collected : (collectFrom bound scene).1 = .ok items) : handed bound scene = items := by
  fun_induction collectFrom bound scene generalizing items with
  | case1 =>
      cases collected
      exact handed_of_bound_zero _
  | case2 bound scene more item after taken rest last others ih =>
      rw [handed_eq more, taken]
      cases rest with
      | error => cases collected
      | ok rest =>
          cases collected
          rw [others] at ih
          exact congrArg (item :: ·) (ih rfl)
  | case3 bound scene more fault after failed =>
      rw [handed_eq more, failed]
      cases stop : fault.isStop with
      | false => simp [stop] at collected
      | true => simpa [stop] using collected

end Source

/-- Asking whether an item is left, or looking at it. -/
def LookAheadOperation.Glances : LookAheadOperation → Prop
  | .hasNext => True
  | .peek => True
  | _ => False

/-- Turning to the next item, be it to take it or not. -/
def LookAheadOperation.Turns : LookAheadOperation → Prop
  | .discard => False
  | .collect _ => False
  | _ => True

namespace LookAhead

variable {ω σ α β : Type} [Source σ α] {scene after : Scene (LookAhead σ α)} {item : α}

/-! ## Runs of operations -/

/-- The scene after a sequence of operations. -/
def sceneAfter (operations : List LookAheadOperation) (scene : Scene (LookAhead σ α)) :
    Scene (LookAhead σ α) :=
  operations.foldl (fun scene operation => ((perform operation).run scene).2) scene

theorem sceneAfter_append (first second : List LookAheadOperation)
    (scene : Scene (LookAhead σ α)) :
    sceneAfter (first ++ second) scene = sceneAfter second (sceneAfter first scene) :=
  List.foldl_append

/-- The items that an operation gives away. -/
def given (operation : LookAheadOperation) (scene : Scene (LookAhead σ α)) : List α :=
  match operation with
  | .hasNext => []
  | .peek => []
  | .next => (next.run scene).1.toOption.toList
  | .advance => (next.run scene).1.toOption.toList
  | .discard => []
  | .collect bound => Source.handed bound scene

/-- The items that operations give away, in order. -/
def delivered : List LookAheadOperation → Scene (LookAhead σ α) → List α
  | [], _ => []
  | operation :: operations, scene =>
      given operation scene ++ delivered operations ((perform operation).run scene).2

/-! ## Listening -/

/-- The same scene over a source that is overheard from now on. -/
def overheard (scene : Scene (LookAhead σ α)) : Scene (LookAhead (Overheard σ α) α) :=
  scene.withState (scene.state.unwrap (⟨·, []⟩))

/-- The calls that operations make to the source. -/
def callsDuring (operations : List LookAheadOperation) (scene : Scene (LookAhead σ α)) :
    List (SourceCall α) :=
  (sceneAfter operations (overheard scene)).state.source.calls

section Unnoticed

variable [Source ω α] {inner : ω → σ} {outside : Scene (LookAhead ω α)}

omit [Source σ α] [Source ω α] in
theorem map_seenAs {γ : Type} {first : Action (LookAhead ω α) β} {second : Action (LookAhead σ α) β}
    (seen : Action.SeenAs (unwrap inner) first second outside) (make : β → γ) :
    Action.SeenAs (unwrap inner) (make <$> first) (make <$> second) outside := by
  rw [Action.SeenAs] at seen
  rw [Action.SeenAs, Action.run_map, Action.run_map, seen]

theorem peek_unwrap (wraps : Source.Wraps inner fun _ => True) (outside : Scene (LookAhead ω α)) :
    Action.SeenAs (unwrap inner) peek peek outside := by
  have fetched := fetch_unwrap wraps outside fun _ => trivial
  rw [Action.SeenAs] at fetched
  rw [Action.SeenAs, run_peek, run_peek, fetched]
  rcases fetch.run outside with ⟨_ | _, after⟩ <;> rfl

theorem hasNext_unwrap (wraps : Source.Wraps inner fun _ => True)
    (outside : Scene (LookAhead ω α)) : Action.SeenAs (unwrap inner) hasNext hasNext outside := by
  have fetched := fetch_unwrap wraps outside fun _ => trivial
  rw [Action.SeenAs] at fetched
  rw [Action.SeenAs, run_hasNext, run_hasNext, fetched]
  rcases fetch.run outside with ⟨_ | _, after⟩ <;> rfl

theorem next_unwrap (wraps : Source.Wraps inner fun _ => True) (outside : Scene (LookAhead ω α)) :
    Action.SeenAs (unwrap inner) next next outside := by
  have peeked := peek_unwrap wraps outside
  rw [Action.SeenAs] at peeked
  rw [Action.SeenAs, run_next, run_next, peeked]
  rcases peek.run outside with ⟨_ | _, after⟩ <;> rfl

theorem collect_unwrap (wraps : Source.Wraps inner fun _ => True) (bound : Option Nat)
    (outside : Scene (LookAhead ω α)) :
    Action.SeenAs (unwrap inner) (Source.collect bound) (Source.collect bound) outside := by
  show Source.collectFrom bound (outside.withState (unwrap inner outside.state)) =
    ((Source.collectFrom bound outside).1, (Source.collectFrom bound outside).2.withState
      (unwrap inner (Source.collectFrom bound outside).2.state))
  fun_induction Source.collectFrom bound outside with
  | case1 => rw [Source.collectFrom, if_pos rfl]
  | case2 bound scene more item between taken rest last collected ih =>
      have seen := next_unwrap wraps scene
      rw [Action.SeenAs, show next.run scene = _ from taken] at seen
      rw [collected] at ih
      rw [Source.collectFrom_eq more]
      simp only [show Source.pull.run (scene.withState (unwrap inner scene.state)) = _ from seen, ih]
  | case3 bound scene more fault between failed =>
      have seen := next_unwrap wraps scene
      rw [Action.SeenAs, show next.run scene = _ from failed] at seen
      rw [Source.collectFrom_eq more]
      simp only [show Source.pull.run (scene.withState (unwrap inner scene.state)) = _ from seen]

/-- A look-ahead into a wrapped source does what one into the source itself does. -/
theorem perform_unwrap (wraps : Source.Wraps inner fun _ => True) (operation : LookAheadOperation)
    (outside : Scene (LookAhead ω α)) :
    Action.SeenAs (unwrap inner) (perform operation) (perform operation) outside := by
  cases operation with
  | hasNext => exact map_seenAs (hasNext_unwrap wraps outside) _
  | peek => exact map_seenAs (peek_unwrap wraps outside) _
  | next => exact map_seenAs (next_unwrap wraps outside) _
  | advance => exact map_seenAs (next_unwrap wraps outside) _
  | discard => exact map_seenAs (discard_unwrap wraps outside) _
  | collect bound => exact map_seenAs (collect_unwrap wraps bound outside) _

end Unnoticed

theorem overheard_unnoticed (operations : List LookAheadOperation)
    (scene : Scene (LookAhead σ α)) :
    (Action.runAll (operations.map perform) (overheard scene)).map (fun performed =>
        (performed.1, performed.2.withState (performed.2.state.unwrap Overheard.source))) =
      Action.runAll (operations.map perform) scene := by
  have inside_eq : (overheard scene).withState ((overheard scene).state.unwrap Overheard.source) =
      scene := rfl
  generalize overheard scene = outside at inside_eq
  induction operations generalizing outside scene with
  | nil => rfl
  | cons operation operations ih =>
      have seen := perform_unwrap Overheard.wraps operation outside
      rw [Action.SeenAs, inside_eq] at seen
      simp only [List.map_cons, Action.runAll, seen, ih _ _ rfl]

/-! ## Turning to the next item -/

theorem scene_of_hasNext (scene : Scene (LookAhead σ α)) :
    (hasNext.run scene).2 = (fetch.run scene).2 := by
  rw [run_hasNext]
  rcases fetch.run scene with ⟨_ | _, after⟩ <;> rfl

theorem scene_of_peek (scene : Scene (LookAhead σ α)) :
    (peek.run scene).2 = (fetch.run scene).2 := by
  rw [run_peek]
  rcases fetch.run scene with ⟨_ | _, after⟩ <;> rfl

/-- Where the next item is held, or none is left, nothing is fetched. -/
theorem run_fetch_of_full (full : scene.state.stage ≠ .empty) : fetch.run scene = (.ok (), scene) := by
  obtain ⟨⟨source, stage⟩, clock, journal⟩ := scene
  cases stage with
  | empty => exact absurd rfl full
  | holding => rfl
  | exhausted => rfl

/-- Fetching twice is fetching once. -/
theorem fetch_fetch : (fetch >>= fun _ => fetch : Action (LookAhead σ α) Unit) = fetch := by
  apply Action.ext
  intro scene
  rw [Action.run_bind]
  rcases fetched : fetch.run scene with ⟨fault | _, after⟩
  · rfl
  · apply run_fetch_of_full
    rcases remaining_of_run_fetch fetched with exhausted | ⟨item, held, _⟩
    · simp [exhausted]
    · simp [held]

/-- An action that fetches the next item before it does anything else. -/
def Prefetches (action : Action (LookAhead σ α) β) : Prop := (fetch >>= fun _ => action) = action

namespace Prefetches

variable {γ : Type} {action : Action (LookAhead σ α) β}

theorem ofFetch (rest : Unit → Action (LookAhead σ α) β) : Prefetches (fetch >>= rest) := by
  rw [Prefetches, ← bind_assoc, fetch_fetch]

theorem bind (prefetches : Prefetches action) (rest : β → Action (LookAhead σ α) γ) :
    Prefetches (action >>= rest) := by
  rw [Prefetches, ← bind_assoc, prefetches]

theorem map (prefetches : Prefetches action) (make : β → γ) : Prefetches (make <$> action) := by
  rw [map_eq_pure_bind]
  exact prefetches.bind _

theorem peek : Prefetches (LookAhead.peek : Action (LookAhead σ α) α) := ofFetch _

theorem next : Prefetches (LookAhead.next : Action (LookAhead σ α) α) := peek.bind _

/-- Whoever turns to the next item fetches it first. -/
theorem perform {operation : LookAheadOperation} (turns : operation.Turns) :
    Prefetches (LookAhead.perform operation : Action (LookAhead σ α) (LookAheadAnswer α)) := by
  cases operation with
  | hasNext => exact (ofFetch _).map _
  | peek => exact peek.map _
  | next => exact next.map _
  | advance => exact next.map _
  | discard => exact turns.elim
  | collect => exact turns.elim

/-- To what fetches the next item it makes no difference to ask before whether one is left. -/
theorem hasNext_bind (prefetches : Prefetches action) :
    (hasNext >>= fun _ => action) = action := by
  have asked : (hasNext >>= fun _ => action) = fetch >>= fun _ => action := by
    apply Action.ext
    intro scene
    simp only [Action.run_bind, run_hasNext]
    rcases fetch.run scene with ⟨_ | _, after⟩ <;> rfl
  exact asked.trans prefetches

end Prefetches

/-! ## An item that is held -/

/-- The next item is the given one: it can be looked at any number of times and then taken
without the source being contacted. -/
structure Offers (item : α) (scene : Scene (LookAhead σ α)) : Prop where
  hasNext : (perform .hasNext).run scene = (.ok (.flag true), scene)
  peek : (perform .peek).run scene = (.ok (.item item), scene)
  next : (perform .next).run scene =
    (.ok (.item item), scene.withState { scene.state with stage := .empty })
  advance : (perform .advance).run scene =
    (.ok (.item item), scene.withState { scene.state with stage := .empty })
  glances : ∀ operations : List LookAheadOperation, (∀ operation ∈ operations, operation.Glances) →
    sceneAfter operations scene = scene ∧ callsDuring (operations ++ [.next]) scene = []

theorem sceneAfter_of_holding (held : scene.state.stage = .holding item)
    {operations : List LookAheadOperation} (glances : ∀ operation ∈ operations, operation.Glances) :
    sceneAfter operations scene = scene := by
  obtain ⟨⟨source, stage⟩, clock, journal⟩ := scene
  cases held
  induction operations with
  | nil => rfl
  | cons operation operations ih =>
      have others := ih fun operation member => glances operation (.tail _ member)
      cases operation with
      | hasNext => exact others
      | peek => exact others
      | next => exact (glances _ (.head _)).elim
      | advance => exact (glances _ (.head _)).elim
      | discard => exact (glances _ (.head _)).elim
      | collect => exact (glances _ (.head _)).elim

theorem Offers.of_holding (held : scene.state.stage = .holding item) : Offers item scene := by
  obtain ⟨⟨source, stage⟩, clock, journal⟩ := scene
  cases held
  refine ⟨rfl, rfl, rfl, rfl, ?_⟩
  intro operations glances
  refine ⟨sceneAfter_of_holding rfl glances, ?_⟩
  have heldThere : (overheard ⟨⟨source, .holding item⟩, clock, journal⟩).state.stage =
      .holding item := rfl
  rw [callsDuring, sceneAfter_append, sceneAfter_of_holding heldThere glances]
  rfl

/-! ## Nothing left -/

/-- What a look-ahead answers that has nothing left. -/
def ending : LookAheadOperation → Except Fault (LookAheadAnswer α)
  | .hasNext => .ok (.flag false)
  | .peek => .error endOfSequence
  | .next => .error endOfSequence
  | .advance => .error endOfSequence
  | .discard => .ok .done
  | .collect _ => .ok (.items [])

/-- Nothing is left now and forever, and the source is not contacted any more. -/
structure Over (scene : Scene (LookAhead σ α)) : Prop where
  perform : ∀ operation, (perform operation).run scene = (ending operation, scene)
  later : ∀ operations, sceneAfter operations scene = scene
  calls : ∀ operations, callsDuring operations scene = []

theorem run_perform_of_exhausted (exhausted : scene.state.stage = .exhausted)
    (operation : LookAheadOperation) :
    (perform operation).run scene = (ending operation, scene) := by
  obtain ⟨⟨source, stage⟩, clock, journal⟩ := scene
  cases exhausted
  cases operation with
  | collect bound =>
      rw [perform, Action.run_map]
      simp only [Source.collect]
      by_cases none : bound = some 0
      · rw [Source.collectFrom, if_pos none]
        rfl
      · rw [Source.collectFrom_eq none]
        rfl
  | _ => rfl

theorem sceneAfter_of_exhausted (exhausted : scene.state.stage = .exhausted)
    (operations : List LookAheadOperation) : sceneAfter operations scene = scene := by
  induction operations with
  | nil => rfl
  | cons operation operations ih =>
      show sceneAfter operations ((perform operation).run scene).2 = scene
      rw [run_perform_of_exhausted exhausted]
      exact ih

theorem Over.of_exhausted (exhausted : scene.state.stage = .exhausted) : Over scene where
  perform := run_perform_of_exhausted exhausted
  later := sceneAfter_of_exhausted exhausted
  calls operations := by
    have exhaustedThere : (overheard scene).state.stage = .exhausted := exhausted
    rw [callsDuring, sceneAfter_of_exhausted exhaustedThere]
    rfl

/-! ## What is given away -/

/-- The items that were given away are the first ones that the source produces.  Unless the
rest was given up, it has produced these and the one that is held. -/
structure Tally (start : Scene σ) (items : List α) (scene : Scene (LookAhead σ α)) : Prop where
  produced : ∃ events last, Source.Produces start events last ∧ items <+: itemsOf events
  left : scene.state.stage ≠ .exhausted → ∃ events,
    Source.Produces start events (scene.withState scene.state.source) ∧
      itemsOf events = items ++ scene.state.stage.held?.toList

namespace Tally

variable {start : Scene σ} {items : List α}

theorem atop : Tally start [] (LookAhead.atop start) :=
  ⟨⟨[], start, .nothing, List.nil_prefix⟩, fun _ => ⟨[], .nothing, rfl⟩⟩

theorem ofLeft {events : List (Except Fault α)} {last : Scene σ} {stage : Stage α}
    (produces : Source.Produces start events last)
    (items_eq : itemsOf events = items ++ stage.held?.toList) :
    Tally start items (last.withState ⟨last.state, stage⟩) :=
  ⟨⟨events, last, produces, ⟨_, items_eq.symm⟩⟩, fun _ => ⟨events, produces, items_eq⟩⟩

theorem of_exhausted
    (produced : ∃ events last, Source.Produces start events last ∧ items <+: itemsOf events)
    (exhausted : scene.state.stage = .exhausted) : Tally start items scene :=
  ⟨produced, fun left => absurd exhausted left⟩

theorem fetch (tally : Tally start items scene) : Tally start items (LookAhead.fetch.run scene).2 := by
  obtain ⟨⟨source, stage⟩, clock, journal⟩ := scene
  cases stage with
  | exhausted => exact tally
  | holding => exact tally
  | empty =>
      obtain ⟨events, produces, items_eq⟩ := tally.left nofun
      rw [run_fetch_empty, run_refill]
      rcases pulled : Source.pull.run (⟨source, clock, journal⟩ : Scene σ) with ⟨fault | item, after⟩
      · simp only
        cases stop : fault.isStop with
        | true => exact of_exhausted tally.produced (exhausted_of_run_discard _)
        | false =>
            apply ofLeft (Source.Produces.failure produces pulled stop)
            simpa using items_eq
      · apply ofLeft (Source.Produces.item produces pulled)
        rw [itemsOf_append, items_eq]
        simp [Stage.held?]

theorem take {item : α} (tally : Tally start items scene)
    (held : scene.state.stage = .holding item) :
    Tally start (items ++ [item]) (scene.withState { scene.state with stage := .empty }) := by
  obtain ⟨events, produces, items_eq⟩ := tally.left (by simp [held])
  apply ofLeft produces
  rw [items_eq, held]
  exact (List.append_nil _).symm

theorem next (tally : Tally start items scene) :
    Tally start (items ++ (LookAhead.next.run scene).1.toOption.toList)
      (LookAhead.next.run scene).2 := by
  have fetched := tally.fetch
  rw [run_next, run_peek]
  rcases ran : LookAhead.fetch.run scene with ⟨fault | _, after⟩
  · rw [ran] at fetched
    simpa [Except.toOption] using fetched
  · rw [ran] at fetched
    cases stage : after.state.stage with
    | holding item => simpa [Stage.held?, Except.toOption, stage] using fetched.take stage
    | _ => simpa [Stage.held?, Except.toOption, stage] using fetched

theorem collect (tally : Tally start items scene) (bound : Option Nat) :
    Tally start (items ++ Source.handed bound scene) (Source.collectFrom bound scene).2 := by
  fun_induction Source.collectFrom bound scene generalizing items with
  | case1 =>
      rw [Source.handed_of_bound_zero, List.append_nil]
      exact tally
  | case2 bound scene more item after taken rest last collected ih =>
      have taken' : LookAhead.next.run scene = (.ok item, after) := taken
      have moved := tally.next
      rw [taken'] at moved
      have others := ih moved
      rw [collected, List.append_assoc] at others
      rw [Source.handed_eq more, taken]
      exact others
  | case3 bound scene more fault after failed =>
      have failed' : LookAhead.next.run scene = (.error fault, after) := failed
      have stayed := tally.next
      rw [failed'] at stayed
      rw [Source.handed_eq more, failed]
      exact stayed

theorem perform (tally : Tally start items scene) (operation : LookAheadOperation) :
    Tally start (items ++ given operation scene) ((LookAhead.perform operation).run scene).2 := by
  cases operation with
  | next =>
      rw [LookAhead.perform, Action.run_map]
      exact tally.next
  | advance =>
      rw [LookAhead.perform, Action.run_map]
      exact tally.next
  | collect bound =>
      rw [LookAhead.perform, Action.run_map]
      exact tally.collect bound
  | discard =>
      rw [LookAhead.perform, Action.run_map, given, List.append_nil]
      exact of_exhausted tally.produced (exhausted_of_run_discard scene)
  | hasNext =>
      rw [LookAhead.perform, Action.run_map, given, List.append_nil, scene_of_hasNext]
      exact tally.fetch
  | peek =>
      rw [LookAhead.perform, Action.run_map, given, List.append_nil, scene_of_peek]
      exact tally.fetch

theorem sceneAfter (tally : Tally start items scene) (operations : List LookAheadOperation) :
    Tally start (items ++ delivered operations scene) (LookAhead.sceneAfter operations scene) := by
  induction operations generalizing items scene with
  | nil =>
      rw [delivered, List.append_nil]
      exact tally
  | cons operation operations ih =>
      have others := ih (tally.perform operation)
      rw [List.append_assoc] at others
      exact others

end Tally

/-! ## What a look-ahead shows -/

/-- A look-ahead shows its source.  What it says about the next item holds until that is taken
and makes no difference to what comes then, what it gives away is the beginning of what the
source produces, and after it has given up the rest nothing is left.  A walk that succeeds
answers with what it gives away, and the calls to the source are overheard without any
difference to the run. -/
theorem look_ahead_shows_source (start : Scene σ) (operations : List LookAheadOperation) :
    let scene : Scene (LookAhead σ α) := sceneAfter operations (atop start)
    (∀ after, (perform .hasNext).run scene = (.ok (.flag true), after) →
        ∃ item, Offers item after) ∧
      (∀ after, (perform .hasNext).run scene = (.ok (.flag false), after) → Over after) ∧
      (∀ operation : LookAheadOperation, operation.Turns →
        (perform .hasNext >>= fun _ => perform operation).run scene =
          (perform operation).run scene) ∧
      Tally start (delivered operations (atop start)) scene ∧
      (∀ course, Source.Follows start.state start.clock course →
        delivered operations (atop start) <+: course.items) ∧
      Over (discard.run scene).2 ∧
      (∀ bound items after, (perform (.collect bound)).run scene = (.ok (.items items), after) →
        given (.collect bound) scene = items) ∧
      (Action.runAll (operations.map perform) (overheard (atop start))).map (fun performed =>
          (performed.1, performed.2.withState (performed.2.state.unwrap Overheard.source))) =
        Action.runAll (operations.map perform) (atop start : Scene (LookAhead σ α)) := by
  intro scene
  have tally : Tally start (delivered operations (atop start)) scene :=
    Tally.atop.sceneAfter operations
  refine ⟨?_, ?_, ?_, tally, ?_, .of_exhausted (exhausted_of_run_discard scene), ?_,
    overheard_unnoticed operations (atop start)⟩
  · intro after ran
    obtain ⟨more, looked, answer⟩ := Action.of_run_map_ok ran
    cases answer
    obtain ⟨item, held⟩ := stage_of_hasNext looked
    exact ⟨item, .of_holding held⟩
  · intro after ran
    obtain ⟨more, looked, answer⟩ := Action.of_run_map_ok ran
    cases answer
    exact .of_exhausted (stage_of_hasNext looked)
  · intro operation turns
    have asked : (perform .hasNext >>= fun _ => perform operation) =
        (hasNext >>= fun _ => perform operation : Action (LookAhead σ α) (LookAheadAnswer α)) :=
      bind_map_left ..
    rw [asked, (Prefetches.perform turns).hasNext_bind]
  · intro course follows
    obtain ⟨events, last, produces, items_prefix⟩ := tally.produced
    obtain ⟨rest, _, events_eq⟩ := produces.exists_rest follows
    rw [Course.items, events_eq, itemsOf_append]
    exact items_prefix.trans (List.prefix_append ..)
  · intro bound items after ran
    obtain ⟨collected, walked, answer⟩ := Action.of_run_map_ok ran
    cases answer
    exact Source.handed_of_collectFrom (congrArg Prod.fst walked)

/-- A look-ahead into an iterator that fails between its two records, and once more when it is
released. -/
theorem look_ahead_into_faltering :
    let start : Scene (Script (Option Record)) := ⟨Script.faltering, {}, []⟩
    (∃ item, Offers item ((perform .hasNext).run (sceneAfter [.peek, .next, .next] (atop start))).2) ∧
      Over ((perform .hasNext).run
        (sceneAfter [.next, .next, .next, .hasNext] (atop start))).2 ∧
      delivered [.collect none, .next] (atop start) <+: Script.falteringCourse.items := by
  intro start
  exact ⟨(look_ahead_shows_source start [.peek, .next, .next]).1 _ rfl,
    (look_ahead_shows_source start [.next, .next, .next, .hasNext]).2.1 _ rfl,
    (look_ahead_shows_source start [.collect none, .next]).2.2.2.2.1 _ (Script.follows_faltering {})⟩

end LookAhead

end QueryCursor
