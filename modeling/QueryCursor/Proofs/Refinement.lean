import QueryCursor.Proofs.Alike
import QueryCursor.Proofs.Course.Script
import QueryCursor.Proofs.Reader

/-!
# Cursors as readers

A cursor over a source that never fails gives the answers of a reader that has
all records at hand, and moves as the reader does: what it holds in advance and
when it releases its source never shows.
-/

namespace QueryCursor

namespace Reader

variable {records : List Record} {reader : Reader}

/-- What is still to come for a reader. -/
def course (records : List Record) (reader : Reader) : Course (Option Record) :=
  if reader.discarded then .spent
  else .ofItems ((records.drop (reader.position + 1).toNat).map some)

/-- The number of records still to come. -/
def left (records : List Record) (reader : Reader) : Nat :=
  if reader.discarded then 0 else records.length - (reader.position + 1).toNat

@[simp] theorem closing_course : (reader.course records).closing = .ok () := by
  unfold course
  split <;> simp

/-- The record that comes next is the first one of the course. -/
theorem course_of_upcoming {record : Record} (start_le : -1 ≤ reader.position)
    (upcoming : reader.upcoming? records = some record) :
    reader.discarded = false ∧
      reader.course records =
        .item (.ok ()) (some record)
          (.ofItems ((records.drop (reader.position + 1 + 1).toNat).map some)) := by
  unfold upcoming? at upcoming
  split at upcoming
  · cases upcoming
  · next kept =>
    obtain ⟨inside, rfl⟩ := List.getElem?_eq_some_iff.mp upcoming
    have following : (reader.position + 1 + 1).toNat = (reader.position + 1).toNat + 1 := by omega
    refine ⟨by simpa using kept, ?_⟩
    rw [course, if_neg kept, List.drop_eq_getElem_cons inside, following]
    rfl

theorem course_of_none (upcoming : reader.upcoming? records = none) :
    reader.course records = Course.spent := by
  unfold upcoming? at upcoming
  split at upcoming
  · next discarded => exact if_pos discarded
  · next kept =>
    rw [course, if_neg kept, List.drop_eq_nil_of_le (List.getElem?_eq_none_iff.mp upcoming)]
    rfl

theorem look_course (start_le : -1 ≤ reader.position) :
    (reader.course records).look =
      (.ok (reader.upcoming? records).isSome, reader.course records) := by
  cases upcoming : reader.upcoming? records with
  | none =>
      rw [course_of_none upcoming]
      rfl
  | some record =>
      simp [(course_of_upcoming start_le upcoming).2, Course.look]

theorem left_onto {record : Record} (start_le : -1 ≤ reader.position)
    (upcoming : reader.upcoming? records = some record) :
    (reader.onto record).left records < reader.left records := by
  obtain ⟨kept, _⟩ := course_of_upcoming start_le upcoming
  have inside : (reader.position + 1).toNat < records.length := by
    simp only [upcoming?, kept] at upcoming
    exact (List.getElem?_eq_some_iff.mp upcoming).1
  have position : (reader.onto record).position = reader.position + 1 := rfl
  simp only [left, kept, position]
  split <;> simp <;> omega

theorem left_le : reader.left records ≤ records.length := by
  unfold left
  split
  · exact Nat.zero_le _
  · exact Nat.sub_le _ _

end Reader

namespace Cursor

variable {σ τ υ α : Type} [Source σ (Option Record)] {records : List Record}

/-- The cursor stands where the reader does, and the same records are before
it. -/
structure Mirrors (records : List Record) (scene : Scene (Cursor σ Record τ))
    (mirror : Scene Reader) : Prop where
  hasCourse : HasCourse scene mirror.state.toPlace (mirror.state.course records)
  start_le : -1 ≤ mirror.state.position

namespace Mirrors

theorem toPlace_eq {scene : Scene (Cursor σ Record τ)} {mirror : Scene Reader}
    (mirrors : Mirrors records scene mirror) : scene.state.toPlace = mirror.state.toPlace :=
  mirrors.hasCourse.place_eq

/-- Two actions that a cursor and its mirror answer with the same. -/
abbrev Both (records : List Record) (first : Action (Cursor σ Record τ) α)
    (second : Action Reader α) : Prop :=
  Simulates (Mirrors records) Eq first second

theorem present :
    Simulates (Mirrors records) (fun (cursor : Cursor σ Record τ) (reader : Reader) =>
      cursor.toPlace = reader.toPlace) Action.present Action.present :=
  fun _ _ mirrors => ⟨.ok mirrors.toPlace_eq, mirrors⟩

theorem read (view : Place Record → Except Fault α) :
    Both records (Cursor.read view : Action (Cursor σ Record τ) α) (Reader.read view) := by
  apply present.bind
  intro cursor reader same
  rw [same]
  exact .ofExcept (.of_eq rfl)

theorem move {step : Place Record → Place Record}
    (stays : ∀ place, (step place).position = place.position) :
    Both records (Cursor.move step : Action (Cursor σ Record τ) Unit) (Reader.move step) := by
  intro scene mirror mirrors
  have moved := mirrors.hasCourse.move step
  have same : ({ mirror.state with toPlace := step mirror.state.toPlace } : Reader).course
      records = mirror.state.course records := by
    simp only [Reader.course, stays]
  refine ⟨.ok rfl, ?_, ?_⟩
  · rw [← same] at moved
    exact moved
  · show -1 ≤ (step mirror.state.toPlace).position
    rw [stays]
    exact mirrors.start_le

theorem discard :
    Both records (Cursor.discard : Action (Cursor σ Record τ) Unit) Reader.discard := by
  intro scene mirror mirrors
  obtain ⟨answer, hasCourse⟩ := mirrors.hasCourse.discard
  rw [Reader.closing_course] at answer
  exact ⟨.of_eq answer, hasCourse, mirrors.start_le⟩

theorem hasNext :
    Both records (onAhead LookAhead.hasNext : Action (Cursor σ Record τ) Bool)
      (Reader.hasNext records) := by
  intro scene mirror mirrors
  obtain ⟨answer, hasCourse⟩ := mirrors.hasCourse.hasNext
  rw [Reader.look_course mirrors.start_le] at answer hasCourse
  exact ⟨.of_eq answer, hasCourse, mirrors.start_le⟩

/-- Where the reader finds a record the cursor finds it, too, and both discard the
rest at the limit. -/
theorem next :
    Both records (Cursor.next : Action (Cursor σ Record τ) Bool) (Reader.next records) := by
  intro scene mirror mirrors
  have start_le := mirrors.start_le
  cases isOpen : mirror.state.isOpen with
  | false =>
      rw [run_next_of_closed (mirrors.hasCourse.isOpen_eq.trans isOpen),
        Reader.run_next_of_closed isOpen]
      exact ⟨.error _, mirrors⟩
  | true =>
      obtain ⟨answer, hasCourse⟩ := mirrors.hasCourse.next isOpen
      cases upcoming : mirror.state.upcoming? records with
      | none =>
          have spent := Reader.course_of_none upcoming
          rw [spent] at answer hasCourse
          rw [Reader.run_next_of_none isOpen upcoming]
          have after : mirror.state.cleared.course records = Course.spent := spent
          exact ⟨.of_eq answer, after ▸ hasCourse, start_le⟩
      | some record =>
          obtain ⟨kept, course⟩ := Reader.course_of_upcoming start_le upcoming
          rw [course, advanceOf, Course.closing_ofItems] at answer hasCourse
          rw [Reader.run_next_of_some isOpen upcoming, Reader.onto, kept, Bool.false_or]
          have later_le : -1 ≤ mirror.state.position + 1 := by omega
          by_cases atLimit : mirror.state.position + 1 = mirror.state.limit
          · rw [if_pos atLimit] at answer hasCourse
            rw [decide_eq_true atLimit]
            exact ⟨.of_eq answer, hasCourse, later_le⟩
          · rw [if_neg atLimit] at answer hasCourse
            rw [decide_eq_false atLimit]
            exact ⟨.of_eq answer, hasCourse, later_le⟩

/-- What an advance meets: a closed cursor, the end, or a record. -/
theorem next_cases {scene : Scene (Cursor σ Record τ)} {mirror : Scene Reader}
    (mirrors : Mirrors records scene mirror) :
    (mirror.state.isOpen = false ∧
      Cursor.next.run scene = (.error (.misuse .closed), scene)) ∨
    (mirror.state.isOpen = true ∧ mirror.state.upcoming? records = none ∧
      ∃ after, Cursor.next.run scene = (.ok false, after) ∧
        Mirrors records after (mirror.withState mirror.state.cleared)) ∨
    (mirror.state.isOpen = true ∧ ∃ record, mirror.state.upcoming? records = some record ∧
      ∃ after, Cursor.next.run scene = (.ok true, after) ∧ after.state.current = some record ∧
        Mirrors records after (mirror.withState (mirror.state.onto record))) := by
  obtain ⟨agree, later⟩ := next scene mirror mirrors
  rcases moved : Cursor.next.run scene with ⟨outcome, after⟩
  rw [moved] at agree later
  cases isOpen : mirror.state.isOpen with
  | false =>
      left
      rw [run_next_of_closed (mirrors.hasCourse.isOpen_eq.trans isOpen)] at moved
      exact ⟨rfl, moved.symm⟩
  | true =>
      right
      cases upcoming : mirror.state.upcoming? records with
      | none =>
          rw [Reader.run_next_of_none isOpen upcoming] at agree later
          cases agree.eq
          exact .inl ⟨rfl, rfl, after, rfl, later⟩
      | some record =>
          rw [Reader.run_next_of_some isOpen upcoming] at agree later
          cases agree.eq
          exact .inr ⟨rfl, record, rfl, after, rfl, congrArg Place.current later.toPlace_eq, later⟩

/-! ## Loops -/

theorem skipUpTo (wanted : Nat) :
    Simulates (Mirrors records) (fun count passed => count = passed.length)
      (Cursor.skipUpTo wanted : Action (Cursor σ Record τ) Nat)
      (Reader.forward records wanted) := by
  induction wanted with
  | zero => exact .result rfl
  | succ wanted ih =>
      intro scene mirror mirrors
      rw [run_skipUpTo_succ]
      rcases mirrors.next_cases with ⟨closed, moved⟩ | ⟨isOpen, upcoming, after, moved, later⟩ |
        ⟨isOpen, record, upcoming, after, moved, _, later⟩
      · rw [moved, Reader.run_forward_of_closed closed]
        exact ⟨.error _, mirrors⟩
      · rw [moved, Reader.run_forward_of_none isOpen upcoming]
        exact ⟨.ok rfl, later⟩
      · rw [moved, Reader.run_forward_of_some isOpen upcoming]
        obtain ⟨agree, last⟩ := ih after _ later
        exact ⟨agree.map fun _ _ same => congrArg (· + 1) same, last⟩

/-- Reading to the end meets the end within as many moves as there are records,
and one more. -/
theorem drainFrom {wanted : Nat} {scene : Scene (Cursor σ Record τ)} {mirror : Scene Reader}
    (mirrors : Mirrors records scene mirror) (enough : mirror.state.left records < wanted) :
    Agree (fun _ _ => True) (Cursor.drainFrom scene).1
        ((Reader.forward records wanted).run mirror).1 ∧
      Mirrors records (Cursor.drainFrom scene).2
        ((Reader.forward records wanted).run mirror).2 := by
  induction wanted generalizing scene mirror with
  | zero => simp at enough
  | succ wanted ih =>
      rw [drainFrom_eq]
      rcases mirrors.next_cases with ⟨closed, moved⟩ | ⟨isOpen, upcoming, after, moved, later⟩ |
        ⟨isOpen, record, upcoming, after, moved, _, later⟩
      · rw [moved, Reader.run_forward_of_closed closed]
        exact ⟨.error _, mirrors⟩
      · rw [moved, Reader.run_forward_of_none isOpen upcoming]
        exact ⟨.ok trivial, later⟩
      · have fewer := Reader.left_onto mirrors.start_le upcoming
        have stillEnough : (mirror.state.onto record).left records < wanted := by omega
        obtain ⟨agree, last⟩ := ih later stillEnough
        rw [moved, Reader.run_forward_of_some isOpen upcoming]
        exact ⟨agree.mapRight _, last⟩

theorem collectFrom {bound : Option Nat} {wanted : Nat} {scene : Scene (Cursor σ Record τ)}
    {mirror : Scene Reader} (mirrors : Mirrors records scene mirror)
    (enough : bound = some wanted ∨ bound = none ∧ mirror.state.left records < wanted) :
    Agree (fun taken passed => taken = passed.map some) (Source.collectFrom bound scene).1
        ((Reader.forward records wanted).run mirror).1 ∧
      Mirrors records (Source.collectFrom bound scene).2
        ((Reader.forward records wanted).run mirror).2 := by
  induction wanted generalizing bound scene mirror with
  | zero =>
      rcases enough with rfl | ⟨_, less⟩
      · rw [Source.collectFrom, if_pos rfl]
        exact ⟨.ok rfl, mirrors⟩
      · simp at less
  | succ wanted ih =>
      have more : bound ≠ some 0 := by
        rcases enough with rfl | ⟨rfl, _⟩ <;> simp
      rw [collectFrom_eq more, advance, Action.run_bind]
      rcases mirrors.next_cases with ⟨closed, moved⟩ | ⟨isOpen, upcoming, after, moved, later⟩ |
        ⟨isOpen, record, upcoming, after, moved, current, later⟩
      · rw [moved, Reader.run_forward_of_closed closed]
        exact ⟨.error _, mirrors⟩
      · rw [moved, Reader.run_forward_of_none isOpen upcoming]
        exact ⟨.ok rfl, later⟩
      · have fewer := Reader.left_onto mirrors.start_le upcoming
        have stillEnough : bound.map Nat.pred = some wanted ∨
            bound.map Nat.pred = none ∧ (mirror.state.onto record).left records < wanted := by
          rcases enough with rfl | ⟨rfl, less⟩
          · exact .inl rfl
          · exact .inr ⟨rfl, by omega⟩
        obtain ⟨agree, last⟩ := ih later stillEnough
        rw [moved, Reader.run_forward_of_some isOpen upcoming]
        simp only [if_true, Action.run_bind, Action.run_present, current, Action.run_pure]
        refine ⟨agree.map fun taken passed same => ?_, last⟩
        rw [same]
        rfl

theorem gatherFrom (map : Place Record → Except Fault α) {wanted : Nat}
    {scene : Scene (Cursor σ Record τ)} {mirror : Scene Reader}
    (mirrors : Mirrors records scene mirror) (enough : mirror.state.left records < wanted) :
    Agree Eq (Cursor.gatherFrom map scene).1 ((Reader.gather records map wanted).run mirror).1 ∧
      Mirrors records (Cursor.gatherFrom map scene).2
        ((Reader.gather records map wanted).run mirror).2 := by
  induction wanted generalizing scene mirror with
  | zero => simp at enough
  | succ wanted ih =>
      have same := mirrors.toPlace_eq
      cases current : mirror.state.current with
      | none =>
          have noneHere : scene.state.current = none :=
            (congrArg Place.current same).trans current
          rw [Reader.run_gather_of_none current, gatherFrom_of_none noneHere]
          exact ⟨.ok rfl, mirrors⟩
      | some record =>
          have currentHere : scene.state.current = some record :=
            (congrArg Place.current same).trans current
          cases mapped : map mirror.state.toPlace with
          | error fault =>
              rw [Reader.run_gather_of_error current mapped,
                gatherFrom_of_error currentHere (same ▸ mapped)]
              exact ⟨.error _, mirrors⟩
          | ok value =>
              rw [Reader.run_gather_of_ok current mapped,
                gatherFrom_of_ok currentHere (same ▸ mapped)]
              rcases mirrors.next_cases with ⟨closed, moved⟩ |
                ⟨isOpen, upcoming, after, moved, later⟩ |
                ⟨isOpen, next, upcoming, after, moved, _, later⟩
              · rw [moved, Reader.run_next_of_closed closed]
                exact ⟨.error _, mirrors⟩
              · have ended : (mirror.withState mirror.state.cleared).state.current = none := rfl
                rw [moved, Reader.run_next_of_none isOpen upcoming]
                simp only [Reader.run_gather_of_none ended]
                exact ⟨.ok rfl, later⟩
              · have fewer := Reader.left_onto mirrors.start_le upcoming
                have stillEnough : (mirror.state.onto next).left records < wanted := by omega
                obtain ⟨agree, last⟩ := ih later stillEnough
                rw [moved, Reader.run_next_of_some isOpen upcoming]
                exact ⟨agree.map fun _ _ same => congrArg _ same, last⟩

/-! ## Operations -/

theorem drain :
    Simulates (Mirrors records) (fun _ _ => True)
      (⟨Cursor.drainFrom⟩ : Action (Cursor σ Record τ) Unit) (Reader.drain records) :=
  fun _ _ mirrors => mirrors.drainFrom (Nat.lt_succ_of_le Reader.left_le)

theorem collect (bound : Option Nat) :
    Simulates (Mirrors records) (fun taken passed => taken = passed.map some)
      (Source.collect bound : Action (Cursor σ Record τ) (List (Option Record)))
      (Reader.collect records bound) := by
  intro scene mirror mirrors
  cases bound with
  | none => exact mirrors.collectFrom (.inr ⟨rfl, Nat.lt_succ_of_le Reader.left_le⟩)
  | some bound => exact mirrors.collectFrom (.inl rfl)

theorem skip (count : Int) :
    Both records (Cursor.skip count : Action (Cursor σ Record τ) Nat)
      (Reader.skip records count) := by
  apply Simulates.refuseIf Iff.rfl
  apply (read Place.requireOpen).seq
  intro _
  rw [← bind_pure (Cursor.skipUpTo count.toNat)]
  exact (skipUpTo count.toNat).bind fun _ _ same => .result same

theorem setLimit (count : Int) :
    Both records (Cursor.setLimit count : Action (Cursor σ Record τ) Int)
      (Reader.setLimit count) := by
  have limit : Both records
      (do let cursor ← Action.present; return cursor.limit : Action (Cursor σ Record τ) Int)
      (do let reader ← Action.present; return reader.limit) :=
    present.bind fun _ _ same => .result (congrArg Place.limit same)
  apply Simulates.refuseIf Iff.rfl
  apply (read Place.requireOpen).seq
  intro _
  refine Simulates.seq (move ?_) fun _ => .choose Iff.rfl (discard.seq fun _ => limit) limit
  intro place
  rfl

theorem peek :
    Simulates (Mirrors records) (fun seen record => seen = some record)
      (Cursor.peek : Action (Cursor σ Record τ) (Option Record)) (Reader.peek records) := by
  intro scene mirror mirrors
  cases isOpen : mirror.state.isOpen with
  | false =>
      rw [Cursor.peek, run_requireOpen_of_closed (mirrors.hasCourse.isOpen_eq.trans isOpen),
        Reader.run_peek_of_closed isOpen]
      exact ⟨.error _, mirrors⟩
  | true =>
      obtain ⟨answer, hasCourse⟩ := mirrors.hasCourse.peek isOpen
      rw [Reader.look_course mirrors.start_le] at hasCourse
      have after : Mirrors records (Cursor.peek.run scene).2 mirror := ⟨hasCourse, mirrors.start_le⟩
      rw [Reader.run_peek_of_open isOpen]
      cases upcoming : mirror.state.upcoming? records with
      | none =>
          rw [Reader.course_of_none upcoming] at answer
          rw [answer]
          exact ⟨.error _, after⟩
      | some record =>
          rw [(Reader.course_of_upcoming mirrors.start_le upcoming).2] at answer
          rw [answer]
          exact ⟨.ok rfl, after⟩

theorem first :
    Both records (Cursor.first : Action (Cursor σ Record τ) Record) (Reader.first records) := by
  apply (read Place.openPosition).seq
  intro position
  apply Simulates.refuseIf Iff.rfl
  apply Simulates.choose Iff.rfl
  · exact next.seq fun moved => .refuseIf Iff.rfl (read Place.record)
  · exact read Place.record

theorem single :
    Both records (Cursor.single : Action (Cursor σ Record τ) Record) (Reader.single records) :=
  first.seq fun _ => hasNext.seq fun _ => .refuseIf Iff.rfl (.result rfl)

theorem advance :
    Both records (Cursor.advance : Action (Cursor σ Record τ) (Option Record))
      (Reader.advance records) := by
  apply next.seq
  intro moved
  apply Simulates.choose Iff.rfl
  · exact present.bind fun _ _ same => .result (congrArg Place.current same)
  · exact .refusal

theorem close :
    Both records (Cursor.close : Action (Cursor σ Record τ) Unit) Reader.close := by
  apply present.bind
  intro cursor reader same
  apply Simulates.refuseIf
  · rw [show cursor.isOpen = reader.isOpen from congrArg Place.isOpen same]
  apply discard.seq
  intro _ scene mirror mirrors
  have shut : Both records
      (Cursor.move fun place => { place with isOpen := false } : Action (Cursor σ Record τ) Unit)
      (Reader.move fun place => { place with isOpen := false }) :=
    move fun _ => rfl
  obtain ⟨agree, last⟩ := shut scene mirror mirrors
  exact ⟨agree, ⟨last.hasCourse.place_eq, last.hasCourse.leaves⟩, last.start_le⟩

theorem list (map : Place Record → Except Fault α) :
    Both records (Cursor.list map : Action (Cursor σ Record τ) (List α))
      (Reader.list records map) := by
  have gather :
      Both records (Cursor.gather (Place.inCoroutine map) : Action (Cursor σ Record τ) (List α))
        (Reader.gatherAll records (Place.inCoroutine map)) := by
    apply Simulates.seq (fun _ _ mirrors =>
      mirrors.gatherFrom (Place.inCoroutine map) (Nat.lt_succ_of_le Reader.left_le))
    intro values
    exact discard.seq fun _ => .result rfl
  apply (read Place.requireOpen).seq
  intro _
  apply present.bind
  intro cursor reader same
  have position : cursor.position = reader.position := congrArg Place.position same
  rw [position]
  apply Simulates.choose Iff.rfl
  · apply hasNext.seq
    intro more
    exact .choose Iff.rfl (next.seq fun _ => gather) (.result rfl)
  · exact .choose Iff.rfl gather .refusal

theorem leave :
    Both records (Cursor.leave : Action (Cursor σ Record τ) Unit) Reader.leave := by
  apply present.bind
  intro cursor reader same
  apply Simulates.choose
  · rw [show cursor.isOpen = reader.isOpen from congrArg Place.isOpen same]
  · exact close
  · exact .result rfl

theorem atEnd :
    Both records (Cursor.atEnd : Action (Cursor σ Record τ) Bool) (Reader.atEnd records) :=
  (read Place.requireOpen).seq fun _ => hasNext.seq fun _ => .result rfl

end Mirrors

/-- An answer of a cursor and one of a reader that belong together: the same value,
or a summary and the one that is given. -/
inductive Matches (given : υ) : CursorAnswer τ → CursorAnswer υ → Prop where
  | value (value : Value) : Matches given (.value value) (.value value)
  | summary (final : τ) : Matches given (.summary final) (.summary given)

namespace Mirrors

theorem answering {β : Type} {given : υ} {same : α → β → Prop}
    {action : Action (Cursor σ Record τ) α} {action' : Action Reader β} {make : α → Value}
    {make' : β → Value} (simulates : Simulates (Mirrors records) same action action')
    (equal : ∀ left right, same left right → make left = make' right) :
    Simulates (Mirrors records) (Matches given) (Cursor.answering action make)
      (Reader.answering action' make') := by
  apply simulates.bind
  intro left right belong
  rw [equal left right belong]
  exact .result (.value _)

theorem answeringBoth {given : υ} {action : Action (Cursor σ Record τ) α}
    {action' : Action Reader α} {make : α → Value} (both : Both records action action') :
    Simulates (Mirrors records) (Matches given) (Cursor.answering action make)
      (Reader.answering action' make) :=
  answering both fun _ _ same => congrArg make same

theorem perform (given : υ) (operation : CursorOperation) :
    Simulates (Mirrors records) (Matches given)
      (Cursor.perform operation : Action (Cursor σ Record τ) (CursorAnswer τ))
      (Reader.perform records given operation) := by
  cases operation with
  | next => exact answeringBoth next
  | skip count => exact answeringBoth (skip count)
  | limit count => exact answeringBoth (setLimit count)
  | peek => exact answering peek fun _ _ same => congrArg Record.valueOf same
  | atEnd => exact answeringBoth atEnd
  | record => exact answeringBoth (read _)
  | position => exact answeringBoth (read _)
  | first key => exact first.seq fun record => answeringBoth (.ofExcept (.of_eq rfl))
  | single key => exact single.seq fun record => answeringBoth (.ofExcept (.of_eq rfl))
  | list map => exact answeringBoth (list map)
  | summarize =>
      simp only [Cursor.perform, Cursor.summarize, bind_assoc]
      apply drain.bind
      intro _ _ _
      exact discard.seq fun _ => fun _ _ mirrors => ⟨.ok (.summary _), mirrors⟩
  | close => exact answeringBoth close
  | keys => exact answeringBoth (read _)
  | size => exact answeringBoth (read _)
  | containsKey column => exact answeringBoth (read _)
  | index column => exact answeringBoth (read _)
  | get key => exact answeringBoth (read _)
  | isOpen => exact answeringBoth (read _)
  | literal => exact answeringBoth (read _)
  | enter => exact .result (.value _)
  | leave => exact answeringBoth leave
  | advance => exact answeringBoth advance
  | collect bound =>
      refine answering (collect bound) fun taken passed same => ?_
      rw [same, List.map_map]
      rfl

theorem observe_eq {view : τ → υ} {given : υ} {scene : Scene (Cursor σ Record τ)}
    {mirror : Scene Reader} (mirrors : Mirrors records scene mirror)
    (shows : Shows view given scene) (operation : CursorOperation) :
    observe view ((Cursor.perform operation).run scene) =
      Reader.observe ((Reader.perform records given operation).run mirror) := by
  obtain ⟨agree, after⟩ := perform given operation scene mirror mirrors
  have final := (shows.perform operation).2
  refine Prod.ext ?_ after.toPlace_eq
  rcases ran : (Cursor.perform operation).run scene with ⟨outcome, last⟩
  rcases ran' : (Reader.perform records given operation).run mirror with ⟨outcome', last'⟩
  rw [ran] at final
  rw [ran, ran'] at agree
  simp only [observe, Reader.observe]
  cases agree with
  | error => rfl
  | ok same =>
      cases same with
      | value => rfl
      | summary summary =>
          rw [summary_of_perform ran]
          simp only [Except.map, CursorAnswer.map, final]

end Mirrors

theorem Mirrors.runAll_eq {view : τ → υ} {given : υ} (operations : List CursorOperation)
    {scene : Scene (Cursor σ Record τ)} {mirror : Scene Reader}
    (mirrors : Mirrors records scene mirror) (shows : Shows view given scene) :
    (Action.runAll (operations.map Cursor.perform) scene).map (observe view) =
      (Action.runAll (operations.map (Reader.perform records given)) mirror).map
        Reader.observe := by
  let related (scene : Scene (Cursor σ Record τ)) (mirror : Scene Reader) : Prop :=
    Mirrors records scene mirror ∧ Shows view given scene
  have together : related scene mirror := ⟨mirrors, shows⟩
  apply Action.runAll_eq ?_ together
  rintro operation _ scene mirror ⟨mirrors, shows⟩
  exact ⟨mirrors.observe_eq shows operation,
    (Mirrors.perform given operation scene mirror mirrors).2, shows.perform operation⟩

/-- A cursor over records that never fail is seen as a reader of them. -/
theorem cursor_reads {keys : List Value} {records : List Record} {source : σ} {summary : σ → τ}
    {clock : Clock} {journal : List Message} {view : τ → υ}
    (follows : Source.Follows source clock (.ofItems (records.map some)))
    (steady : Source.Steady fun source => view (summary source))
    (operations : List CursorOperation) :
    (Action.runAll (operations.map perform)
        ⟨ofSource keys source summary, clock, journal⟩).map (observe view) =
      (Action.runAll (operations.map (Reader.perform records (view (summary source))))
        ⟨{ keys }, {}, []⟩).map Reader.observe := by
  have hasCourse : HasCourse ⟨ofSource keys source summary, clock, journal⟩ { keys }
      (.ofItems (records.map some)) := .ofSource journal follows
  exact Mirrors.runAll_eq operations ⟨hasCourse, Int.le_refl _⟩ ⟨steady, rfl⟩

/-- A cursor over a generator of three records, with a limit on the way. -/
theorem cursor_reads_generator :
    (Action.runAll ([.peek, .limit 2, .first none, .limit 1, .atEnd, .list Place.recordValue,
          .summarize, .close, .next].map perform)
        ⟨ofSource [.string "n"]
          (⟨.plain, .generator, ([⟨[(.string "n", .int 1)]⟩, ⟨[(.string "n", .int 2)]⟩,
            ⟨[(.string "n", .int 3)]⟩].map some).map .item, 0, false, 0⟩ :
            Script (Option Record))
          fun _ => (), {}, []⟩).map (observe id) =
      (Action.runAll ([.peek, .limit 2, .first none, .limit 1, .atEnd, .list Place.recordValue,
          .summarize, .close, .next].map (Reader.perform [⟨[(.string "n", .int 1)]⟩,
            ⟨[(.string "n", .int 2)]⟩, ⟨[(.string "n", .int 3)]⟩] ()))
        ⟨{ keys := [.string "n"] }, {}, []⟩).map Reader.observe :=
  cursor_reads (Script.follows_items {} rfl rfl rfl) (fun _ => ⟨rfl, rfl⟩) _

end Cursor

end QueryCursor
