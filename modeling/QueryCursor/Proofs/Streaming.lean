import QueryCursor.Proofs.Tables
import QueryCursor.Proofs.Timing
import QueryCursor.RowStream.Operation

/-!
# Row streams by themselves

A row stream can be asked for records, walked over and closed in any order.  It makes the
records of the rows one after the other, and it is over once: when it is closed, or when it is
asked for one record more than there are rows.  That is when it reads the clock again and
enters the time it took, and from then on nothing about it changes.
-/

namespace QueryCursor

/-- The records that an operation of a stream gave. -/
def RowStreamAnswer.given : Except Fault RowStreamAnswer → List (Option Record)
  | .ok (.record item) => [item]
  | .ok (.records items) => items
  | _ => []

namespace RowStreamOperation

/-- How many of the rows that are left an operation takes. -/
def takes (left : Nat) : RowStreamOperation → Nat
  | .pull => min 1 left
  | .close => 0
  | .collect none => left
  | .collect (some bound) => min bound left

/-- Whether an operation closes a stream that has so many rows left. -/
def closes (left : Nat) : RowStreamOperation → Bool
  | .pull => left = 0
  | .close => true
  | .collect none => true
  | .collect (some bound) => left < bound

theorem takes_le (left : Nat) (operation : RowStreamOperation) : operation.takes left ≤ left := by
  cases operation with
  | pull => exact Nat.min_le_right 1 left
  | close => exact Nat.zero_le left
  | collect bound =>
      cases bound with
      | none => exact Nat.le_refl left
      | some bound => exact Nat.min_le_right bound left

@[simp] theorem takes_collect_nothing (left : Nat) : (collect (some 0)).takes left = 0 :=
  Nat.zero_min left

@[simp] theorem closes_collect_nothing (left : Nat) : (collect (some 0)).closes left = false := by
  simp [closes]

@[simp] theorem takes_collect_zero (bound : Option Nat) : (collect bound).takes 0 = 0 := by
  cases bound <;> simp [takes]

theorem closes_collect_zero {bound : Option Nat} (more : bound ≠ some 0) :
    (collect bound).closes 0 = true := by
  cases bound with
  | none => rfl
  | some bound =>
      cases bound with
      | zero => exact absurd rfl more
      | succ bound => simp [closes]

/-- A walk that wants a row goes on after the first one as one that wants a row less. -/
theorem collect_succ {bound : Option Nat} (more : bound ≠ some 0) (left : Nat) :
    (collect bound).takes (left + 1) = (collect (bound.map Nat.pred)).takes left + 1 ∧
      (collect bound).closes (left + 1) = (collect (bound.map Nat.pred)).closes left := by
  cases bound with
  | none => exact ⟨rfl, rfl⟩
  | some bound =>
      cases bound with
      | zero => exact absurd rfl more
      | succ bound => simp [takes, closes, Nat.add_min_add_right]

end RowStreamOperation

namespace RowStream

/-- The scene after operations. -/
def sceneAfter (operations : List RowStreamOperation) (scene : Scene RowStream) :
    Scene RowStream :=
  operations.foldl (fun scene operation => ((perform operation).run scene).2) scene

/-- The records that operations gave, in order. -/
def delivered (operations : List RowStreamOperation) (scene : Scene RowStream) :
    List (Option Record) :=
  (Action.runAll (operations.map perform) scene).flatMap fun performed =>
    RowStreamAnswer.given performed.1

theorem delivered_cons (operation : RowStreamOperation) (operations : List RowStreamOperation)
    (scene : Scene RowStream) :
    delivered (operation :: operations) scene =
      RowStreamAnswer.given ((perform operation).run scene).1 ++
        delivered operations ((perform operation).run scene).2 := rfl

theorem sceneAfter_cons (operation : RowStreamOperation) (operations : List RowStreamOperation)
    (scene : Scene RowStream) :
    sceneAfter (operation :: operations) scene =
      sceneAfter operations ((perform operation).run scene).2 := rfl

/-! ## Closed streams -/

theorem run_pull_of_closed {scene : Scene RowStream} (closed : scene.state.closed = true) :
    pull.run scene = (.error Fault.ended, scene) := by
  have released := run_close_of_closed closed scene.clock scene.journal
  simp only [pull, nextRow?, closed, if_true, Action.run_bind, Action.run_present,
    Action.run_ofExcept]
  rw [released]
  rfl

/-- Nothing is delivered by a closed stream, and nothing changes about it. -/
theorem run_perform_of_closed {scene : Scene RowStream} (closed : scene.state.closed = true)
    (operation : RowStreamOperation) :
    RowStreamAnswer.given ((perform operation).run scene).1 = [] ∧
      ((perform operation).run scene).2 = scene := by
  have pulled := run_pull_of_closed closed
  cases operation with
  | pull => simp [perform, pulled, Except.map, RowStreamAnswer.given]
  | close =>
      have released := run_close_of_closed closed scene.clock scene.journal
      simp [perform, released, Except.map, RowStreamAnswer.given]
  | collect bound =>
      have walked : Source.collectFrom bound scene = (.ok [], scene) := by
        by_cases none : bound = some 0
        · rw [Source.collectFrom, if_pos none]
        · have asked : Source.pull.run scene = _ := pulled
          rw [Source.collectFrom_eq none, asked]
          rfl
      simp [perform, Source.collect, walked, Except.map, RowStreamAnswer.given]

theorem after_closed {scene : Scene RowStream} (closed : scene.state.closed = true)
    (operations : List RowStreamOperation) :
    delivered operations scene = [] ∧ sceneAfter operations scene = scene := by
  induction operations with
  | nil => exact ⟨rfl, rfl⟩
  | cons operation operations ih =>
      obtain ⟨nothing, same⟩ := run_perform_of_closed closed operation
      rw [delivered_cons, sceneAfter_cons, nothing, same]
      exact ih

/-! ## Open streams -/

/-- The scene after a stream has produced so many rows, and was not closed. -/
def running (start : Scene RowStream) (produced : Nat) : Scene RowStream :=
  start.withState { start.state with produced }

/-- The scene after a stream has produced so many rows and was closed: one more reading of the
clock was taken, and the time up to it is entered. -/
def ended (start : Scene RowStream) (elapsed : Int) (produced : Nat) : Scene RowStream where
  state := { start.state with
    produced
    closed := true
    summary := { start.state.summary with consumedAfter := .int elapsed } }
  clock := start.clock.advance
  journal := start.journal

/-- A stream has been opened over rows, and the reading of the clock that comes next is so many
milliseconds after that. -/
structure Opened (keys : List Value) (rows : List Entries) (elapsed : Int)
    (start : Scene RowStream) : Prop where
  keys_eq : start.state.keys = keys
  rows_eq : start.state.rows = .sequence (rows.map Row.mapping)
  isOpen : start.state.closed = false
  elapsed_eq : start.state.started.millisecondsBetween start.clock.reading = .ok elapsed
  hashable : ∀ column ∈ keys, ∃ code, column.hash = .ok code

namespace Opened

variable {keys : List Value} {rows left : List Entries} {elapsed : Int} {start : Scene RowStream}
  {produced : Nat}

theorem run_close (opened : Opened keys rows elapsed start) (produced : Nat) :
    close.run (running start produced) = (.ok (), ended start elapsed produced) := by
  have isOpen : (running start produced).state.closed = false := opened.isOpen
  have measured : (running start produced).state.started.millisecondsBetween
      start.clock.reading = .ok elapsed := opened.elapsed_eq
  exact run_close_of_measured isOpen measured start.journal

theorem nextRow?_eq (opened : Opened keys rows elapsed start) (produced : Nat) :
    (running start produced).state.nextRow? =
      .ok ((rows.drop produced).map Row.mapping).head? := by
  have listed : (running start produced).state.rows.Listed (rows.map Row.mapping) :=
    opened.rows_eq ▸ Rows.listed_sequence _
  have isOpen : (running start produced).state.closed = false := opened.isOpen
  rw [nextRow?_of_listed isOpen listed, ← List.map_drop]
  rfl

theorem run_pull_of_cons (opened : Opened keys rows elapsed start) {row : Entries}
    (coming : rows.drop produced = row :: left) :
    pull.run (running start produced) =
      (.ok (some (Row.recordOf keys row)), running start (produced + 1)) := by
  have upcoming := opened.nextRow?_eq produced
  have made := Row.toRecord_mapping row opened.hashable
  rw [coming, List.map_cons, List.head?_cons] at upcoming
  rw [← opened.keys_eq] at made ⊢
  simp only [pull, Action.run_bind, Action.run_present, Action.run_ofExcept, upcoming,
    Action.run_change]
  simp only [running, Scene.state_withState, made]
  rfl

theorem run_pull_of_nil (opened : Opened keys rows elapsed start)
    (none : rows.drop produced = []) :
    pull.run (running start produced) = (.error Fault.ended, ended start elapsed produced) := by
  have upcoming := opened.nextRow?_eq produced
  rw [none, List.map_nil, List.head?_nil] at upcoming
  simp only [pull, Action.run_bind, Action.run_present, Action.run_ofExcept, upcoming,
    opened.run_close produced]
  rfl

/-- A walk takes as many rows as it wants, and closes the stream if it wants more than there
are. -/
theorem collectFrom_running (opened : Opened keys rows elapsed start) (bound : Option Nat)
    (coming : rows.drop produced = left) :
    let walk := RowStreamOperation.collect bound
    Source.collectFrom bound (running start produced) =
      (.ok (((left.take (walk.takes left.length)).map (Row.recordOf keys)).map some),
        if walk.closes left.length then ended start elapsed (produced + walk.takes left.length)
        else running start (produced + walk.takes left.length)) := by
  intro walk
  induction left generalizing bound produced with
  | nil =>
      by_cases none : bound = some 0
      · rw [Source.collectFrom, if_pos none]
        simp [walk, none]
      · have asked : Source.pull.run (running start produced) = _ :=
          opened.run_pull_of_nil coming
        rw [Source.collectFrom_eq none, asked]
        simp [walk, RowStreamOperation.closes_collect_zero none, Fault.ended, Fault.isStop]
  | cons row left ih =>
      by_cases none : bound = some 0
      · rw [Source.collectFrom, if_pos none]
        simp [walk, none]
      · have asked : Source.pull.run (running start produced) = _ :=
          opened.run_pull_of_cons coming
        have following : rows.drop (produced + 1) = left := by
          rw [← List.tail_drop, coming]
          rfl
        obtain ⟨takes, closes⟩ := RowStreamOperation.collect_succ none left.length
        have shifted (count : Nat) : produced + 1 + count = produced + (count + 1) := by omega
        rw [Source.collectFrom_eq none, asked]
        simp only [walk, ih (bound.map Nat.pred) following, List.length_cons, takes, closes,
          List.take_succ_cons, List.map_cons, shifted]
        rfl

/-- How an operation ends that is performed on a stream that was not closed. -/
theorem run_perform (opened : Opened keys rows elapsed start) (produced : Nat)
    (operation : RowStreamOperation) :
    let left := rows.length - produced
    RowStreamAnswer.given ((perform operation).run (running start produced)).1 =
        (((rows.drop produced).take (operation.takes left)).map (Row.recordOf keys)).map some ∧
      ((perform operation).run (running start produced)).2 =
        if operation.closes left then ended start elapsed (produced + operation.takes left)
        else running start (produced + operation.takes left) := by
  intro left
  have length : (rows.drop produced).length = left := List.length_drop
  cases operation with
  | close =>
      have released := opened.run_close produced
      simp [perform, released, Except.map, RowStreamAnswer.given, RowStreamOperation.takes,
        RowStreamOperation.closes]
  | collect bound =>
      have walked := opened.collectFrom_running bound (Eq.refl (rows.drop produced))
      rw [length] at walked
      simp [perform, Source.collect, walked, Except.map, RowStreamAnswer.given]
  | pull =>
      rw [← length]
      cases coming : rows.drop produced with
      | nil =>
          have pulled := opened.run_pull_of_nil coming
          simp [perform, pulled, Except.map, RowStreamAnswer.given, RowStreamOperation.takes,
            RowStreamOperation.closes]
      | cons row others =>
          have pulled := opened.run_pull_of_cons coming
          simp [perform, pulled, Except.map, RowStreamAnswer.given, RowStreamOperation.takes,
            RowStreamOperation.closes]

/-- Whatever is asked of a stream, it delivers rows in order, and either it goes on or it was
closed once. -/
theorem run_all (opened : Opened keys rows elapsed start) (operations : List RowStreamOperation)
    (within : produced ≤ rows.length) :
    ∃ last, produced ≤ last ∧ last ≤ rows.length ∧
      delivered operations (running start produced) =
        (((rows.drop produced).take (last - produced)).map (Row.recordOf keys)).map some ∧
      (sceneAfter operations (running start produced) = running start last ∨
        sceneAfter operations (running start produced) = ended start elapsed last) := by
  induction operations generalizing produced with
  | nil => exact ⟨produced, Nat.le_refl _, within, by simp [delivered, Action.runAll], .inl rfl⟩
  | cons operation operations ih =>
      obtain ⟨given, after⟩ := opened.run_perform produced operation
      have some := operation.takes_le (rows.length - produced)
      rw [delivered_cons, sceneAfter_cons, given, after]
      cases operation.closes (rows.length - produced) with
      | true =>
          have closed : (ended start elapsed
              (produced + operation.takes (rows.length - produced))).state.closed = true := rfl
          obtain ⟨nothing, same⟩ := after_closed closed operations
          refine ⟨produced + operation.takes (rows.length - produced), by omega, by omega, ?_,
            .inr same⟩
          simp only [if_true, nothing, List.append_nil, Nat.add_sub_cancel_left]
      | false =>
          have further : produced + operation.takes (rows.length - produced) ≤ rows.length := by
            omega
          obtain ⟨last, progress, inside, delivers, stands⟩ := ih further
          refine ⟨last, by omega, inside, ?_, stands⟩
          have parts : last - produced = operation.takes (rows.length - produced) +
              (last - (produced + operation.takes (rows.length - produced))) := by omega
          simp only [Bool.false_eq_true, if_false, delivers]
          rw [parts, List.take_add, List.drop_drop, List.map_append, List.map_append]

end Opened

/-- What can be said of a stream over rows, from where it was opened, after operations.  It
delivers the records of the first rows, as many as it has produced.  Until it is closed,
nothing is entered and no reading of the clock is taken; one is taken when it is closed, and
nothing changes after that. -/
structure Streamed (keys : List Value) (rows : List Entries) (start : Scene RowStream)
    (operations : List RowStreamOperation) (scene : Scene RowStream) : Prop where
  delivers : delivered operations start =
    ((rows.take scene.state.produced).map (Row.recordOf keys)).map some
  counts : (delivered operations start).length = scene.state.produced
  produced_le : scene.state.produced ≤ rows.length
  untimed : scene.state.closed = false →
    scene.state.summary = start.state.summary ∧ scene.clock = start.clock
  timed : scene.state.closed = true → ∃ elapsed : Int,
    start.state.started.millisecondsBetween start.clock.reading = .ok elapsed ∧
      scene.state.summary = { start.state.summary with consumedAfter := .int elapsed } ∧
      scene.clock = start.clock.advance
  closing : scene.state.closed = false → ∀ operation,
    ((perform operation).run scene).2.state.closed =
      operation.closes (rows.length - scene.state.produced)
  final : scene.state.closed = true →
    pull.run scene = (.error Fault.ended, scene) ∧ ∀ later, sceneAfter later scene = scene

theorem Opened.streamed {keys : List Value} {rows : List Entries} {elapsed : Int}
    {start : Scene RowStream} (opened : Opened keys rows elapsed start)
    (unread : start.state.produced = 0) (operations : List RowStreamOperation) :
    Streamed keys rows start operations (sceneAfter operations start) := by
  have fresh : running start 0 = start := by
    rw [running, ← unread]
    rfl
  obtain ⟨last, _, inside, delivers, stands⟩ := opened.run_all operations (Nat.zero_le _)
  rw [fresh, Nat.sub_zero, List.drop_zero] at delivers
  rw [fresh] at stands
  have counts : (delivered operations start).length = last := by
    simp [delivers, Nat.min_eq_left inside]
  rcases stands with stands | stands
  · have isOpen : (running start last).state.closed = false := opened.isOpen
    rw [stands]
    refine ⟨delivers, counts, inside, fun _ => ⟨rfl, rfl⟩, ?_, ?_, ?_⟩
    · intro closed
      exact nomatch isOpen.symm.trans closed
    · intro _ operation
      have produced : (running start last).state.produced = last := rfl
      rw [(opened.run_perform last operation).2, produced]
      cases operation.closes (rows.length - last) with
      | true => rfl
      | false => exact opened.isOpen
    · intro closed
      exact nomatch isOpen.symm.trans closed
  · have closed : (ended start elapsed last).state.closed = true := rfl
    rw [stands]
    refine ⟨delivers, counts, inside, nofun, ?_, nofun, ?_⟩
    · exact fun _ => ⟨elapsed, opened.elapsed_eq, rfl, rfl⟩
    · exact fun _ => ⟨run_pull_of_closed closed, fun later => (after_closed closed later).2⟩

/-- A stream makes the records of its rows in order, under keys that a mapping can be asked for,
and completes its summary once: when it is closed or asked for one record more than there are
rows, whichever comes first, and by one reading of the clock besides the one that was taken
when it was opened. -/
theorem stream_is_timed_once {σ : Type} {keys : List Value} {clock : Clock}
    (hashable : ∀ column ∈ keys, ∃ code, column.hash = .ok code) (finite : clock.Finite)
    (rows : List Entries) (summary : Summary) (state : σ) (journal : List Message)
    (operations : List RowStreamOperation) :
    ∃ stream : RowStream,
      (start keys (.sequence (rows.map Row.mapping)) summary).run ⟨state, clock, journal⟩ =
        (.ok stream, ⟨state, clock.advance, journal⟩) ∧
      stream.summary = { summary with availableAfter := .int 0 } ∧
      stream.started = clock.reading ∧
      let opened : Scene RowStream := ⟨stream, clock.advance, journal⟩
      Streamed keys rows opened operations (sceneAfter operations opened) := by
  obtain ⟨elapsed, measured⟩ := finite.timely clock.advance.reading List.mem_cons_self
  refine ⟨_, rfl, rfl, rfl, ?_⟩
  have opened : Opened keys rows elapsed ⟨{
      keys
      rows := .sequence (rows.map Row.mapping)
      started := clock.reading
      summary := { summary with availableAfter := .int 0 } }, clock.advance, journal⟩ :=
    ⟨rfl, rfl, rfl, measured, hashable⟩
  exact opened.streamed rfl operations

/-- A stream over two rows that is walked over in part, asked for two records more, and closed
when it was over. -/
theorem stream_of_two_rows_is_timed_once :
    let keys : List Value := [.string "name"]
    let rows : List Entries := [[(.string "name", .string "Ann")], [(.string "age", .int 41)]]
    let opened : Scene RowStream :=
      ⟨{ keys, rows := .sequence (rows.map Row.mapping), started := ⟨0⟩,
          summary := { availableAfter := .int 0 } }, ⟨⟨0x3FF8000000000000⟩, []⟩, []⟩
    let operations : List RowStreamOperation := [.collect (some 1), .pull, .pull, .close]
    Streamed keys rows opened operations (sceneAfter operations opened) := by
  intro keys rows opened operations
  have hashable : ∀ column ∈ keys, ∃ code, column.hash = .ok code := by simp [keys]
  have finite : Clock.Finite ⟨⟨0⟩, [⟨0x3FF8000000000000⟩]⟩ := by decide +kernel
  obtain ⟨stream, begun, _, _, streamed⟩ :=
    stream_is_timed_once hashable finite rows {} () [] operations
  cases begun
  exact streamed

end RowStream

end QueryCursor
