import QueryCursor.Proofs.Course
import QueryCursor.Record
import QueryCursor.Source.Script

/-!
# The course of a script

A script follows the course of its pending events: up to the first end among
them, and for a generator up to the first failure.
-/

namespace QueryCursor

namespace Script

variable {α : Type}

/-- The course of pending events.  They leave the way the script is released as it
is. -/
def courseOf (form : Form) (mode : Mode) (closing : Except Fault Unit) :
    List (Event α) → Course α
  | [] => .ended closing closing
  | .finish :: _ => .ended closing closing
  | .item value :: rest => .item closing value (courseOf form mode closing rest)
  | .failure fault :: rest =>
      .failure closing (form.leaving mode fault)
        (if form.endsOnce then .ended closing closing else courseOf form mode closing rest)

/-- The course of a script. -/
def course (script : Script α) : Course α :=
  if script.finished then .ended script.drop.1 script.drop.1
  else courseOf script.form script.mode script.drop.1 script.pending

/-- A release depends on nothing but the form. -/
theorem drop_of_form_eq {script script' : Script α} (same : script'.form = script.form) :
    script'.drop.1 = script.drop.1 := by
  simp only [drop, same]
  cases script.form <;> rfl

theorem closes {script script' : Script α} (same : script'.form = script.form) (clock : Clock) :
    Source.Closes script' clock script.drop.1 :=
  fun _ => drop_of_form_eq same

theorem ends_of_play {script after : Script α} {outcome : Except Fault α} (clock : Clock)
    (played : script.play = (outcome, after)) :
    Source.pull.Ends script clock outcome after clock := by
  intro journal
  refine ⟨journal, ?_⟩
  show (script.play.1, (⟨script.play.2, clock, journal⟩ : Scene (Script α))) = _
  rw [played]

/-- A script that has ended follows the course that says so. -/
theorem follows_ended {script after : Script α} {clock : Clock}
    (played : script.play = (.error (endOf script.mode), after))
    (same : after.form = script.form) :
    Source.Follows script clock (.ended script.drop.1 script.drop.1) := by
  have ends := ends_of_play clock played
  cases mode : script.mode with
  | plain =>
      rw [mode] at ends
      exact .ended (closes rfl clock) ends (closes same clock)
  | awaited =>
      rw [mode] at ends
      exact .ended (closes rfl clock) ends (closes same clock)

theorem follows_course_of_finished {script : Script α} (clock : Clock)
    (finished : script.finished = true) : Source.Follows script clock script.course := by
  rw [course, if_pos finished]
  exact follows_ended (if_pos finished) rfl

theorem course_of_pending {script : Script α} {pending : List (Event α)}
    (finished : script.finished = false) (left : script.pending = pending) :
    script.course = courseOf script.form script.mode script.drop.1 pending := by
  rw [course, left]
  simp [finished]

theorem play_of_pending {script : Script α} (finished : script.finished = false) :
    script.play =
      match script.pending with
      | [] => (.error (endOf script.mode), script.interrupt)
      | .item value :: rest => (.ok value, script.advance rest)
      | .failure fault :: rest =>
          (.error (script.form.leaving script.mode fault), (script.advance rest).interrupt)
      | .finish :: rest => (.error (endOf script.mode), (script.advance rest).interrupt) := by
  have goingOn : ¬script.finished = true := by simp [finished]
  rw [play]
  exact if_neg goingOn

/-- A script without stop signals among its failures follows its course. -/
theorem follows_course (script : Script α) (clock : Clock)
    (goesOn : ∀ fault, .failure fault ∈ script.pending →
      (script.form.leaving script.mode fault).isStop = false) :
    Source.Follows script clock script.course := by
  generalize left : script.pending = pending at goesOn
  induction pending generalizing script with
  | nil =>
      cases finished : script.finished with
      | true => exact follows_course_of_finished clock finished
      | false =>
          have played := play_of_pending finished
          rw [left] at played
          rw [course_of_pending finished left]
          exact follows_ended played rfl
  | cons event rest ih =>
      cases finished : script.finished with
      | true => exact follows_course_of_finished clock finished
      | false =>
          have played := play_of_pending finished
          rw [left] at played
          rw [course_of_pending finished left]
          have goesOnLater : ∀ fault, .failure fault ∈ rest →
              (script.form.leaving script.mode fault).isStop = false := by
            intro fault member
            exact goesOn fault (.tail _ member)
          cases event with
          | finish => exact follows_ended played rfl
          | item value =>
              have continued := ih (script.advance rest) rfl goesOnLater
              have goingOn : (script.advance rest).finished = false := finished
              have same : (script.advance rest).form = script.form := rfl
              rw [course_of_pending goingOn rfl, drop_of_form_eq same] at continued
              exact .item (closes rfl clock) (ends_of_play clock played) continued
          | failure fault =>
              have same : ((script.advance rest).interrupt).form = script.form := rfl
              refine .failure (closes rfl clock) (ends_of_play clock played)
                (goesOn fault (.head _)) ?_
              cases ends : script.form.endsOnce with
              | true =>
                  have ended : ((script.advance rest).interrupt).finished = true := ends
                  rw [if_pos rfl, ← drop_of_form_eq same]
                  exact follows_ended (if_pos ended) rfl
              | false =>
                  have goingOn : ((script.advance rest).interrupt).finished = false := ends
                  have continued := ih (script.advance rest).interrupt rfl goesOnLater
                  rw [course_of_pending goingOn rfl, drop_of_form_eq same] at continued
                  exact continued

theorem courseOf_items (form : Form) (mode : Mode) (items : List α) :
    courseOf form mode (.ok ()) (items.map .item) = .ofItems items := by
  induction items with
  | nil => rfl
  | cons item items ih =>
      rw [List.map_cons, courseOf, ih]
      rfl

/-- A script of items that is released without a failure follows the course of
them. -/
theorem follows_items {script : Script α} {items : List α} (clock : Clock)
    (pending : script.pending = items.map .item) (started : script.finished = false)
    (released : script.drop.1 = .ok ()) : Source.Follows script clock (.ofItems items) := by
  have follows := script.follows_course clock fun fault member => by simp [pending] at member
  rw [course_of_pending started pending, released, courseOf_items] at follows
  exact follows

/-- An iterator that fails between two records, and once more when it is
released. -/
def faltering : Script (Option Record) where
  mode := .awaited
  form := .iterator (some (.foreign "OSError" "gone"))
  pending := [
    .item (some ⟨[(.string "n", .int 1)]⟩), .failure (.foreign "ValueError" "unreadable"),
    .item (some ⟨[(.string "n", .int 2)]⟩)]

/-- The course of `faltering`. -/
def falteringCourse : Course (Option Record) :=
  let closing := .error (.foreign "OSError" "gone")
  .item closing (some ⟨[(.string "n", .int 1)]⟩) <|
    .failure closing (.foreign "ValueError" "unreadable") <|
    .item closing (some ⟨[(.string "n", .int 2)]⟩) <| .ended closing closing

/-- No record of `faltering` is missing, and its failures are plain. -/
theorem obeys_faltering :
    falteringCourse.Obeys (fun record => record.isSome) Fault.IsPlain Fault.IsPlain := by
  have unreadable : (Fault.foreign "ValueError" "unreadable").IsPlain := ⟨rfl, nofun⟩
  have closed : ∀ fault,
      Except.error (.foreign "OSError" "gone") = (.error fault : Except Fault Unit) →
        fault.IsPlain := by
    rintro fault ⟨⟩
    exact ⟨rfl, nofun⟩
  simp only [falteringCourse, Course.obeys_item, Course.obeys_failure, Course.obeys_ended]
  exact ⟨closed, rfl, closed, unreadable, closed, rfl, closed, closed⟩

theorem follows_faltering (clock : Clock) : Source.Follows faltering clock falteringCourse := by
  have follows := follows_course faltering clock fun fault member => by
    simp only [faltering, List.mem_cons, reduceCtorEq, Event.failure.injEq, List.not_mem_nil,
      false_or, or_false] at member
    rw [member]
    rfl
  exact follows

end Script

end QueryCursor
