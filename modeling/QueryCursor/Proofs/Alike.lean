import QueryCursor.Proofs.Accord
import QueryCursor.Proofs.Prospect

/-!
# Alike cursors

Two cursors that stand at the same place with the same course before them answer
every operation alike, whatever kinds of sources they have and however much of
the course each of them has fetched already.  Only their summaries can differ.
-/

namespace QueryCursor

namespace Cursor

variable {σ σ' ρ τ τ' α : Type} [Source σ (Option ρ)] [Source σ' (Option ρ)]

/-- Two cursors that stand at the same place with the same course before them. -/
def Alike (left : Scene (Cursor σ ρ τ)) (right : Scene (Cursor σ' ρ τ')) : Prop :=
  ∃ place course, HasCourse left place course ∧ HasCourse right place course

namespace Alike

theorem toPlace_eq {left : Scene (Cursor σ ρ τ)} {right : Scene (Cursor σ' ρ τ')}
    (alike : Alike left right) : left.state.toPlace = right.state.toPlace := by
  obtain ⟨place, course, hasCourse, hasCourse'⟩ := alike
  rw [hasCourse.place_eq, hasCourse'.place_eq]

/-- Two actions that alike cursors answer with the same. -/
abbrev Both (first : Action (Cursor σ ρ τ) α) (second : Action (Cursor σ' ρ τ') α) : Prop :=
  Concur Alike first second

theorem move (step : Place ρ → Place ρ) :
    Both (Cursor.move step : Action (Cursor σ ρ τ) Unit)
      (Cursor.move step : Action (Cursor σ' ρ τ') Unit) := by
  rintro left right ⟨place, course, hasCourse, hasCourse'⟩
  exact ⟨.ok rfl, _, _, hasCourse.move step, hasCourse'.move step⟩

theorem report (text : String) :
    Both (Cursor.report text : Action (Cursor σ ρ τ) Unit)
      (Cursor.report text : Action (Cursor σ' ρ τ') Unit) := by
  rintro left right ⟨place, course, hasCourse, hasCourse'⟩
  exact ⟨.ok rfl, place, course, ⟨hasCourse.place_eq, hasCourse.leaves⟩,
    ⟨hasCourse'.place_eq, hasCourse'.leaves⟩⟩

theorem hasNext :
    Both (onAhead LookAhead.hasNext : Action (Cursor σ ρ τ) Bool)
      (onAhead LookAhead.hasNext : Action (Cursor σ' ρ τ') Bool) := by
  rintro left right ⟨place, course, hasCourse, hasCourse'⟩
  obtain ⟨answer, hasCourse⟩ := hasCourse.hasNext
  obtain ⟨answer', hasCourse'⟩ := hasCourse'.hasNext
  exact ⟨.of_eq (answer.trans answer'.symm), _, _, hasCourse, hasCourse'⟩

theorem discard :
    Both (Cursor.discard : Action (Cursor σ ρ τ) Unit)
      (Cursor.discard : Action (Cursor σ' ρ τ') Unit) := by
  rintro left right ⟨place, course, hasCourse, hasCourse'⟩
  obtain ⟨answer, hasCourse⟩ := hasCourse.discard
  obtain ⟨answer', hasCourse'⟩ := hasCourse'.discard
  exact ⟨.of_eq (answer.trans answer'.symm), _, _, hasCourse, hasCourse'⟩

theorem next :
    Both (Cursor.next : Action (Cursor σ ρ τ) Bool)
      (Cursor.next : Action (Cursor σ' ρ τ') Bool) := by
  rintro left right ⟨place, course, hasCourse, hasCourse'⟩
  cases isOpen : place.isOpen with
  | false =>
      rw [run_next_of_closed (hasCourse.isOpen_eq.trans isOpen),
        run_next_of_closed (hasCourse'.isOpen_eq.trans isOpen)]
      exact ⟨.error _, place, course, hasCourse, hasCourse'⟩
  | true =>
      obtain ⟨answer, hasCourse⟩ := hasCourse.next isOpen
      obtain ⟨answer', hasCourse'⟩ := hasCourse'.next isOpen
      exact ⟨.of_eq (answer.trans answer'.symm), _, _, hasCourse, hasCourse'⟩

theorem peek :
    Both (Cursor.peek : Action (Cursor σ ρ τ) (Option ρ))
      (Cursor.peek : Action (Cursor σ' ρ τ') (Option ρ)) := by
  rintro left right ⟨place, course, hasCourse, hasCourse'⟩
  cases isOpen : place.isOpen with
  | false =>
      rw [Cursor.peek, run_requireOpen_of_closed (hasCourse.isOpen_eq.trans isOpen), Cursor.peek,
        run_requireOpen_of_closed (hasCourse'.isOpen_eq.trans isOpen)]
      exact ⟨.error _, place, course, hasCourse, hasCourse'⟩
  | true =>
      obtain ⟨answer, hasCourse⟩ := hasCourse.peek isOpen
      obtain ⟨answer', hasCourse'⟩ := hasCourse'.peek isOpen
      exact ⟨.of_eq (answer.trans answer'.symm), _, _, hasCourse, hasCourse'⟩

theorem accord : Accord (Alike : Scene (Cursor σ ρ τ) → Scene (Cursor σ' ρ τ') → Prop) where
  toPlace_eq := toPlace_eq
  hasNext := hasNext
  next := next
  peek := peek
  discard := discard
  shut := by
    intro left right alike _
    have shut : Both (Move.shut.action : Action (Cursor σ ρ τ) Unit)
        (Move.shut.action : Action (Cursor σ' ρ τ') Unit) := by
      apply (move _).seq
      intro _ left right alike
      rw [Action.run_bind, Action.run_bind, Action.run_present, Action.run_present]
      simp only [alike.toPlace_eq]
      exact report _ left right alike
    exact shut left right alike

theorem setLimit (records : Int) :
    Both (Cursor.setLimit records : Action (Cursor σ ρ τ) Int)
      (Cursor.setLimit records : Action (Cursor σ' ρ τ') Int) := by
  have limit : Both
      (do let cursor ← Action.present; return cursor.limit : Action (Cursor σ ρ τ) Int)
      (do let cursor ← Action.present; return cursor.limit : Action (Cursor σ' ρ τ') Int) :=
    accord.present.bind fun _ _ same => .result (congrArg Place.limit same)
  apply Simulates.refuseIf Iff.rfl
  apply (accord.read Place.requireOpen).seq
  intro _
  apply (move _).seq
  intro _
  exact .choose Iff.rfl (discard.seq fun _ => limit) limit

end Alike

/-! ## Operations -/

section Operations

variable {σ σ' τ τ' υ α : Type} [Source σ (Option Record)] [Source σ' (Option Record)]

theorem Alike.perform (operation : CursorOperation) :
    Simulates Alike SameAnswer
      (Cursor.perform operation : Action (Cursor σ Record τ) (CursorAnswer τ))
      (Cursor.perform operation : Action (Cursor σ' Record τ') (CursorAnswer τ')) :=
  accord.perform operation fun records _ => setLimit records

theorem Alike.observe_eq {left : Scene (Cursor σ Record τ)} {right : Scene (Cursor σ' Record τ')}
    (alike : Alike left right) {view : τ → υ} {view' : τ' → υ} {given : υ}
    (shows : Shows view given left) (shows' : Shows view' given right)
    (operation : CursorOperation) :
    observe view ((Cursor.perform operation).run left) =
      observe view' ((Cursor.perform operation).run right) := by
  obtain ⟨agree, after⟩ := Alike.perform operation left right alike
  have final := (shows.perform operation).2
  have final' := (shows'.perform operation).2
  exact observe_eq_of_agree agree after.toPlace_eq (final.trans final'.symm)

theorem Alike.runAll_eq {view : τ → υ} {view' : τ' → υ} {given : υ}
    (operations : List CursorOperation) {left : Scene (Cursor σ Record τ)}
    {right : Scene (Cursor σ' Record τ')} (alike : Alike left right)
    (shows : Shows view given left) (shows' : Shows view' given right) :
    (Action.runAll (operations.map Cursor.perform) left).map (observe view) =
      (Action.runAll (operations.map Cursor.perform) right).map (observe view') := by
  let related (left : Scene (Cursor σ Record τ)) (right : Scene (Cursor σ' Record τ')) : Prop :=
    Alike left right ∧ Shows view given left ∧ Shows view' given right
  have together : related left right := ⟨alike, shows, shows'⟩
  apply Action.runAll_eq ?_ together
  rintro operation _ left right ⟨alike, shows, shows'⟩
  exact ⟨alike.observe_eq shows shows' operation, (Alike.perform operation left right alike).2,
    shows.perform operation, shows'.perform operation⟩

end Operations

end Cursor

end QueryCursor
