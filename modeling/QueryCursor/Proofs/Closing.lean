import QueryCursor.Proofs.Exhaustion

/-!
# Closing

Closing gives up the rest first, and that can fail where the source fails to be
released.  The cursor has given up the rest then, but it is not closed: it stays open
until it is closed once more.
-/

namespace QueryCursor

namespace Cursor

variable {σ τ : Type} [Source σ (Option Record)] {scene : Scene (Cursor σ Record τ)}

/-- The cursor is closed for good: whatever is asked of it, it refuses every operation
that needs an open cursor, closing it among them. -/
structure Shut (scene : Scene (Cursor σ Record τ)) : Prop where
  closed : scene.state.isOpen = false
  exhausted : scene.state.ahead.stage = .exhausted
  refuses : ∀ later, ∀ operation : CursorOperation, operation.NeedsOpen →
    ∃ fault, (perform operation).run (sceneAfter later scene) =
      (.error fault, sceneAfter later scene) ∧ fault.kind = "ClientError"

theorem Shut.of_closed (closed : scene.state.isOpen = false)
    (exhausted : scene.state.ahead.stage = .exhausted) : Shut scene := by
  refine ⟨closed, exhausted, ?_⟩
  intro later operation needsOpen
  have progress := Progress.sceneAfter later scene
  have stillClosed : (sceneAfter later scene).state.isOpen = false := by
    cases isOpen : (sceneAfter later scene).state.isOpen with
    | false => rfl
    | true => exact (progress.isOpen_of isOpen).symm.trans closed
  obtain ⟨cause, refused⟩ := RefusesClosed.perform needsOpen _ stillClosed
  exact ⟨.misuse cause, refused, rfl⟩

theorem run_closing {operation : CursorOperation}
    (closing : operation = .close ∨ operation = .leave) (isOpen : scene.state.isOpen = true) :
    (perform operation).run scene =
      ((close.run scene).1.map fun _ => .value .null, (close.run scene).2) := by
  rcases closing with rfl | rfl
  · rw [perform, run_answering]
  · rw [perform, run_answering, leave, Action.run_bind, Action.run_present]
    simp only [isOpen, if_true]

/-- An open cursor that has given up the rest is closed without fail. -/
theorem shut_of_close_of_exhausted (isOpen : scene.state.isOpen = true)
    (exhausted : scene.state.ahead.stage = .exhausted) :
    (close.run scene).1 = .ok () ∧ Shut (close.run scene).2 := by
  rw [run_close_of_open isOpen, Action.run_bind, run_discard_of_exhausted exhausted]
  exact ⟨rfl, .of_closed rfl exhausted⟩

/-- Closing shuts a cursor for good unless the release of its source fails.  Then the
cursor stays open where it is, with nothing left, and is shut by closing it again. -/
theorem closing_shuts_unless_release_fails (keys : List Value) (source : σ) (summary : σ → τ)
    (clock : Clock) (journal : List Message) (operations : List CursorOperation)
    {operation : CursorOperation} (closing : operation = .close ∨ operation = .leave) :
    let scene : Scene (Cursor σ Record τ) :=
      sceneAfter operations ⟨ofSource keys source summary, clock, journal⟩
    let performed := (perform operation).run scene
    scene.state.isOpen = true →
      performed.2.state.ahead.stage = .exhausted ∧
      (∀ answer, performed.1 = .ok answer → Shut performed.2) ∧
      ∀ fault, performed.1 = .error fault →
        (discard.run scene).1 = .error fault ∧
          performed.2.state.toPlace = scene.state.toPlace ∧ Spent summary performed.2 ∧
          (∃ answer, ((perform .close).run performed.2).1 = .ok answer) ∧
          Shut ((perform .close).run performed.2).2 := by
  intro scene performed isOpen
  have exhausted := exhausted_of_run_discard scene
  have samePlace := toPlace_of_discard scene
  have allowed := shut_allowed_of_discard isOpen
  have given : (discard.run scene).2.state.summary = summary :=
    (Progress.discard scene).summary_eq.trans (Progress.sceneAfter operations _).summary_eq
  have ran : performed = _ := run_closing closing isOpen
  rw [run_close_of_open isOpen, Action.run_bind] at ran
  rcases discarded : discard.run scene with ⟨fault | _, after⟩
  · rw [discarded] at exhausted samePlace allowed given ran
    rw [ran]
    refine ⟨exhausted, nofun, ?_⟩
    rintro _ ⟨⟩
    have shut := shut_of_close_of_exhausted allowed.1 exhausted
    have closed : (perform .close).run after = _ := run_closing (.inl rfl) allowed.1
    rw [closed, shut.1]
    refine ⟨rfl, samePlace, ?_, ⟨_, rfl⟩, shut.2⟩
    rw [← given]
    exact .of_exhausted allowed.1 exhausted
  · rw [discarded] at exhausted ran
    rw [ran]
    exact ⟨exhausted, fun _ _ => .of_closed rfl exhausted, nofun⟩

/-- A new cursor over an iterator that has no records and fails to be released. -/
def overStubborn : Scene (Cursor (Script (Option Record)) Record Unit) :=
  ⟨ofSource [.string "a"]
    { mode := .plain, form := .iterator (some (.foreign "OSError" "cannot close")), pending := [] }
    fun _ => (), {}, []⟩

theorem closing_stubborn_shuts_at_last :
    (CursorOperation.leave = .close ∨ CursorOperation.leave = .leave) ∧
      Spent (fun _ => ()) ((perform .leave).run overStubborn).2 ∧
      Shut ((perform .close).run ((perform .leave).run overStubborn).2).2 := by
  have closing : CursorOperation.leave = .close ∨ CursorOperation.leave = .leave := .inr rfl
  obtain ⟨_, _, failing⟩ := closing_shuts_unless_release_fails [.string "a"]
    overStubborn.state.ahead.source (fun _ => ()) {} [] [] closing rfl
  obtain ⟨_, _, spent, _, shut⟩ := failing (.foreign "OSError" "cannot close") rfl
  exact ⟨closing, spent, shut⟩

/-- Closing need not close: where the release fails, the cursor stays open, answers as
an open one, and can be closed again. -/
theorem failed_release_leaves_open :
    let closed := (perform .close).run overStubborn
    closed.1 = .error (.foreign "OSError" "cannot close") ∧ ¬Shut closed.2 ∧
      closed.2.state.isOpen = true ∧
      ((perform .next).run closed.2).1 = .ok (.value (.bool false)) ∧
      ((perform .close).run closed.2).1 = .ok (.value .null) := by
  refine ⟨rfl, ?_, rfl, rfl, rfl⟩
  intro shut
  exact absurd shut.closed (by decide)

end Cursor

end QueryCursor
