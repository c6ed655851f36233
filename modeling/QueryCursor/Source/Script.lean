import QueryCursor.Source

/-!
# Scripted sources

A scripted source plays a list of events: items, failures, and the end of the
sequence before the list has ended.  Scripts differ in form.  A generator is
finished by its first failure or end, and by being released.  An iterator goes
on after a failure or an end when it is asked again, and counts how often it was
released; releasing it can fail.  The other forms cannot be released.

A script is played plainly or awaited.  The difference shows only in failures
that are stop signals themselves: a frame that ends by one of them must not be
taken for the end of the sequence, so the signal is reported as an error where
the frame would confuse it with its own.
-/

namespace QueryCursor

/-- What a scripted source does when it is asked for an item. -/
inductive Event (α : Type) where
  | item (value : α)
  | failure (fault : Fault)
  | finish

/-- The failure that an event is, if it is one. -/
def Event.fault? {α : Type} : Event α → Option Fault
  | .failure fault => some fault
  | _ => none

/-- Whether the items of a source are handed over directly or awaited. -/
inductive Mode where
  | plain
  | awaited
  deriving DecidableEq

/-- The form of a scripted source. -/
inductive Form where
  /-- A sequence that is walked from its start. -/
  | sequence
  /-- A computation that is over once it has failed or ended. -/
  | generator
  /-- An object with a release operation, which may fail. -/
  | iterator (releaseFault : Option Fault)
  /-- An object without a release operation. -/
  | bare
  deriving DecidableEq

/-- A scripted source and how far it has been played. -/
structure Script (α : Type) where
  mode : Mode
  form : Form
  pending : List (Event α)
  produced : Nat := 0
  finished : Bool := false
  releases : Nat := 0

namespace Form

/-- Whether the form is over after its first failure or end. -/
def endsOnce : Form → Bool
  | .generator => true
  | _ => false

/-- How a failure leaves a source.  A plain generator confuses plain stops with
its own end, an awaited one both kinds; an awaited call confuses plain stops. -/
def leaving (form : Form) (mode : Mode) (fault : Fault) : Fault :=
  match fault with
  | .stop signal text =>
    match form, mode, signal with
    | .generator, .plain, .plain => signal.inside "generator"
    | .generator, .awaited, _ => signal.inside "async generator"
    | .iterator _, .awaited, .plain => signal.inside "coroutine"
    | .bare, .awaited, .plain => signal.inside "coroutine"
    | _, _, _ => .stop signal text
  | other => other

end Form

namespace Script

variable {α : Type}

/-- Makes a script of the given form.  The items of a sequence are all made
before the first is asked for, so a failure among them is a failure to make the
sequence. -/
def make (mode : Mode) (form : Form) (events : List (Event α)) : Except Fault (Script α) :=
  match form, events.findSome? Event.fault? with
  | .sequence, some fault => .error fault
  | _, _ => .ok { mode, form, pending := events }

/-- The signal by which a script says that it has ended. -/
def endOf (mode : Mode) : Fault :=
  match mode with
  | .plain => .stop .plain ""
  | .awaited => .stop .awaited ""

/-- The script after its next event was played. -/
def advance (script : Script α) (rest : List (Event α)) : Script α :=
  { script with pending := rest, produced := script.produced + 1 }

/-- The script after a failure or an end. -/
def interrupt (script : Script α) : Script α :=
  { script with finished := script.form.endsOnce }

/-- Plays the next event, if there is one: the outcome and the script after it. -/
def play (script : Script α) : Except Fault α × Script α :=
  if script.finished then (.error (endOf script.mode), script)
  else
    match script.pending with
    | [] => (.error (endOf script.mode), script.interrupt)
    | .item value :: rest => (.ok value, script.advance rest)
    | .failure fault :: rest =>
      (.error (script.form.leaving script.mode fault), (script.advance rest).interrupt)
    | .finish :: rest => (.error (endOf script.mode), (script.advance rest).interrupt)

/-- Releases the script as its form allows.  The release is called in a coroutine. -/
def drop (script : Script α) : Except Fault Unit × Script α :=
  match script.form with
  | .sequence => (.ok (), script)
  | .bare => (.ok (), script)
  | .generator => (.ok (), { script with finished := true })
  | .iterator releaseFault =>
    (match releaseFault with
      | none => .ok ()
      | some fault => .error fault.leavingCoroutine,
      { script with releases := script.releases + 1 })

theorem length_pending_lt_of_play {script : Script α} {item : α}
    (step : script.play.1 = .ok item) :
    script.play.2.pending.length < script.pending.length := by
  unfold play at step ⊢
  split at step
  · simp at step
  · split at step <;> simp_all [advance]

instance : Source (Script α) α where
  pull := .ofState play
  release := .ofState drop
  remaining script := script.pending.length
  remaining_lt_of_pull := fun {before after item} step => by
    obtain ⟨outcome, rfl⟩ := Prod.mk.inj step
    exact length_pending_lt_of_play outcome

end Script

end QueryCursor
