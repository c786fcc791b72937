import Gridwalk.Act

/-!
# Routines

A routine is a computation over a shared state that can stop at pauses.  Between two pauses
it reads and writes the state without interruption; at a pause it hands control back, and
goes on when the pause is answered: with nothing, or with a fault that is raised at the
pause.  A routine ends with a value or with a fault, and it always ends, however its pauses
are answered.

A routine can be played in the foreground (`Routine.play`), where a sleeper answers every
pause at once, or in the background (`Routine.settle`), where the sleeper may also leave a
pause open; the routine is then held at that pause.
-/

set_option autoImplicit false

namespace Gridwalk

/-- Why a routine pauses: to show a step, or to hold at the edge of the grid. -/
inductive Hold where
  | step
  | bounds
  deriving DecidableEq, Repr

/-- A pause: whose it is, why it is made, and how many milliseconds it is meant to last. -/
structure Pause where
  owner : String
  hold : Hold
  ms : Int
  deriving DecidableEq, Repr

/-- The answer to a pause: to go on, or to raise a fault there. -/
abbrev Answer : Type := Except Fault Unit

/-- A computation over a state `σ` that can pause. -/
inductive Routine (σ α : Type) : Type where
  /-- The end, with a value. -/
  | done (a : α)
  /-- The end, with a fault. -/
  | fail (fault : Fault)
  /-- Reads the state. -/
  | get (next : σ → Routine σ α)
  /-- Replaces the state. -/
  | put (s : σ) (next : Routine σ α)
  /-- Pauses until it is answered. -/
  | pause (pause : Pause) (next : Answer → Routine σ α)

/-- A routine where it stands still: at its end, or at a pause. -/
inductive Halt (σ α : Type) : Type where
  | ended (result : Except Fault α)
  | held (pause : Pause) (next : Answer → Routine σ α)

namespace Routine

variable {σ α β : Type}

/-- One routine after the other; a fault of the first is the end. -/
protected def bind : Routine σ α → (α → Routine σ β) → Routine σ β
  | .done a, next => next a
  | .fail fault, _ => .fail fault
  | .get k, next => .get fun s => (k s).bind next
  | .put s r, next => .put s (r.bind next)
  | .pause p k, next => .pause p fun answer => (k answer).bind next

instance : Monad (Routine σ) where
  pure := .done
  bind := Routine.bind

instance : Inhabited (Routine σ α) := ⟨.fail (.cancelled)⟩

/-- The value or the fault of a computation that has no state. -/
def ofExcept : Except Fault α → Routine σ α
  | .ok a => .done a
  | .error fault => .fail fault

/-- An act as a routine without pauses. -/
def ofAct (act : Act σ α) : Routine σ α :=
  .get fun s =>
    match act s with
    | (result, s) => .put s (ofExcept result)

instance : MonadLift (Act σ) (Routine σ) := ⟨ofAct⟩

/-- Pauses, and raises the fault of the answer if it holds one. -/
def rest (p : Pause) : Routine σ Unit :=
  .pause p ofExcept

/-- A routine with its outcome as its value. -/
def attempt : Routine σ α → Routine σ (Except Fault α)
  | .done a => .done (.ok a)
  | .fail fault => .done (.error fault)
  | .get k => .get fun s => (k s).attempt
  | .put s r => .put s r.attempt
  | .pause p k => .pause p fun answer => (k answer).attempt

/-- Does `after` when the routine has ended, in whichever way, and then ends that way; a
fault of `after` itself takes the place of that end. -/
def ensure (body : Routine σ α) (after : Routine σ Unit) : Routine σ α := do
  let outcome ← body.attempt
  after
  ofExcept outcome

/-- Does a routine a number of times. -/
def repeated : Nat → Routine σ Unit → Routine σ Unit
  | 0, _ => .done ()
  | n + 1, body => body.bind fun _ => repeated n body

/-- Plays a routine in the foreground, every pause answered at once. -/
def play (sleep : Pause → σ → Answer × σ) : Routine σ α → σ → Except Fault α × σ
  | .done a, s => (.ok a, s)
  | .fail fault, s => (.error fault, s)
  | .get k, s => (k s).play sleep s
  | .put s r, _ => r.play sleep s
  | .pause p k, s =>
      match sleep p s with
      | (answer, s) => (k answer).play sleep s

/-- Plays a routine until it ends or is left at a pause that the sleeper does not answer. -/
def settle (sleep : Pause → σ → Option Answer × σ) : Routine σ α → σ → Halt σ α × σ
  | .done a, s => (.ended (.ok a), s)
  | .fail fault, s => (.ended (.error fault), s)
  | .get k, s => (k s).settle sleep s
  | .put s r, _ => r.settle sleep s
  | .pause p k, s =>
      match sleep p s with
      | (some answer, s) => (k answer).settle sleep s
      | (none, s) => (.held p k, s)

/-- Doing nothing after a routine changes nothing. -/
theorem bind_done (r : Routine σ α) : r.bind .done = r := by
  induction r with
  | done a => rfl
  | fail fault => rfl
  | get k ih => simp [Routine.bind, ih]
  | put s r ih => simp [Routine.bind, ih]
  | pause p k ih => simp [Routine.bind, ih]

/-- Sequencing is associative. -/
theorem bind_assoc {γ : Type} (r : Routine σ α) (f : α → Routine σ β) (g : β → Routine σ γ) :
    (r.bind f).bind g = r.bind fun a => (f a).bind g := by
  induction r with
  | done a => rfl
  | fail fault => rfl
  | get k ih => simp [Routine.bind, ih]
  | put s r ih => simp [Routine.bind, ih]
  | pause p k ih => simp [Routine.bind, ih]

instance : LawfulMonad (Routine σ) :=
  LawfulMonad.mk' _ (fun r => bind_done r) (fun _ _ => rfl) (fun r f g => bind_assoc r f g)

/-- Playing one routine after the other is playing the second from where the first ended. -/
theorem play_bind (sleep : Pause → σ → Answer × σ) (r : Routine σ α) (f : α → Routine σ β)
    (s : σ) :
    (r.bind f).play sleep s =
      match r.play sleep s with
      | (.ok a, s) => (f a).play sleep s
      | (.error fault, s) => (.error fault, s) := by
  induction r generalizing s with
  | done a => rfl
  | fail fault => rfl
  | get k ih => exact ih s s
  | put t r ih => exact ih t
  | pause p k ih =>
      simp only [Routine.bind, play]
      exact ih (sleep p s).1 (sleep p s).2

/-- Playing an act is doing it. -/
theorem play_ofAct (sleep : Pause → σ → Answer × σ) (act : Act σ α) (s : σ) :
    (ofAct act).play sleep s = act s := by
  unfold ofAct
  simp only [play]
  cases h : act s with
  | mk result t => cases result <;> rfl

/-- Playing a routine for its outcome ends in the same state. -/
theorem play_attempt (sleep : Pause → σ → Answer × σ) (r : Routine σ α) (s : σ) :
    r.attempt.play sleep s =
      match r.play sleep s with
      | (outcome, s) => (.ok outcome, s) := by
  induction r generalizing s with
  | done a => rfl
  | fail fault => rfl
  | get k ih => exact ih s s
  | put t r ih => exact ih t
  | pause p k ih =>
      simp only [attempt, play]
      exact ih (sleep p s).1 (sleep p s).2

end Routine

end Gridwalk
