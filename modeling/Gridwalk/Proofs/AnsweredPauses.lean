import Gridwalk.Proofs.PassingFaults
import Gridwalk.Proofs.RoutineContracts

/-!
# Routines whose pauses are answered

A routine in the background is held at its pauses, and each of them is answered in a state that the
world has come to meanwhile.  `Routine.EndsAlong` says what a routine ends with along such answers,
and it looks at nothing but the routine: so one can tell what part of a longer routine did, whatever
is done with its result afterwards.

What is known of all stretches of a routine is known of its end (`EndsAlong.ended`), and so is what
the routine owes to the last answer (`EndsAlong.yields`).  In the background a routine ends along
the answers that it is given there (`endsAlong_of_settle`).
-/

set_option autoImplicit false

namespace Gridwalk

namespace Routine

variable {σ α β : Type}

/-- From one state on a routine comes to its end in another one, when its pauses are given some
answers in turn; with every answer stands the state that it finds. -/
inductive EndsAlong : Routine σ α → σ → List (Answer × σ) → Except Fault α → σ → Prop
  | done (a : α) (s : σ) : EndsAlong (.done a) s [] (.ok a) s
  | fail (fault : Fault) (s : σ) : EndsAlong (.fail fault) s [] (.error fault) s
  | get {k : σ → Routine σ α} {s t : σ} {answers : List (Answer × σ)} {result : Except Fault α}
      (h : EndsAlong (k s) s answers result t) : EndsAlong (.get k) s answers result t
  | put {r : Routine σ α} {s u t : σ} {answers : List (Answer × σ)} {result : Except Fault α}
      (h : EndsAlong r u answers result t) : EndsAlong (.put u r) s answers result t
  | pause {p : Pause} {k : Answer → Routine σ α} {s t : σ} {answer : Answer} {found : σ}
      {answers : List (Answer × σ)} {result : Except Fault α}
      (h : EndsAlong (k answer) found answers result t) :
      EndsAlong (.pause p k) s ((answer, found) :: answers) result t

variable {r : Routine σ α} {s t : σ} {answers : List (Answer × σ)} {result : Except Fault α}

/-- What was answered last; if nothing was, what had been answered before. -/
def lastAnswer (before : Option Answer) (answers : List (Answer × σ)) : Option Answer :=
  (answers.getLast?.map Prod.fst).or before

/-- The last answer of all comes after the first one. -/
theorem lastAnswer_cons (before : Option Answer) (answer : Answer) (found : σ)
    (answers : List (Answer × σ)) :
    lastAnswer before ((answer, found) :: answers) = lastAnswer (some answer) answers := by
  unfold lastAnswer
  rw [List.getLast?_cons]
  cases answers.getLast? <;> rfl

/-- A routine ends as its contract asks, whatever the world may have done meanwhile. -/
theorem EndsAlong.ended {c : Contract σ α} (h : r.EndsAlong s answers result t)
    (hrely : ∀ s t, c.rely s t) {o : Origin σ} (hmeets : r.Meets c o s) :
    ∃ o, c.ended o result t := by
  induction h generalizing o with
  | done a s => exact ⟨o, hmeets⟩
  | fail fault s => exact ⟨o, hmeets⟩
  | get _ ih => exact ih hmeets
  | put _ ih => exact ih hmeets
  | @pause _ _ s _ answer found _ _ _ ih => exact ih (hmeets.2 answer found (hrely s found))

/-- A routine ends with what it yields, given the last answer. -/
theorem EndsAlong.yields {P : Option Answer → Except Fault α → Prop}
    (h : r.EndsAlong s answers result t) {before : Option Answer} (hyields : r.Yields P before) :
    P (lastAnswer before answers) result := by
  induction h generalizing before with
  | done a s => exact hyields
  | fail fault s => exact hyields
  | @get _ s _ _ _ _ ih => exact ih (hyields s)
  | put _ ih => exact ih hyields
  | @pause _ _ _ _ answer found _ _ _ ih =>
      rw [lastAnswer_cons]
      exact ih (hyields answer)

/-- In the background, where all pauses are left open, a routine has come to its end, or it goes on
from the pause at which it is held. -/
theorem endsAlong_of_settle {sleep : Pause → σ → Option Answer × σ}
    (hsleep : ∀ p s, (sleep p s).1 = none) (r : Routine σ α) (s : σ) :
    match r.settle sleep s with
    | (.ended result, t) => r.EndsAlong s [] result t
    | (.held _ k, _) => ∀ answer found answers result t,
        (k answer).EndsAlong found answers result t →
          r.EndsAlong s ((answer, found) :: answers) result t := by
  induction r generalizing s with
  | done a => exact .done a s
  | fail fault => exact .fail fault s
  | get k ih =>
      have h := ih s s
      simp only [settle]
      split at h
      · exact .get h
      · intro answer found answers result t hrest
        exact .get (h answer found answers result t hrest)
  | put u r ih =>
      have h := ih u
      simp only [settle]
      split at h
      · exact .put h
      · intro answer found answers result t hrest
        exact .put (h answer found answers result t hrest)
  | pause p k ih =>
      have hopen := hsleep p s
      cases hs : sleep p s with
      | mk reply t =>
          rw [hs] at hopen
          change reply = none at hopen
          subst hopen
          simp only [settle, hs]
          exact fun answer found answers result t hrest => .pause hrest

/-! ## Taking the outcome -/

/-- The outcome of one routine after the other is made of the outcome of the first. -/
theorem attempt_bind (r : Routine σ α) (f : α → Routine σ β) :
    (r >>= f).attempt = r.attempt >>= fun ended => (ofExcept ended >>= f).attempt := by
  show (r.bind f).attempt = r.attempt.bind _
  induction r with
  | done a => rfl
  | fail fault => rfl
  | get k ih => simp only [Routine.bind, attempt, ih]
  | put u r ih => simp only [Routine.bind, attempt, ih]
  | pause p k ih => simp only [Routine.bind, attempt, ih]

/-- An outcome is there in any case, so that only what follows it can fail. -/
theorem attempt_attempt_bind (r : Routine σ α) (f : Except Fault α → Routine σ β) :
    (r.attempt >>= f).attempt = r.attempt >>= fun ended => (f ended).attempt := by
  show (r.attempt.bind f).attempt = r.attempt.bind _
  induction r with
  | done a => rfl
  | fail fault => rfl
  | get k ih => simp only [Routine.bind, attempt, ih]
  | put u r ih => simp only [Routine.bind, attempt, ih]
  | pause p k ih => simp only [Routine.bind, attempt, ih]

/-- What is done after one routine and another in any case is done after the outcome of the
first. -/
theorem ensure_bind (r : Routine σ α) (f : α → Routine σ β) (after : Routine σ Unit) :
    ensure (r >>= f) after = r.attempt >>= fun ended => ensure (ofExcept ended >>= f) after := by
  unfold ensure
  rw [attempt_bind]
  exact bind_assoc _ _ _

end Routine

end Gridwalk
