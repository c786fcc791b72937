import Gridwalk.Schedule

/-!
# What routines keep to

Between two pauses a routine has the state to itself; at a pause the world may change it.
Such a stretch begins where the routine was started or its pause was answered (`Origin`), and
it ends where the routine stands still again.  A `Contract` says what must be true there, and
how far the world may go meanwhile; `Routine.Meets` says that all stretches of a routine, in
whatever way its pauses are answered, are as the contract asks.

Contracts are composed along routines (`meets_bind`, `meets_attempt`, `meets_ofAct`).  Most
parts of a routine only have to keep one property of the stretch, a `Regime`; `Obeys` is
closed under everything that routines are made of.  `settle_of_meets` takes a contract to the
routine in the background, where all pauses are left open; `play_of_sparing` takes what stretches
leave alone to the routine in the foreground.
-/

set_option autoImplicit false

namespace Gridwalk

/-- Where a stretch began: at the pause that was answered, if there was one, and in which
state. -/
structure Origin (σ : Type) where
  pause : Option Pause
  state : σ

/-- What is asked of a routine: what is true when it is held at a pause, what is true when it
has ended, both compared with where the stretch began.  During a pause the world changes the
state only as `rely` says. -/
structure Contract (σ α : Type) where
  rely : σ → σ → Prop
  held : Origin σ → Pause → (Answer → Routine σ α) → σ → Prop
  ended : Origin σ → Except Fault α → σ → Prop

/-- What the parts of a routine have to keep to: a property of every stretch up to its present
state, and what is true at pauses. -/
structure Regime (σ : Type) where
  rely : σ → σ → Prop
  held : Origin σ → Pause → σ → Prop
  within : Origin σ → σ → Prop

/-- The regime of routines that leave something alone, whatever the world does to it meanwhile. -/
def Regime.sparing {σ τ : Type} (view : σ → τ) : Regime σ where
  rely _ _ := True
  held o _ s := view s = view o.state
  within o s := view s = view o.state

/-- The contract of a part of a routine under a regime. -/
def Regime.contract {σ : Type} (R : Regime σ) (α : Type) : Contract σ α where
  rely := R.rely
  held o p _ s := R.held o p s
  ended o _ s := R.within o s

namespace Routine

variable {σ α β : Type}

/-- Every stretch of a routine is as a contract asks, from a state on within a stretch. -/
def Meets (c : Contract σ α) : Routine σ α → Origin σ → σ → Prop
  | .done a, o, s => c.ended o (.ok a) s
  | .fail fault, o, s => c.ended o (.error fault) s
  | .get k, o, s => (k s).Meets c o s
  | .put t r, o, _ => r.Meets c o t
  | .pause p k, o, s =>
      c.held o p k s ∧ ∀ answer t, c.rely s t → (k answer).Meets c ⟨some p, t⟩ t

/-- What is left of a routine when it has been played for a while. -/
inductive Leaves : Routine σ α → Routine σ α → Prop
  | here (r : Routine σ α) : Leaves r r
  | get {k : σ → Routine σ α} {q : Routine σ α} (s : σ) (h : Leaves (k s) q) : Leaves (.get k) q
  | put {r q : Routine σ α} (s : σ) (h : Leaves r q) : Leaves (.put s r) q
  | pause {k : Answer → Routine σ α} {q : Routine σ α} (p : Pause) (answer : Answer)
      (h : Leaves (k answer) q) : Leaves (.pause p k) q

/-- What is left later is left of what is left earlier. -/
theorem Leaves.trans {r q u : Routine σ α} (h : Leaves r q) (hu : Leaves q u) : Leaves r u := by
  induction h with
  | here r => exact hu
  | get s _ ih => exact .get s (ih hu)
  | put s _ ih => exact .put s (ih hu)
  | pause p answer _ ih => exact .pause p answer (ih hu)

end Routine

namespace Contract

variable {σ α β : Type}

/-- What is asked of a routine that another one follows: that it leads to where the other one
meets the contract. -/
def before (c : Contract σ β) (f : α → Routine σ β) : Contract σ α where
  rely := c.rely
  held o p k s := c.held o p (fun answer => (k answer).bind f) s
  ended o result s :=
    match result with
    | .ok a => (f a).Meets c o s
    | .error fault => c.ended o (.error fault) s

/-- What is asked of a routine that is taken for its outcome. -/
def attempted (c : Contract σ (Except Fault α)) : Contract σ α where
  rely := c.rely
  held o p k s := c.held o p (fun answer => (k answer).attempt) s
  ended o result s := c.ended o (.ok result) s

end Contract

namespace Routine

variable {σ α β : Type}

/-! ## Contracts along routines -/

/-- A contract that asks for less of a world that does less is met too. -/
theorem Meets.mono {c d : Contract σ α} (hrely : ∀ s t, d.rely s t → c.rely s t)
    (hheld : ∀ o p k s, c.held o p k s → d.held o p k s)
    (hended : ∀ o result s, c.ended o result s → d.ended o result s) {r : Routine σ α}
    {o : Origin σ} {s : σ} (h : r.Meets c o s) : r.Meets d o s := by
  induction r generalizing o s with
  | done a => exact hended _ _ _ h
  | fail fault => exact hended _ _ _ h
  | get k ih => exact ih s h
  | put t r ih => exact ih h
  | pause p k ih =>
      refine ⟨hheld _ _ _ _ h.1, ?_⟩
      intro answer t ht
      exact ih answer (h.2 answer t (hrely _ _ ht))

/-- At a pause of a routine, what is left of it is known to be left of it. -/
theorem Meets.leaves {c : Contract σ α} {r q : Routine σ α} {o : Origin σ} {s : σ}
    (h : q.Meets c o s) (hq : Leaves r q) :
    q.Meets { c with held := fun o p k s => c.held o p k s ∧ Leaves r (.pause p k) } o s := by
  induction q generalizing o s with
  | done a => exact h
  | fail fault => exact h
  | get k ih => exact ih s h (hq.trans (.get s (.here _)))
  | put t q ih => exact ih h (hq.trans (.put t (.here _)))
  | pause p k ih =>
      refine ⟨⟨h.1, hq⟩, ?_⟩
      intro answer t ht
      exact ih answer (h.2 answer t ht) (hq.trans (.pause p answer (.here _)))

/-- One routine after the other meets a contract if the first one leads to where the second
one meets it. -/
theorem meets_bind {c : Contract σ β} {r : Routine σ α} {f : α → Routine σ β} {o : Origin σ}
    {s : σ} (h : r.Meets (c.before f) o s) : (r >>= f).Meets c o s := by
  show (r.bind f).Meets c o s
  induction r generalizing o s with
  | done a => exact h
  | fail fault => exact h
  | get k ih => exact ih s h
  | put t r ih => exact ih h
  | pause p k ih => exact ⟨h.1, fun answer t ht => ih answer (h.2 answer t ht)⟩

/-- A routine taken for its outcome meets a contract if its outcome is as the contract asks of
values. -/
theorem meets_attempt {c : Contract σ (Except Fault α)} {r : Routine σ α} {o : Origin σ} {s : σ}
    (h : r.Meets c.attempted o s) : r.attempt.Meets c o s := by
  induction r generalizing o s with
  | done a => exact h
  | fail fault => exact h
  | get k ih => exact ih s h
  | put t r ih => exact ih h
  | pause p k ih => exact ⟨h.1, fun answer t ht => ih answer (h.2 answer t ht)⟩

/-- A result that a contract asks for meets it. -/
theorem meets_ofExcept {c : Contract σ α} {result : Except Fault α} {o : Origin σ} {s : σ}
    (h : c.ended o result s) : (ofExcept result).Meets c o s := by
  cases result with
  | ok a => exact h
  | error fault => exact h

/-- An act that ends as a contract asks meets it. -/
theorem meets_ofAct {c : Contract σ α} {act : Act σ α} {o : Origin σ} {s : σ}
    (h : c.ended o (act s).1 (act s).2) : (ofAct act).Meets c o s := by
  show Meets c (.put (act s).2 (ofExcept (act s).1)) o s
  exact meets_ofExcept h

/-- After an act that succeeds the routine goes on from where the act led. -/
theorem meets_act_bind {c : Contract σ β} {act : Act σ α} {f : α → Routine σ β} {o : Origin σ}
    {s t : σ} {a : α} (hact : act s = (.ok a, t)) (h : (f a).Meets c o t) :
    (ofAct act >>= f).Meets c o s := by
  refine meets_bind (meets_ofAct ?_)
  rw [hact]
  exact h

/-- An act that fails is the end. -/
theorem meets_act_bind_of_error {c : Contract σ β} {act : Act σ α} {f : α → Routine σ β}
    {o : Origin σ} {s t : σ} {fault : Fault} (hact : act s = (.error fault, t))
    (h : c.ended o (.error fault) t) : (ofAct act >>= f).Meets c o s := by
  refine meets_bind (meets_ofAct ?_)
  rw [hact]
  exact h

/-- After a computation without a state the routine goes on with its value, if it has one. -/
theorem meets_ofExcept_bind {c : Contract σ β} {result : Except Fault α} {f : α → Routine σ β}
    {o : Origin σ} {s : σ} (hok : ∀ a, result = .ok a → (f a).Meets c o s)
    (herror : ∀ fault, result = .error fault → c.ended o (.error fault) s) :
    (ofExcept result >>= f).Meets c o s := by
  cases result with
  | ok a => exact hok a rfl
  | error fault => exact herror fault rfl

/-! ## Regimes -/

/-- A routine keeps to a regime, wherever in a stretch it is begun. -/
def Obeys (R : Regime σ) (r : Routine σ α) : Prop :=
  ∀ o s, R.within o s → r.Meets (R.contract α) o s

/-- Ending keeps to every regime. -/
theorem obeys_done (R : Regime σ) (a : α) : (Routine.done a : Routine σ α).Obeys R :=
  fun _ _ h => h

/-- Failing keeps to every regime. -/
theorem obeys_fail (R : Regime σ) (fault : Fault) : (Routine.fail fault : Routine σ α).Obeys R :=
  fun _ _ h => h

/-- An act that stays within a regime keeps to it. -/
theorem obeys_ofAct {R : Regime σ} {act : Act σ α}
    (h : ∀ o s, R.within o s → R.within o (act s).2) : (ofAct act).Obeys R :=
  fun o s hs => meets_ofAct (h o s hs)

/-- Two routines that keep to a regime do so one after the other. -/
theorem Obeys.bind {R : Regime σ} {r : Routine σ α} {f : α → Routine σ β} (hr : r.Obeys R)
    (hf : ∀ a, (f a).Obeys R) : (r >>= f).Obeys R := by
  intro o s hs
  apply meets_bind
  apply Meets.mono _ _ _ (hr o s hs)
  · exact fun _ _ h => h
  · exact fun _ _ _ _ h => h
  · intro o result t ht
    cases result with
    | ok a => exact hf a o t ht
    | error fault => exact ht

/-- A routine that is repeated keeps to the regime that it keeps to once. -/
theorem Obeys.repeated {R : Regime σ} {r : Routine σ Unit} (hr : r.Obeys R) (n : Nat) :
    (Routine.repeated n r).Obeys R := by
  induction n with
  | zero => exact obeys_done R ()
  | succ n ih => exact Obeys.bind hr fun _ => ih

/-- Routines for the items of a list keep to the regime that each keeps to. -/
theorem Obeys.forM {ι : Type} {R : Regime σ} {f : ι → Routine σ Unit} (hf : ∀ i, (f i).Obeys R)
    (items : List ι) : (items.forM f).Obeys R := by
  induction items with
  | nil => exact obeys_done R ()
  | cons i items ih => exact Obeys.bind (hf i) fun _ => ih

/-! ## In the foreground -/

/-- In the foreground a routine leaves alone what all of its stretches do, if the pauses do so. -/
theorem play_of_sparing {τ : Type} {view : σ → τ} {sleep : Pause → σ → Answer × σ}
    (hsleep : ∀ p s, view (sleep p s).2 = view s) {r : Routine σ α} {o : Origin σ} {s : σ}
    (h : r.Meets ((Regime.sparing view).contract α) o s) :
    view (r.play sleep s).2 = view o.state := by
  induction r generalizing o s with
  | done a => exact h
  | fail fault => exact h
  | get k ih => exact ih s h
  | put t r ih => exact ih h
  | pause p k ih =>
      obtain ⟨hheld, hnext⟩ := h
      have hslept : view (sleep p s).2 = view o.state := (hsleep p s).trans hheld
      exact (ih (sleep p s).1 (hnext (sleep p s).1 (sleep p s).2 trivial)).trans hslept

/-! ## In the background -/

/-- Where a routine stands still in the background, its contract was kept: at its end, or at a
pause, from which it goes on as the contract asks. -/
theorem settle_of_meets {sleep : Pause → σ → Option Answer × σ}
    (hsleep : ∀ p s, (sleep p s).1 = none) {c : Contract σ α} {r : Routine σ α} {o : Origin σ}
    {s : σ} (h : r.Meets c o s) :
    match r.settle sleep s with
    | (.ended result, t) => c.ended o result t
    | (.held p k, t) => ∃ u, t = (sleep p u).2 ∧ c.held o p k u ∧
        ∀ answer v, c.rely u v → (k answer).Meets c ⟨some p, v⟩ v := by
  induction r generalizing s with
  | done a => exact h
  | fail fault => exact h
  | get k ih => exact ih s h
  | put t r ih => exact ih h
  | pause p k ih =>
      have hopen := hsleep p s
      cases hs : sleep p s with
      | mk reply t =>
          rw [hs] at hopen
          change reply = none at hopen
          subst hopen
          simp only [settle, hs]
          exact ⟨s, by rw [hs], h.1, h.2⟩

/-- One routine after the other stands still where the first one is held, or else where the second
one does. -/
theorem settle_bind (sleep : Pause → σ → Option Answer × σ) (r : Routine σ α)
    (f : α → Routine σ β) (s : σ) :
    (r.bind f).settle sleep s =
      match r.settle sleep s with
      | (.ended (.ok a), t) => (f a).settle sleep t
      | (.ended (.error fault), t) => (.ended (.error fault), t)
      | (.held p k, t) => (.held p fun answer => (k answer).bind f, t) := by
  induction r generalizing s with
  | done a => rfl
  | fail fault => rfl
  | get k ih => exact ih s s
  | put t r ih => exact ih t
  | pause p k ih =>
      cases hs : sleep p s with
      | mk reply t =>
          cases reply with
          | none => simp only [Routine.bind, settle, hs]
          | some answer =>
              simp only [Routine.bind, settle, hs]
              exact ih answer t

/-- A routine that is taken for its outcome stands still where it does. -/
theorem settle_attempt (sleep : Pause → σ → Option Answer × σ) (r : Routine σ α) (s : σ) :
    r.attempt.settle sleep s =
      match r.settle sleep s with
      | (.ended result, t) => (.ended (.ok result), t)
      | (.held p k, t) => (.held p fun answer => (k answer).attempt, t) := by
  induction r generalizing s with
  | done a => rfl
  | fail fault => rfl
  | get k ih => exact ih s s
  | put t r ih => exact ih t
  | pause p k ih =>
      cases hs : sleep p s with
      | mk reply t =>
          cases reply with
          | none => simp only [attempt, settle, hs]
          | some answer =>
              simp only [attempt, settle, hs]
              exact ih answer t

/-! ## Up to the first pause -/

/-- Without a pause one routine in one state comes to another one in another state. -/
inductive Reaches : Routine σ α → σ → Routine σ α → σ → Prop
  | here (r : Routine σ α) (s : σ) : Reaches r s r s
  | get {k : σ → Routine σ α} {q : Routine σ α} {s t : σ} (h : Reaches (k s) s q t) :
      Reaches (.get k) s q t
  | put {r q : Routine σ α} {s t u : σ} (h : Reaches r u q t) : Reaches (.put u r) s q t

/-- What is reached later is reached. -/
theorem Reaches.trans {r q u : Routine σ α} {s t v : σ} (h : Reaches r s q t)
    (hu : Reaches q t u v) : Reaches r s u v := by
  induction h with
  | here r s => exact hu
  | get _ ih => exact .get (ih hu)
  | put _ ih => exact .put (ih hu)

/-- What one routine reaches is reached before what follows. -/
theorem Reaches.bind {r q : Routine σ α} {s t : σ} (h : Reaches r s q t) (f : α → Routine σ β) :
    Reaches (r >>= f) s (q >>= f) t := by
  induction h with
  | here r s => exact .here _ _
  | get _ ih => exact .get ih
  | put _ ih => exact .put ih

/-- What a routine reaches is reached if it is taken for its outcome. -/
theorem Reaches.attempt {r q : Routine σ α} {s t : σ} (h : Reaches r s q t) :
    Reaches r.attempt s q.attempt t := by
  induction h with
  | here r s => exact .here _ _
  | get _ ih => exact .get ih
  | put _ ih => exact .put ih

/-- An act reaches its end. -/
theorem reaches_ofAct {act : Act σ α} {result : Except Fault α} {s t : σ}
    (hact : act s = (result, t)) : Reaches (ofAct act) s (ofExcept result) t := by
  refine .get ?_
  show Reaches (.put (act s).2 (ofExcept (act s).1)) s _ t
  rw [hact]
  exact .put (.here _ _)

/-- An act that succeeds leads on to the routine that follows it. -/
theorem reaches_act_bind {act : Act σ α} {f : α → Routine σ β} {a : α} {s t : σ}
    (hact : act s = (.ok a, t)) : Reaches (ofAct act >>= f) s (f a) t :=
  (reaches_ofAct hact).bind f

/-- A contract is met by what reaches something that meets it. -/
theorem Reaches.meets {c : Contract σ α} {o : Origin σ} {r q : Routine σ α} {s t : σ}
    (h : Reaches r s q t) (hq : q.Meets c o t) : r.Meets c o s := by
  induction h with
  | here r s => exact hq
  | get _ ih => exact ih hq
  | put _ ih => exact ih hq

/-- A routine ends where what it reaches ends. -/
theorem Reaches.play_eq {sleep : Pause → σ → Answer × σ} {r q : Routine σ α} {s t : σ}
    (h : Reaches r s q t) : r.play sleep s = q.play sleep t := by
  induction h with
  | here r s => rfl
  | get _ ih => exact ih
  | put _ ih => exact ih

/-- A routine stands still where what it reaches stands still. -/
theorem Reaches.settle_eq {sleep : Pause → σ → Option Answer × σ} {r q : Routine σ α} {s t : σ}
    (h : Reaches r s q t) : r.settle sleep s = q.settle sleep t := by
  induction h with
  | here r s => rfl
  | get _ ih => exact ih
  | put _ ih => exact ih

end Routine

end Gridwalk
