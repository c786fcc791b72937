import Gridwalk.Routine

/-!
# Routines that agree

Two routines agree if, played from related states, they end with the same outcome in related
states.  What is related, and how the pauses of either side are answered, is a `Pairing`.
Agreement is carried along routines on both sides at once (`agreesAt_bind`, `Agrees.repeated`),
and past acts of one side that the relation does not see (`agreesAt_act_left`).
-/

set_option autoImplicit false

namespace Gridwalk

/-- Two ways to answer pauses, and which states are compared. -/
structure Pairing (σ τ : Type) where
  left : Pause → σ → Answer × σ
  right : Pause → τ → Answer × τ
  related : σ → τ → Prop

namespace Routine

variable {σ τ α β : Type} {m : Pairing σ τ}

/-- Played from two states, two routines end with the same outcome in related states. -/
def AgreesAt (m : Pairing σ τ) (r : Routine σ α) (s : σ) (q : Routine τ α) (t : τ) : Prop :=
  (r.play m.left s).1 = (q.play m.right t).1 ∧
    m.related (r.play m.left s).2 (q.play m.right t).2

/-- Played from any related states, two routines end with the same outcome in related states. -/
def Agrees (m : Pairing σ τ) (r : Routine σ α) (q : Routine τ α) : Prop :=
  ∀ s t, m.related s t → AgreesAt m r s q t

/-- Ending with the same value agrees. -/
theorem agrees_done (m : Pairing σ τ) (a : α) : Agrees m (.done a) (.done a) :=
  fun _ _ h => ⟨rfl, h⟩

/-- Failing with the same fault agrees. -/
theorem agrees_fail (m : Pairing σ τ) (fault : Fault) :
    Agrees m (.fail fault : Routine σ α) (.fail fault) :=
  fun _ _ h => ⟨rfl, h⟩

/-- The same result agrees with itself. -/
theorem agrees_ofExcept (m : Pairing σ τ) (result : Except Fault α) :
    Agrees m (ofExcept result) (ofExcept result) := by
  cases result with
  | ok a => exact agrees_done m a
  | error fault => exact agrees_fail m fault

/-- Where two routines agree up to one relation, and then agree further up to another one after
every value, they agree in sequence up to the other one. -/
theorem agreesAt_bind_of {between : σ → τ → Prop} {r : Routine σ α} {q : Routine τ α}
    {f : α → Routine σ β} {g : α → Routine τ β} {s : σ} {t : τ}
    (h : AgreesAt { m with related := between } r s q t)
    (hnext : ∀ a s t, between s t → AgreesAt m (f a) s (g a) t)
    (hfault : ∀ s t, between s t → m.related s t) : AgreesAt m (r >>= f) s (q >>= g) t := by
  obtain ⟨hresult, hstate⟩ := h
  have hleft := play_bind m.left r f s
  have hright := play_bind m.right q g t
  cases hr : r.play m.left s with
  | mk result s' =>
      cases hq : q.play m.right t with
      | mk result' t' =>
          rw [hr] at hleft hresult hstate
          rw [hq] at hright hresult hstate
          change result = result' at hresult
          subst hresult
          unfold AgreesAt
          change ((r.bind f).play m.left s).1 = ((q.bind g).play m.right t).1 ∧
            m.related ((r.bind f).play m.left s).2 ((q.bind g).play m.right t).2
          rw [hleft, hright]
          cases result with
          | ok a => exact hnext a s' t' hstate
          | error fault => exact ⟨rfl, hfault s' t' hstate⟩

/-- Where two routines agree, and then agree further after every value, they agree in
sequence. -/
theorem agreesAt_bind {r : Routine σ α} {q : Routine τ α} {f : α → Routine σ β}
    {g : α → Routine τ β} {s : σ} {t : τ} (h : AgreesAt m r s q t)
    (hnext : ∀ a, Agrees m (f a) (g a)) : AgreesAt m (r >>= f) s (q >>= g) t :=
  agreesAt_bind_of h (fun a s t hst => hnext a s t hst) fun _ _ hst => hst

/-- Routines that agree from some states do so if they are taken for their outcomes. -/
theorem AgreesAt.attempt {r : Routine σ α} {q : Routine τ α} {s : σ} {t : τ}
    (h : AgreesAt m r s q t) : AgreesAt m r.attempt s q.attempt t := by
  obtain ⟨hresult, hstate⟩ := h
  unfold AgreesAt
  rw [play_attempt, play_attempt]
  exact ⟨congrArg Except.ok hresult, hstate⟩

/-- Routines agree in sequence if their parts do. -/
theorem Agrees.bind {r : Routine σ α} {q : Routine τ α} {f : α → Routine σ β}
    {g : α → Routine τ β} (h : Agrees m r q) (hnext : ∀ a, Agrees m (f a) (g a)) :
    Agrees m (r >>= f) (q >>= g) :=
  fun s t hst => agreesAt_bind (h s t hst) hnext

/-- Routines that agree do so when their faults are caught. -/
theorem Agrees.attempt {r : Routine σ α} {q : Routine τ α} (h : Agrees m r q) :
    Agrees m r.attempt q.attempt :=
  fun s t hst => (h s t hst).attempt

/-- After an act that succeeds the routine is played from where the act led. -/
theorem play_act_bind {sleep : Pause → σ → Answer × σ} {act : Act σ α} {f : α → Routine σ β}
    {s s' : σ} {a : α} (hact : act s = (.ok a, s')) :
    (ofAct act >>= f).play sleep s = (f a).play sleep s' := by
  have hbind := play_bind sleep (ofAct act) f s
  rw [play_ofAct, hact] at hbind
  exact hbind

/-- An act of the left side is done first. -/
theorem agreesAt_act_left {act : Act σ α} {f : α → Routine σ β} {q : Routine τ β} {s s' : σ}
    {t : τ} {a : α} (hact : act s = (.ok a, s')) (h : AgreesAt m (f a) s' q t) :
    AgreesAt m (ofAct act >>= f) s q t := by
  unfold AgreesAt
  rw [play_act_bind hact]
  exact h

/-- An act of the right side is done first. -/
theorem agreesAt_act_right {act : Act τ α} {r : Routine σ β} {g : α → Routine τ β} {s : σ}
    {t t' : τ} {a : α} (hact : act t = (.ok a, t')) (h : AgreesAt m r s (g a) t') :
    AgreesAt m r s (ofAct act >>= g) t := by
  unfold AgreesAt
  rw [play_act_bind hact]
  exact h

/-- Where two routines go on alike after the value of a calculation, they agree. -/
theorem agreesAt_ofExcept_bind {result : Except Fault α} {f : α → Routine σ β}
    {g : α → Routine τ β} {s : σ} {t : τ} (hst : m.related s t)
    (hnext : ∀ a, result = .ok a → AgreesAt m (f a) s (g a) t) :
    AgreesAt m (ofExcept result >>= f) s (ofExcept result >>= g) t := by
  cases result with
  | ok a => exact hnext a rfl
  | error fault => exact agrees_fail m fault s t hst

/-- An act of the left side that leads to a related state agrees with doing nothing. -/
theorem agreesAt_act_done {act : Act σ Unit} {s s' : σ} {t : τ} (hact : act s = (.ok (), s'))
    (h : m.related s' t) : AgreesAt m (ofAct act) s (.done ()) t := by
  unfold AgreesAt
  rw [play_ofAct, hact]
  exact ⟨rfl, h⟩

/-- Two acts that end alike agree. -/
theorem agreesAt_acts {act : Act σ α} {act' : Act τ α} {s : σ} {t : τ}
    (hresult : (act s).1 = (act' t).1) (hstate : m.related (act s).2 (act' t).2) :
    AgreesAt m (ofAct act) s (ofAct act') t := by
  unfold AgreesAt
  rw [play_ofAct, play_ofAct]
  exact ⟨hresult, hstate⟩

/-- A pause that both sides answer alike agrees. -/
theorem agreesAt_rest {p : Pause} {s : σ} {t : τ} (hanswer : (m.left p s).1 = (m.right p t).1)
    (hstate : m.related (m.left p s).2 (m.right p t).2) : AgreesAt m (rest p) s (rest p) t := by
  show AgreesAt m (ofExcept (m.left p s).1) (m.left p s).2 (ofExcept (m.right p t).1)
    (m.right p t).2
  rw [hanswer]
  exact agrees_ofExcept m _ _ _ hstate

/-- Routines that agree do so when they are repeated equally often. -/
theorem Agrees.repeated {r : Routine σ Unit} {q : Routine τ Unit} (h : Agrees m r q) (n : Nat) :
    Agrees m (Routine.repeated n r) (Routine.repeated n q) := by
  induction n with
  | zero => exact agrees_done m ()
  | succ n ih => exact h.bind fun _ => ih

end Routine

end Gridwalk
