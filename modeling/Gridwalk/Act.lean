import Gridwalk.Fault

/-!
# Acts

An act reads and changes a state and ends at once, with a value or with a fault.  What it
changed before a fault stays changed.  A `Place` says where a part of the state is kept;
acts on a part are acts on the whole through its place.
-/

set_option autoImplicit false

namespace Gridwalk

/-- Where a `τ` is kept inside a `σ`. -/
structure Place (σ τ : Type) where
  get : σ → τ
  set : τ → σ → σ

namespace Place

variable {σ τ υ : Type}

/-- What was put at a lawful place is found there, and nothing else depends on it. -/
structure Lawful (place : Place σ τ) : Prop where
  get_set : ∀ t s, place.get (place.set t s) = t
  set_get : ∀ s, place.set (place.get s) s = s
  set_set : ∀ t u s, place.set t (place.set u s) = place.set t s

/-- A state as a place in itself. -/
def whole : Place σ σ where
  get s := s
  set t _ := t

/-- A place inside what is kept at a place. -/
def inside (outer : Place σ τ) (inner : Place τ υ) : Place σ υ where
  get s := inner.get (outer.get s)
  set u s := outer.set (inner.set u (outer.get s)) s

/-- A state is a lawful place in itself. -/
theorem lawful_whole : Lawful (whole : Place σ σ) where
  get_set _ _ := rfl
  set_get _ := rfl
  set_set _ _ _ := rfl

/-- A lawful place inside a lawful place is lawful. -/
theorem Lawful.inside {outer : Place σ τ} {inner : Place τ υ} (ho : outer.Lawful)
    (hi : inner.Lawful) : (outer.inside inner).Lawful where
  get_set t s := by simp [Place.inside, ho.get_set, hi.get_set]
  set_get s := by simp [Place.inside, hi.set_get, ho.set_get]
  set_set t u s := by simp [Place.inside, ho.get_set, ho.set_set, hi.set_set]

end Place

/-- A change of state that ends at once, with a value or a fault. -/
def Act (σ α : Type) : Type := σ → Except Fault α × σ

namespace Act

variable {σ τ α β : Type}

/-- An act that changes nothing. -/
protected def pure (a : α) : Act σ α := fun s => (.ok a, s)

/-- One act after the other; a fault of the first is the end. -/
protected def bind (act : Act σ α) (next : α → Act σ β) : Act σ β := fun s =>
  match act s with
  | (.ok a, s) => next a s
  | (.error fault, s) => (.error fault, s)

instance : Monad (Act σ) where
  pure := Act.pure
  bind := Act.bind

/-- An act that only fails. -/
def fail (fault : Fault) : Act σ α := fun s => (.error fault, s)

/-- The value or the fault of a computation that has no state. -/
def ofExcept (result : Except Fault α) : Act σ α := fun s => (result, s)

/-- What is kept at a place. -/
def read (place : Place σ τ) : Act σ τ := fun s => (.ok (place.get s), s)

/-- Changes what is kept at a place. -/
def modify (place : Place σ τ) (f : τ → τ) : Act σ Unit := fun s =>
  (.ok (), place.set (f (place.get s)) s)

/-- Does a change that may be refused; a refused change leaves the state alone. -/
def update (place : Place σ τ) (f : τ → Except Fault τ) : Act σ Unit := fun s =>
  match f (place.get s) with
  | .ok t => (.ok (), place.set t s)
  | .error fault => (.error fault, s)

/-- An act whose ordinary faults are forgotten. -/
def tolerate (act : Act σ Unit) : Act σ Unit := fun s =>
  match act s with
  | (.error fault, s) => if fault.isOrdinary then (.ok (), s) else (.error fault, s)
  | (.ok (), s) => (.ok (), s)

/-- An act with its outcome as its value. -/
def attempt (act : Act σ α) : Act σ (Except Fault α) := fun s =>
  match act s with
  | (result, s) => (.ok result, s)

/-- An act followed by an act that changes nothing is the act itself. -/
theorem bind_pure_id (act : Act σ α) : Act.bind act Act.pure = act := by
  funext s
  cases h : act s with
  | mk result t => cases result <;> simp [Act.bind, Act.pure, h]

/-- Sequencing is associative. -/
theorem bind_assoc {γ : Type} (act : Act σ α) (f : α → Act σ β) (g : β → Act σ γ) :
    Act.bind (Act.bind act f) g = Act.bind act fun a => Act.bind (f a) g := by
  funext s
  cases h : act s with
  | mk result t => cases result <;> simp [Act.bind, h]

/-- What two acts keep is kept by one after the other. -/
theorem bind_keeps {υ : Type} (view : σ → υ) {act : Act σ α} {next : α → Act σ β}
    (hact : ∀ s, view (act s).2 = view s) (hnext : ∀ a s, view (next a s).2 = view s) (s : σ) :
    view (Act.bind act next s).2 = view s := by
  have hfirst := hact s
  unfold Act.bind
  cases h : act s with
  | mk result t =>
      rw [h] at hfirst
      cases result with
      | ok a => exact (hnext a t).trans hfirst
      | error fault => exact hfirst

/-- What an act keeps is kept when its ordinary faults are tolerated. -/
theorem tolerate_keeps {υ : Type} (view : σ → υ) {act : Act σ Unit}
    (h : ∀ s, view (act s).2 = view s) (s : σ) : view (act.tolerate s).2 = view s := by
  have hact := h s
  unfold Act.tolerate
  cases hresult : act s with
  | mk result t =>
      rw [hresult] at hact
      cases result with
      | ok u => exact hact
      | error fault =>
          show view (if fault.isOrdinary = true then _ else _ : Except Fault Unit × σ).2 = _
          split <;> exact hact

instance : LawfulMonad (Act σ) :=
  LawfulMonad.mk' _ (fun act => bind_pure_id act) (fun _ _ => rfl)
    (fun act f g => bind_assoc act f g)

end Act

end Gridwalk
