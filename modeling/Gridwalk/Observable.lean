import Gridwalk.Act

/-!
# Observable values

An observable keeps a value and the names of its observers, in the order in which they
subscribed; one name may stand there several times.  Setting a value tells it to everyone
who was subscribed at that moment, in order; what observers fail at is forgotten, unless
they are cancelled.  Subscribing appends the name and then tells it the current value; a
fault there goes to the subscriber, who stays on the list.  Unsubscribing removes the
first entry of the name.

What it means to call an observer is given by `call`, an act on the whole state, so an
observer may itself set the value, subscribe or unsubscribe.
-/

set_option autoImplicit false

namespace Gridwalk

/-- A value with its observers. -/
structure Observable (α : Type) where
  value : α
  observers : List String := []
  deriving Repr

namespace Observable

variable {σ α : Type}

/-- Tells a value to observers, one after the other. -/
def tell (call : String → α → Act σ Unit) (value : α) : List String → Act σ Unit
  | [] => pure ()
  | observer :: rest => do
      Act.tolerate (call observer value)
      tell call value rest

/-- Replaces the value and tells it to the observers of that moment. -/
def set (place : Place σ (Observable α)) (call : String → α → Act σ Unit) (value : α) :
    Act σ Unit := do
  Act.modify place fun o => { o with value }
  let o ← Act.read place
  tell call value o.observers

/-- Replaces the value by one computed from it; the value that this made. -/
def revise (place : Place σ (Observable α)) (call : String → α → Act σ Unit)
    (f : α → Except Fault α) : Act σ α := do
  let value ← Act.ofExcept (f (← Act.read place).value)
  set place call value
  return value

/-- Appends an observer and tells it the current value. -/
def subscribe (place : Place σ (Observable α)) (call : String → α → Act σ Unit)
    (observer : String) : Act σ Unit := do
  Act.modify place fun o => { o with observers := o.observers ++ [observer] }
  let o ← Act.read place
  call observer o.value

/-- Removes the first entry of an observer, if there is one. -/
def unsubscribe (place : Place σ (Observable α)) (observer : String) : Act σ Unit :=
  Act.modify place fun o => { o with observers := o.observers.erase observer }

section Views

variable {υ : Type} (view : σ → υ) {place : Place σ (Observable α)} {call : String → α → Act σ Unit}
  (hset : ∀ value s, view (place.set { place.get s with value } s) = view s)
  (hcall : ∀ observer value s, view (call observer value s).2 = view s)

include hcall

/-- What every observer leaves alone is left alone when all are told. -/
theorem tell_keeps (value : α) (observers : List String) (s : σ) :
    view (tell call value observers s).2 = view s := by
  induction observers generalizing s with
  | nil => rfl
  | cons observer rest ih =>
      exact Act.bind_keeps view (Act.tolerate_keeps view (hcall observer value)) (fun _ => ih) s

include hset

/-- What observers and the value leave alone is left alone when a value is set. -/
theorem set_keeps (value : α) (s : σ) : view (set place call value s).2 = view s := by
  refine Act.bind_keeps view (hset value) (fun _ s => ?_) s
  show view (Act.bind (Act.read place) _ s).2 = _
  refine Act.bind_keeps view (fun _ => rfl) (fun o s => ?_) s
  exact tell_keeps view hcall value o.observers s

/-- What observers and the value leave alone is left alone when a value is revised. -/
theorem revise_keeps (f : α → Except Fault α) (s : σ) :
    view (revise place call f s).2 = view s := by
  show view (Act.bind (Act.read place) _ s).2 = _
  refine Act.bind_keeps view (fun _ => rfl) (fun o s => ?_) s
  show view (Act.bind (Act.ofExcept (f o.value)) _ s).2 = _
  refine Act.bind_keeps view (fun _ => rfl) (fun value s => ?_) s
  exact Act.bind_keeps view (set_keeps view hset hcall value) (fun _ _ => rfl) s

end Views

end Observable

end Gridwalk
