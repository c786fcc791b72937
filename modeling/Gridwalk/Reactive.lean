import Gridwalk.Observable

/-!
# Reactive values

A reactive value is an observable whose observers may themselves act on it.  A gesture sets or
revises the value, subscribes an observer under a handle, ends the subscription of a handle, or
raises a fault.  A script is code that can see the value and do gestures, one after the other,
each in view of what came of those before; what an observer does when it is called is a script,
and so is what is done from outside.  A gesture in a script may call observers again; `levels`
says how deep such calls may be nested.
-/

set_option autoImplicit false

namespace Gridwalk

/-- Something done to a reactive value. -/
inductive Gesture (α : Type) where
  | set (value : α)
  | revise (f : α → Except Fault α)
  | subscribe (handle observer : String)
  | unsubscribe (handle : String)
  | raise (fault : Fault)

/-- What a gesture answers. -/
inductive Reply (α : Type) where
  | nothing
  | made (value : α)
  | noSubscription

/-- Something that happened to a reactive value. -/
inductive Moment (α : Type) where
  /-- A value was stored, and the observers of that moment wait to be told. -/
  | stored (value : α) (observers : List String)
  /-- An observer was told the value for which it waited. -/
  | told (observer : String) (value : α)
  /-- Everyone was told who waited for the value that was stored last of those that are still being
  told. -/
  | settled
  /-- An observer that just subscribed was told the current value. -/
  | greeted (observer : String) (value : α)

/-- The call of an observer, if a moment is one. -/
def Moment.call? {α : Type} : Moment α → Option (String × α)
  | .told observer value => some (observer, value)
  | .greeted observer value => some (observer, value)
  | _ => none

/-- An observable with the handles of its subscriptions and what happened to it, the latest
moment first. -/
structure Reactive (α : Type) where
  observable : Observable α
  handles : List (String × String) := []
  course : List (Moment α) := []

/-- Code that can see a reactive value and do gestures. -/
inductive Script (α : Type) where
  /-- The end, with a fault or without. -/
  | finish (result : Except Fault Unit)
  /-- Goes on in view of the value. -/
  | look (next : Reactive α → Script α)
  /-- Does a gesture and goes on with what came of it, a reply or an ordinary fault. -/
  | act (gesture : Gesture α) (next : Except Fault (Reply α) → Script α)

/-- Does gestures one after the other, up to the first that fails. -/
def Script.inTurn {α : Type} : List (Gesture α) → Script α
  | [] => .finish (.ok ())
  | gesture :: rest => .act gesture fun
      | .ok _ => inTurn rest
      | .error fault => .finish (.error fault)

namespace Reactive

variable {α : Type}

/-- Where the observable is kept. -/
def place : Place (Reactive α) (Observable α) where
  get r := r.observable
  set observable r := { r with observable }

/-- Remembers which observer was subscribed under a handle. -/
def setHandle (handle observer : String) (r : Reactive α) : Reactive α :=
  { r with handles := (handle, observer) :: r.handles.filter fun entry => entry.1 != handle }

/-- Notes that something happened. -/
def note (moment : Moment α) : Act (Reactive α) Unit :=
  Act.modify Place.whole fun r => { r with course := moment :: r.course }

/-- Calls an observer and notes it as the given moment. -/
def noting (moment : String → α → Moment α) (call : String → α → Act (Reactive α) Unit)
    (observer : String) (value : α) : Act (Reactive α) Unit := do
  note (moment observer value)
  call observer value

/-- Stores a value and tells it to the observers. -/
def store (call : String → α → Act (Reactive α) Unit) (value : α) : Act (Reactive α) Unit := do
  note (.stored value (← Act.read place).observers)
  Observable.set place (noting .told call) value
  note .settled

/-- Does a gesture, where `call` is what calling an observer does. -/
def perform (call : String → α → Act (Reactive α) Unit) : Gesture α → Act (Reactive α) (Reply α)
  | .set value => do
      store call value
      return .nothing
  | .revise f => do
      let value ← Act.ofExcept (f (← Act.read place).value)
      store call value
      return .made value
  | .subscribe handle observer => do
      Observable.subscribe place (noting .greeted call) observer
      Act.modify Place.whole (setHandle handle observer)
      return .nothing
  | .unsubscribe handle => do
      match (← Act.read Place.whole).handles.lookup handle with
      | none => return .noSubscription
      | some observer =>
          Observable.unsubscribe place observer
          return .nothing
  | .raise fault => Act.fail fault

/-- Runs a script; a cancellation in one of its gestures ends it. -/
def follow (call : String → α → Act (Reactive α) Unit) : Script α → Act (Reactive α) Unit
  | .finish result => Act.ofExcept result
  | .look next => do
      follow call (next (← Act.read Place.whole))
  | .act gesture next => do
      match ← Act.attempt (perform call gesture) with
      | .error fault =>
          if fault.isOrdinary then follow call (next (.error fault)) else Act.fail fault
      | .ok reply => follow call (next (.ok reply))

/-- The fault of a call that is nested too deeply. -/
def tooDeep : Fault := .raised .cancelled (some "calls are nested too deeply")

/-- Calls an observer, which follows its script for the value. -/
def call (scripts : String → α → Script α) :
    (levels : Nat) → String → α → Act (Reactive α) Unit
  | 0, _, _ => Act.fail tooDeep
  | levels + 1, observer, value => follow (call scripts levels) (scripts observer value)

end Reactive

end Gridwalk
