import Gridwalk.Proofs.Change
import Gridwalk.Proofs.Notification
import Gridwalk.Proofs.Subscriptions
import Mathlib.Data.List.Infix

/-!
# What subscribers are told

Observers that leave a reactive value alone when they are called may fail at what they are told:
gestures answer and do the same whether they fail or not (`Reactive.Civil.perform_eq`).  So a
history of gestures is known from its values and its subscriptions.  While an observer is on the
list, it is told every value that is stored, and while it is not, nothing (`Reactive.callsOf_led`);
and the observers on the list are those whose subscriptions have lasted, in the order in which these
were made (`Reactive.observers_led`).

A subscription lasts until a function is called that a subscription of its observer returned, be it
its own or an older one (`Gesture.attended`).  If no older one is called again, then the observer is
told the value that was current when it subscribed and all values that are stored until its own
function is called (`Reactive.subscribers_told`).
-/

set_option autoImplicit false

namespace Gridwalk

variable {α : Type}

/-! ## Values and subscriptions of a history -/

namespace Gesture

/-- The value that a gesture stores in view of the current one, if it stores one. -/
def stored? (value : α) : Gesture α → Option α
  | .set new => some new
  | .revise f => (f value).toOption
  | _ => none

/-- The values that gestures store, one after the other. -/
def storedBy : α → List (Gesture α) → List α
  | _, [] => []
  | value, gesture :: rest =>
      match gesture.stored? value with
      | none => storedBy value rest
      | some new => new :: storedBy new rest

/-- The observer that a gesture subscribes, if it subscribes one. -/
def subscribed? : Gesture α → Option String
  | .subscribe _ observer => some observer
  | _ => none

/-- For which observer the function under a handle was returned, after a gesture. -/
def bearerAfter (bearer : String → Option String) : Gesture α → String → Option String
  | .subscribe handle observer, other => if other = handle then some observer else bearer other
  | _, other => bearer other

/-- Whether a gesture calls a function that was returned for an observer. -/
def ends (bearer : String → Option String) (observer : String) : Gesture α → Bool
  | .unsubscribe handle => bearer handle == some observer
  | _ => false

/-- Whether a gesture calls the function under a handle. -/
def isEndOf (handle : String) : Gesture α → Bool
  | .unsubscribe other => other == handle
  | _ => false

/-- The gestures before the first one that calls a function which was returned for an observer. -/
def attended (observer : String) : (String → Option String) → List (Gesture α) → List (Gesture α)
  | _, [] => []
  | bearer, gesture :: rest =>
      if gesture.ends bearer observer then []
      else gesture :: attended observer (gesture.bearerAfter bearer) rest

/-- Whether none of some gestures calls a function that was returned for an observer. -/
def lasts (observer : String) : (String → Option String) → List (Gesture α) → Bool
  | _, [] => true
  | bearer, gesture :: rest =>
      !gesture.ends bearer observer && lasts observer (gesture.bearerAfter bearer) rest

/-- The observers whose subscriptions in a history last to its end, in the order of these
subscriptions. -/
def enrolled : (String → Option String) → List (Gesture α) → List String
  | _, [] => []
  | bearer, gesture :: rest =>
      let after := gesture.bearerAfter bearer
      (gesture.subscribed?.filter fun observer => lasts observer after rest).toList ++
        enrolled after rest

/-- Where no gesture subscribes an observer, the first one does not. -/
theorem subscribed_ne {observer : String} {gesture : Gesture α} {rest : List (Gesture α)}
    (h : ∀ handle, .subscribe handle observer ∉ gesture :: rest) :
    gesture.subscribed? ≠ some observer := by
  intro hsubscribed
  cases gesture with
  | subscribe handle other =>
      cases hsubscribed
      exact h handle List.mem_cons_self
  | _ => cases hsubscribed

/-- A gesture that ends a subscription stores no value. -/
theorem stored?_of_ends {gesture : Gesture α} {bearer : String → Option String}
    {observer : String} (h : gesture.ends bearer observer = true) (value : α) :
    gesture.stored? value = none := by
  cases gesture with
  | unsubscribe handle => rfl
  | _ => cases h

/-- As long as no older function of an observer is called, its subscription lasts until its own
function is called. -/
theorem attended_eq_takeWhile {handle observer : String} {bearer : String → Option String}
    {later : List (Gesture α)} (hbearer : bearer handle = some observer)
    (honce : ∀ other, .subscribe other observer ∉ later)
    (hkept : ∀ other, .subscribe handle other ∉ later)
    (hown : ∀ other, .unsubscribe other ∈ later → bearer other = some observer → other = handle) :
    attended observer bearer later = later.takeWhile fun gesture => !gesture.isEndOf handle := by
  induction later generalizing bearer with
  | nil => rfl
  | cons gesture rest ih =>
      have honce' := fun other h => honce other (List.mem_cons_of_mem gesture h)
      have hkept' := fun other h => hkept other (List.mem_cons_of_mem gesture h)
      have hown' := fun other h => hown other (List.mem_cons_of_mem gesture h)
      rw [attended, List.takeWhile_cons]
      cases gesture with
      | unsubscribe other =>
          by_cases hother : other = handle
          · simp [ends, isEndOf, hother, hbearer]
          · have hforeign : bearer other ≠ some observer :=
              fun h => hother (hown other List.mem_cons_self h)
            simp only [ends, isEndOf, beq_eq_false_iff_ne.mpr hforeign,
              beq_eq_false_iff_ne.mpr hother, Bool.not_false, if_true, Bool.false_eq_true, if_false]
            exact congrArg (List.cons _) (ih hbearer honce' hkept' hown')
      | subscribe fresh newcomer =>
          have hfresh : handle ≠ fresh := by
            rintro rfl
            exact hkept newcomer List.mem_cons_self
          have hnewcomer : newcomer ≠ observer := by
            rintro rfl
            exact honce fresh List.mem_cons_self
          refine congrArg (List.cons _) (ih ?_ honce' hkept' fun other hmem hother => ?_)
          · simp [bearerAfter, hfresh, hbearer]
          · refine hown' other hmem ?_
            by_cases hsame : other = fresh
            · simp [bearerAfter, hsame, hnewcomer] at hother
            · simpa [bearerAfter, hsame] using hother
      | set value => exact congrArg (List.cons _) (ih hbearer honce' hkept' hown')
      | revise f => exact congrArg (List.cons _) (ih hbearer honce' hkept' hown')
      | raise fault => exact congrArg (List.cons _) (ih hbearer honce' hkept' hown')

end Gesture

namespace Reactive

/-! ## Observers that leave the value alone -/

/-- Observers that change nothing when they are called, and fail at most at what they are told: only
with ordinary faults, and not at the call that greets them. -/
structure Civil (call : String → α → Act (Reactive α) Unit) : Prop where
  steady : ∀ observer value r, (call observer value r).2 = r
  ordinary : ∀ observer value r, Ordinary (call observer value r).1
  welcomed : ∀ observer value r past, r.course = .greeted observer value :: past →
    (call observer value r).1 = .ok ()

/-- A reactive value after a value was stored and everyone on the list was told. -/
def storing (r : Reactive α) (value : α) : Reactive α :=
  { r with
    observable := { r.observable with value }
    course := .settled ::
      ((r.observable.observers.map fun observer => .told observer value).reverse ++
        .stored value r.observable.observers :: r.course) }

/-- A reactive value after an observer was put on the list and greeted. -/
def greeting (r : Reactive α) (observer : String) : Reactive α :=
  { r with
    observable := { r.observable with observers := r.observable.observers ++ [observer] }
    course := .greeted observer r.observable.value :: r.course }

/-- What a gesture comes to if observers leave the value alone. -/
def respond (r : Reactive α) : Gesture α → Except Fault (Reply α) × Reactive α
  | .set value => (.ok .nothing, r.storing value)
  | .revise f =>
      match f r.observable.value with
      | .ok value => (.ok (.made value), r.storing value)
      | .error fault => (.error fault, r)
  | .subscribe handle observer => (.ok .nothing, (r.greeting observer).setHandle handle observer)
  | .unsubscribe handle =>
      match r.handles.lookup handle with
      | none => (.ok .noSubscription, r)
      | some observer => (.ok .nothing, { r with
          observable := { r.observable with
            observers := r.observable.observers.erase observer } })
  | .raise fault => (.error fault, r)

section Civil

variable {call : String → α → Act (Reactive α) Unit} (h : Civil call)

include h

/-- All observers are told, whichever of them fail. -/
theorem Civil.tell_eq (value : α) (observers : List String) (r : Reactive α) :
    Observable.tell (noting .told call) value observers r =
      (.ok (), { r with
        course := (observers.map fun observer => .told observer value).reverse ++ r.course }) := by
  induction observers generalizing r with
  | nil => rfl
  | cons observer rest ih =>
      let told : Reactive α := { r with course := .told observer value :: r.course }
      have hrest : Observable.tell (noting .told call) value rest told = (.ok (), { r with
          course := ((observer :: rest).map fun observer => .told observer value).reverse ++
            r.course }) := by
        rw [ih told, List.map_cons, List.reverse_cons, List.append_assoc]
        rfl
      have hsteady := h.steady observer value told
      have hordinary := h.ordinary observer value told
      rw [tell_cons]
      rcases hcall : call observer value told with ⟨fault | ⟨⟩, s⟩
      · rw [hcall] at hsteady hordinary
        obtain rfl : s = told := hsteady
        simp only [hordinary fault rfl, if_true]
        exact hrest
      · rw [hcall] at hsteady
        obtain rfl : s = told := hsteady
        exact hrest

/-- Storing succeeds and is what `storing` says, whichever observers fail. -/
theorem Civil.store_eq (value : α) (r : Reactive α) :
    store call value r = (.ok (), r.storing value) := by
  let stored : Reactive α := { r with
    observable := { r.observable with value }
    course := .stored value r.observable.observers :: r.course }
  have hrun : store call value r =
      Act.bind (Observable.tell (noting .told call) value r.observable.observers)
        (fun _ => note .settled) stored := rfl
  rw [hrun, Act.bind, h.tell_eq]
  rfl

/-- Subscribing succeeds and greets the observer, also one that fails. -/
theorem Civil.subscribe_eq (observer : String) (r : Reactive α) :
    Observable.subscribe place (noting .greeted call) observer r =
      (.ok (), r.greeting observer) := by
  have hrun : Observable.subscribe place (noting .greeted call) observer r =
      call observer r.observable.value (r.greeting observer) := rfl
  rw [hrun]
  exact Prod.ext (h.welcomed observer _ (r.greeting observer) r.course rfl) (h.steady _ _ _)

/-- A gesture answers and does the same whether observers fail or not. -/
theorem Civil.perform_eq (gesture : Gesture α) (r : Reactive α) :
    perform call gesture r = r.respond gesture := by
  cases gesture with
  | set value =>
      show Act.bind (store call value) _ r = _
      rw [Act.bind, h.store_eq]
      rfl
  | revise f =>
      show Act.bind (Act.ofExcept (f r.observable.value)) _ r = _
      cases hvalue : f r.observable.value with
      | error fault =>
          simp only [respond, hvalue]
          rfl
      | ok value =>
          simp only [respond, hvalue]
          show Act.bind (store call value) _ r = _
          rw [Act.bind, h.store_eq]
          rfl
  | subscribe handle observer =>
      show Act.bind (Observable.subscribe place (noting .greeted call) observer) _ r = _
      rw [Act.bind, h.subscribe_eq]
      rfl
  | unsubscribe handle => exact perform_unsubscribe_eq call handle r
  | raise fault => rfl

end Civil

/-! ## One gesture -/

/-- The calls of observers so far, in order. -/
def calls (r : Reactive α) : List (String × α) := (r.course.filterMap Moment.call?).reverse

/-- The values with which an observer was called so far, in order. -/
def callsOf (observer : String) (r : Reactive α) : List α :=
  (r.calls.filter fun call => call.1 == observer).map Prod.snd

/-- For which observer the function under a handle was returned. -/
def bearer (r : Reactive α) (handle : String) : Option String := r.handles.lookup handle

section Respond

variable (r : Reactive α) (gesture : Gesture α)

/-- After a gesture the value is the one it stores, or the one before. -/
theorem value_respond : (r.respond gesture).2.observable.value =
    (gesture.stored? r.observable.value).getD r.observable.value := by
  cases gesture with
  | revise f =>
      simp only [respond, Gesture.stored?]
      cases f r.observable.value <;> rfl
  | unsubscribe handle =>
      simp only [respond]
      cases r.handles.lookup handle <;> rfl
  | set value => rfl
  | subscribe handle observer => rfl
  | raise fault => rfl

/-- After a gesture the functions that were returned belong to the observers that `bearerAfter`
says. -/
theorem bearer_respond : (r.respond gesture).2.bearer = gesture.bearerAfter r.bearer := by
  cases gesture with
  | revise f =>
      simp only [respond]
      cases f r.observable.value <;> rfl
  | unsubscribe handle =>
      simp only [respond]
      cases r.handles.lookup handle <;> rfl
  | subscribe handle observer => exact funext (lookup_setHandle handle observer · _)
  | set value => rfl
  | raise fault => rfl

/-- Who ends a subscription leaves the list, and who subscribes comes last. -/
theorem observers_respond (hnodup : r.observable.observers.Nodup) :
    (r.respond gesture).2.observable.observers =
      (r.observable.observers.filter fun observer => !gesture.ends r.bearer observer) ++
        gesture.subscribed?.toList := by
  have hall : r.observable.observers.filter (fun _ => !false) = r.observable.observers :=
    List.filter_true _
  cases gesture with
  | revise f =>
      simp only [respond, Gesture.ends, Gesture.subscribed?, hall, Option.toList_none,
        List.append_nil]
      cases f r.observable.value <;> rfl
  | unsubscribe handle =>
      simp only [respond, Gesture.ends, bearer, Gesture.subscribed?, Option.toList_none,
        List.append_nil]
      cases r.handles.lookup handle with
      | none => exact hall.symm
      | some leaver =>
          refine (hnodup.erase_eq_filter leaver).trans (List.filter_congr fun observer _ => ?_)
          rw [Option.some_beq_some, bne, Bool.beq_comm]
  | subscribe handle observer =>
      simp only [Gesture.ends, Gesture.subscribed?, hall]
      rfl
  | set value =>
      simp only [Gesture.ends, Gesture.subscribed?, hall]
      exact (List.append_nil _).symm
  | raise fault =>
      simp only [Gesture.ends, Gesture.subscribed?, hall]
      exact (List.append_nil _).symm

/-- A gesture that stores a value stores it as any other does. -/
theorem respond_of_stored {new : α} (h : gesture.stored? r.observable.value = some new) :
    (r.respond gesture).2 = r.storing new := by
  cases gesture with
  | set value =>
      cases h
      rfl
  | revise f =>
      simp only [Gesture.stored?] at h
      cases hvalue : f r.observable.value with
      | error fault =>
          rw [hvalue] at h
          cases h
      | ok value =>
          rw [hvalue] at h
          cases h
          simp only [respond, hvalue]
  | subscribe handle observer => cases h
  | unsubscribe handle => cases h
  | raise fault => cases h

/-- A value that is stored is told to everyone on the list, in its order. -/
theorem calls_storing (value : α) :
    (r.storing value).calls = r.calls ++ r.observable.observers.map fun observer =>
      (observer, value) := by
  have htold : (r.observable.observers.map fun observer =>
      Moment.told observer value).filterMap Moment.call? =
        r.observable.observers.map fun observer => (observer, value) := by
    rw [List.filterMap_map, ← List.filterMap_eq_map]
    rfl
  simp only [calls, storing, List.filterMap_cons, Moment.call?, List.filterMap_append,
    List.filterMap_reverse, htold, List.reverse_append, List.reverse_reverse]

/-- Other gestures call nobody, but for the observer that they subscribe. -/
theorem calls_respond_of_none (h : gesture.stored? r.observable.value = none) :
    (r.respond gesture).2.calls =
      r.calls ++ gesture.subscribed?.toList.map fun observer => (observer, r.observable.value) := by
  cases gesture with
  | set value => cases h
  | revise f =>
      simp only [Gesture.stored?] at h
      cases hvalue : f r.observable.value with
      | error fault =>
          simp only [respond, hvalue]
          exact (List.append_nil _).symm
      | ok value =>
          rw [hvalue] at h
          cases h
  | subscribe handle observer =>
      show (List.filterMap Moment.call?
        (.greeted observer r.observable.value :: r.course)).reverse = _
      rw [List.filterMap_cons, Moment.call?, List.reverse_cons]
      rfl
  | unsubscribe handle =>
      simp only [respond]
      cases r.handles.lookup handle <;> exact (List.append_nil _).symm
  | raise fault => exact (List.append_nil _).symm

/-- A value that is stored is told to an observer that is on the list once, and to no other. -/
theorem callsOf_storing (hnodup : r.observable.observers.Nodup) (observer : String) (value : α) :
    (r.storing value).callsOf observer =
      r.callsOf observer ++ if observer ∈ r.observable.observers then [value] else [] := by
  have hself : ((r.observable.observers.map fun other => (other, value)).filter
      fun call => call.1 == observer).map Prod.snd =
        if observer ∈ r.observable.observers then [value] else [] := by
    rw [List.filter_map, List.map_map]
    show ((r.observable.observers.filter (· == observer)).map fun _ => value) = _
    rw [List.filter_beq, List.map_replicate, hnodup.count]
    split <;> rfl
  rw [callsOf, calls_storing, List.filter_append, List.map_append, hself]
  rfl

/-- A gesture that stores nothing and does not subscribe an observer does not call it. -/
theorem callsOf_respond_of_none {observer : String}
    (hstored : gesture.stored? r.observable.value = none)
    (hother : gesture.subscribed? ≠ some observer) :
    (r.respond gesture).2.callsOf observer = r.callsOf observer := by
  have hself : ((gesture.subscribed?.toList.map fun other => (other, r.observable.value)).filter
      fun call => call.1 == observer).map Prod.snd = [] := by
    cases hsubscribed : gesture.subscribed? with
    | none => rfl
    | some other =>
        have hne : other ≠ observer := by
          rintro rfl
          exact hother hsubscribed
        simp [hne]
  rw [callsOf, calls_respond_of_none r gesture hstored, List.filter_append, List.map_append, hself,
    List.append_nil]
  rfl

end Respond

/-! ## Histories of gestures -/

/-- A reactive value after gestures, whether they raise faults or not. -/
def after (call : String → α → Act (Reactive α) Unit) (r : Reactive α)
    (history : List (Gesture α)) : Reactive α :=
  history.foldl (fun r gesture => (perform call gesture r).2) r

/-- A reactive value after gestures, if observers leave it alone. -/
def led (r : Reactive α) (history : List (Gesture α)) : Reactive α :=
  history.foldl (fun r gesture => (r.respond gesture).2) r

/-- With observers that leave the value alone, a history is what `led` says. -/
theorem Civil.after_eq {call : String → α → Act (Reactive α) Unit} (h : Civil call)
    (r : Reactive α) : after call r = r.led := by
  funext history
  unfold after led
  simp only [h.perform_eq]

/-- One history after the other is both in sequence. -/
theorem led_append (r : Reactive α) (earlier later : List (Gesture α)) :
    r.led (earlier ++ later) = (r.led earlier).led later :=
  List.foldl_append

/-- At no time during a history an observer is on the list twice. -/
def Singly (run : List (Gesture α) → Reactive α) (history : List (Gesture α)) : Prop :=
  ∀ earlier, earlier <+: history → (run earlier).observable.observers.Nodup

/-- If no observer is ever on the list twice in a history, none is in its beginning. -/
theorem Singly.of_prefix {run : List (Gesture α) → Reactive α} {part history : List (Gesture α)}
    (h : Singly run history) (hpart : part <+: history) : Singly run part :=
  fun earlier hearlier => h earlier (hearlier.trans hpart)

/-- If no observer is ever on the list twice, none is after the first gesture. -/
theorem Singly.tail {r : Reactive α} {gesture : Gesture α} {rest : List (Gesture α)}
    (h : Singly r.led (gesture :: rest)) : Singly (r.respond gesture).2.led rest :=
  fun earlier hearlier => h (gesture :: earlier) ((List.prefix_cons_inj gesture).mpr hearlier)

/-- If no observer is ever on the list twice, none is in what follows a beginning. -/
theorem Singly.of_append {r : Reactive α} {earlier later : List (Gesture α)}
    (h : Singly r.led (earlier ++ later)) : Singly (r.led earlier).led later := by
  intro part hpart
  rw [← led_append]
  exact h _ ((List.prefix_append_right_inj earlier).mpr hpart)

section Led

variable {r : Reactive α} {history : List (Gesture α)} (hsingly : Singly r.led history)

/-- The stored value is the last one of those that were set. -/
theorem value_led (r : Reactive α) (history : List (Gesture α)) :
    (r.led history).observable.value =
      (Gesture.storedBy r.observable.value history).getLastD r.observable.value := by
  induction history generalizing r with
  | nil => rfl
  | cons gesture rest ih =>
      show ((r.respond gesture).2.led rest).observable.value = _
      rw [ih, value_respond, Gesture.storedBy]
      cases gesture.stored? r.observable.value with
      | none => rfl
      | some new => exact List.getLastD_cons.symm

include hsingly

/-- On the list are those who were on it and have stayed, and then those who have subscribed and
stayed. -/
theorem observers_led :
    (r.led history).observable.observers =
      (r.observable.observers.filter fun observer => Gesture.lasts observer r.bearer history) ++
        Gesture.enrolled r.bearer history := by
  induction history generalizing r with
  | nil => simp [led, Gesture.lasts, Gesture.enrolled]
  | cons gesture rest ih =>
      have hnewcomer (p : String → Bool) :
          gesture.subscribed?.toList.filter p = (gesture.subscribed?.filter p).toList := by
        cases gesture.subscribed? with
        | none => rfl
        | some observer => cases hp : p observer <;> simp [Option.filter, hp]
      show ((r.respond gesture).2.led rest).observable.observers = _
      rw [ih hsingly.tail, observers_respond r gesture (hsingly [] List.nil_prefix),
        bearer_respond, List.filter_append, List.filter_filter, hnewcomer, List.append_assoc]
      simp only [Gesture.lasts, Gesture.enrolled, Bool.and_comm]

variable {observer : String} (hnever : ∀ handle, .subscribe handle observer ∉ history)

include hnever

/-- An observer that is not on the list and does not subscribe is told nothing. -/
theorem callsOf_led_of_unlisted (hunlisted : observer ∉ r.observable.observers) :
    (r.led history).callsOf observer = r.callsOf observer := by
  induction history generalizing r with
  | nil => rfl
  | cons gesture rest ih =>
      have hnodup := hsingly [] List.nil_prefix
      have hother := Gesture.subscribed_ne hnever
      have hstill : observer ∉ (r.respond gesture).2.observable.observers := by
        rw [observers_respond r gesture hnodup]
        simp [hunlisted, hother]
      show ((r.respond gesture).2.led rest).callsOf observer = _
      rw [ih hsingly.tail (fun handle h => hnever handle (List.mem_cons_of_mem _ h)) hstill]
      cases hstored : gesture.stored? r.observable.value with
      | none => exact callsOf_respond_of_none r gesture hstored hother
      | some new =>
          rw [respond_of_stored r gesture hstored, callsOf_storing r hnodup, if_neg hunlisted,
            List.append_nil]

/-- An observer that is on the list is told every value that is stored until it leaves. -/
theorem callsOf_led (hlisted : observer ∈ r.observable.observers) :
    (r.led history).callsOf observer = r.callsOf observer ++
      Gesture.storedBy r.observable.value (Gesture.attended observer r.bearer history) := by
  induction history generalizing r with
  | nil => exact (List.append_nil _).symm
  | cons gesture rest ih =>
      have hnodup := hsingly [] List.nil_prefix
      have hother := Gesture.subscribed_ne hnever
      have hnever' := fun handle h => hnever handle (List.mem_cons_of_mem gesture h)
      have hafter := observers_respond r gesture hnodup
      show ((r.respond gesture).2.led rest).callsOf observer = _
      rw [Gesture.attended]
      cases hends : gesture.ends r.bearer observer with
      | true =>
          have hgone : observer ∉ (r.respond gesture).2.observable.observers := by
            rw [hafter]
            simp [hends, hother]
          rw [callsOf_led_of_unlisted hsingly.tail hnever' hgone,
            callsOf_respond_of_none r gesture (Gesture.stored?_of_ends hends _) hother]
          exact (List.append_nil _).symm
      | false =>
          have hstays : observer ∈ (r.respond gesture).2.observable.observers := by
            rw [hafter]
            simp [hends, hlisted]
          rw [ih hsingly.tail hnever' hstays, bearer_respond, value_respond, if_neg (by simp),
            Gesture.storedBy]
          cases hstored : gesture.stored? r.observable.value with
          | none =>
              rw [callsOf_respond_of_none r gesture hstored hother]
              rfl
          | some new =>
              rw [respond_of_stored r gesture hstored, callsOf_storing r hnodup, if_pos hlisted,
                List.append_assoc]
              rfl

end Led

/-! ## What subscribers are told -/

/-- What observers have been told after a history, compared with what they had been told before its
gestures. -/
structure Delivered (run : List (Gesture α) → Reactive α) (start : α)
    (history : List (Gesture α)) : Prop where
  /-- The stored value is the last one that was stored. -/
  value : (run history).observable.value = (Gesture.storedBy start history).getLastD start
  /-- Who never subscribes is told nothing. -/
  stranger : ∀ observer, (∀ handle, .subscribe handle observer ∉ history) →
    (run history).callsOf observer = []
  /-- For a subscription, an observer is told the current value and then every value that is
  stored, until a function is called that a subscription of this observer returned. -/
  subscription : ∀ earlier handle observer later,
    history = earlier ++ .subscribe handle observer :: later →
    (∀ other, .subscribe other observer ∉ later) →
      let current := (run earlier).observable.value
      (run history).callsOf observer = (run earlier).callsOf observer ++
        current :: Gesture.storedBy current (Gesture.attended observer
          (run (earlier ++ [.subscribe handle observer])).bearer later)
  /-- If no older function of the observer is called again, and the own one stays under its handle,
  then the observer is told the values until its own function is called. -/
  own : ∀ earlier handle observer later,
    history = earlier ++ .subscribe handle observer :: later →
    (∀ other, .subscribe other observer ∉ later) → (∀ other, .subscribe handle other ∉ later) →
    (∀ other, other ≠ handle → .unsubscribe other ∈ later →
      (run earlier).bearer other ≠ some observer) →
      let current := (run earlier).observable.value
      (run history).callsOf observer = (run earlier).callsOf observer ++
        current :: Gesture.storedBy current
          (later.takeWhile fun gesture => !gesture.isEndOf handle)
  /-- A value that is stored is told to those whose subscriptions last, in the order of these. -/
  order : ∀ earlier gesture later new, history = earlier ++ gesture :: later →
    gesture.stored? (run earlier).observable.value = some new →
      (run (earlier ++ [gesture])).calls = (run earlier).calls ++
        (Gesture.enrolled (fun _ => none) earlier).map fun observer => (observer, new)

/-- From the moment when an observer subscribes, it is told the current value and then every value
that is stored until it leaves. -/
theorem callsOf_subscribed {r : Reactive α} {earlier later : List (Gesture α)}
    {handle observer : String}
    (hsingly : Singly r.led (earlier ++ .subscribe handle observer :: later))
    (hnever : ∀ other, .subscribe other observer ∉ later) :
    (r.led (earlier ++ .subscribe handle observer :: later)).callsOf observer =
      (r.led earlier).callsOf observer ++ (r.led earlier).observable.value ::
        Gesture.storedBy (r.led earlier).observable.value (Gesture.attended observer
          (r.led (earlier ++ [.subscribe handle observer])).bearer later) := by
  let subscribed := r.led (earlier ++ [.subscribe handle observer])
  have hsubscribed : subscribed = ((r.led earlier).respond (.subscribe handle observer)).2 :=
    led_append r earlier [.subscribe handle observer]
  have hlisted : observer ∈ subscribed.observable.observers := by
    rw [hsubscribed]
    exact List.mem_append_right _ List.mem_cons_self
  have hvalue : subscribed.observable.value = (r.led earlier).observable.value := by
    rw [hsubscribed]
    rfl
  have hgreeted : subscribed.callsOf observer =
      (r.led earlier).callsOf observer ++ [(r.led earlier).observable.value] := by
    rw [hsubscribed, callsOf, calls_respond_of_none _ (.subscribe handle observer) rfl]
    simp [callsOf, Gesture.subscribed?]
  have hsplit : earlier ++ .subscribe handle observer :: later =
      earlier ++ [.subscribe handle observer] ++ later := by
    rw [List.append_assoc, List.singleton_append]
  rw [hsplit] at hsingly ⊢
  rw [led_append, callsOf_led hsingly.of_append hnever hlisted, hgreeted, hvalue, List.append_assoc]
  rfl

/-- The function that a subscription returned belongs to its observer, and the others to whom they
belonged. -/
theorem bearer_subscribed (r : Reactive α) (earlier : List (Gesture α))
    (handle observer other : String) :
    (r.led (earlier ++ [.subscribe handle observer])).bearer other =
      if other = handle then some observer else (r.led earlier).bearer other := by
  rw [led_append]
  exact congrFun (bearer_respond (r.led earlier) (.subscribe handle observer)) other

/-- What is always delivered, for the histories that `led` describes. -/
theorem delivered_led (start : α) {history : List (Gesture α)}
    (hsingly : Singly (led { observable := { value := start } }) history) :
    Delivered (led { observable := { value := start } }) start history := by
  constructor
  case value => exact value_led _ history
  case stranger =>
    intro observer hnever
    exact callsOf_led_of_unlisted hsingly hnever List.not_mem_nil
  case subscription =>
    rintro earlier handle observer later rfl hnever
    exact callsOf_subscribed hsingly hnever
  case own =>
    rintro earlier handle observer later rfl hnever hkept hown current
    have hbearer := bearer_subscribed { observable := { value := start } } earlier handle observer
    have hattended := Gesture.attended_eq_takeWhile ((hbearer handle).trans (if_pos rfl)) hnever
      hkept fun other hmem hother => by
        by_contra hne
        rw [hbearer, if_neg hne] at hother
        exact hown other hne hmem hother
    rw [← hattended]
    exact callsOf_subscribed hsingly hnever
  case order =>
    rintro earlier gesture later new rfl hstored
    have hbeginning := hsingly.of_prefix (List.prefix_append earlier (gesture :: later))
    rw [led_append]
    show ((led { observable := { value := start } } earlier).respond gesture).2.calls = _
    rw [respond_of_stored _ gesture hstored, calls_storing, observers_led hbeginning]
    rfl

/-- For observers that leave a reactive value alone, of which some fail at what they are told, and
every history in which no observer is on the list twice at a time.  At every moment of the history,
an observer has been told, for its latest subscription, the value that was current when it
subscribed and then, in order, every value that was stored, until a function was called that a
subscription of this observer returned: its own function, if no older one is called again.  Everyone
whose subscription lasts is told a value in the order of the subscriptions.  The value is the last
one stored, and nothing depends on who fails.  A change of an actor stores the actor with the fields
that the change names, and no others, changed. -/
theorem subscribers_told {call : String → α → Act (Reactive α) Unit} (hcall : Civil call)
    (start : α) (history : List (Gesture α))
    (hsingly : Singly (after call { observable := { value := start } }) history) :
    (∀ part, part <+: history →
        Delivered (after call { observable := { value := start } }) start part) ∧
      (∀ other : String → α → Act (Reactive α) Unit, Civil other →
        after other { observable := { value := start } } history =
            after call { observable := { value := start } } history ∧
          ∀ gesture r, perform other gesture r = perform call gesture r) ∧
      ∀ (tell : String → Actor → Act (Reactive Actor) Unit), Civil tell →
        ∀ (change : Actor.Change) (r : Reactive Actor), ∃ made,
          let outcome := perform tell (.revise fun actor => .ok (actor.apply change)) r
          outcome.1 = .ok (.made made) ∧ outcome.2.observable.value = made ∧
            ∀ field, made.shown field =
              (change.given? field).getD (r.observable.value.shown field) := by
  rw [hcall.after_eq] at hsingly ⊢
  refine ⟨fun part hpart => delivered_led start (hsingly.of_prefix hpart), fun other hother => ?_,
    fun tell htell change r => ?_⟩
  · rw [hother.after_eq]
    exact ⟨rfl, fun gesture r =>
      (hother.perform_eq gesture r).trans (hcall.perform_eq gesture r).symm⟩
  · rw [htell.perform_eq]
    exact ⟨_, rfl, rfl, fun field => Actor.shown_apply_eq r.observable.value⟩

/-- Observers of which one fails at whatever it is told after it was greeted. -/
def brittle (observer : String) (_ : Nat) : Act (Reactive Nat) Unit := fun r =>
  match r.course with
  | .told _ _ :: _ =>
      if observer = "b" then (.error (.raised .runtime none), r) else (.ok (), r)
  | _ => (.ok (), r)

/-- The observers in `brittle` leave the value alone and raise only ordinary faults. -/
theorem civil_brittle : Civil brittle where
  steady observer value r := by
    unfold brittle
    repeat' split
    all_goals rfl
  ordinary observer value r fault h := by
    unfold brittle at h
    split at h
    · split at h
      · cases h
        rfl
      · cases h
    · cases h
  welcomed observer value r past h := by
    unfold brittle
    rw [h]

/-- The observer that fails and the other one are told a value that is stored twice, and the one
that has left is told no more. -/
theorem subscribers_told_brittle :
    let run := after brittle { observable := { value := 0 } }
    let history : List (Gesture Nat) := [.subscribe "s" "b", .set 1, .subscribe "t" "a", .set 1,
      .revise fun n => .ok (n + 1), .unsubscribe "s", .set 5]
    (run history).callsOf "b" = [0, 1, 1, 2] ∧ (run history).callsOf "a" = [1, 1, 2, 5] ∧
      (run history).observable.value = 5 := by
  intro run history
  have hnodup : ∀ earlier ∈ history.inits, (run earlier).observable.observers.Nodup := by decide
  have hsingly : Singly run history :=
    fun earlier h => hnodup earlier ((List.mem_inits earlier history).mpr h)
  obtain ⟨hparts, -, -⟩ := subscribers_told civil_brittle 0 history hsingly
  have htold := hparts history List.prefix_rfl
  refine ⟨?_, ?_, htold.value⟩
  · exact htold.own [] "s" "b" history.tail rfl (by simp [history]) (by simp [history])
      fun _ _ _ h => by cases h
  · refine htold.own [.subscribe "s" "b", .set 1] "t" "a" _ rfl (by simp) (by simp)
      fun other _ h => ?_
    have hother : other = "s" := by simpa using h
    subst hother
    decide

/-- An older function of an observer ends its new subscription: the observer is not told the value
that is stored before its own function is called. -/
theorem subscribers_told_stale :
    let run := after (fun _ _ => pure ()) { observable := { value := 0 } }
    let history : List (Gesture Nat) := [.subscribe "s" "a", .unsubscribe "s", .subscribe "t" "a",
      .unsubscribe "s", .set 1]
    Civil (fun _ _ => pure () : String → Nat → Act (Reactive Nat) Unit) ∧ Singly run history ∧
      ¬∀ earlier handle observer later, history = earlier ++ .subscribe handle observer :: later →
        (∀ other, .subscribe other observer ∉ later) →
        (∀ other, .subscribe handle other ∉ later) →
          (run history).callsOf observer = (run earlier).callsOf observer ++
            (run earlier).observable.value :: Gesture.storedBy (run earlier).observable.value
              (later.takeWhile fun gesture => !gesture.isEndOf handle) := by
  intro run history
  have hnodup : ∀ earlier ∈ history.inits, (run earlier).observable.observers.Nodup := by decide
  refine ⟨⟨fun _ _ _ => rfl, fun _ _ _ => ordinary_ok (), fun _ _ _ _ _ => rfl⟩,
    fun earlier h => hnodup earlier ((List.mem_inits earlier history).mpr h), fun h => ?_⟩
  have htold := h [.subscribe "s" "a", .unsubscribe "s"] "t" "a" [.unsubscribe "s", .set 1] rfl
    (by simp) (by simp)
  revert htold
  decide

end Reactive

end Gridwalk
