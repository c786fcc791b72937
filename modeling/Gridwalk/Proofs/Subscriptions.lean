import Gridwalk.Reactive
import Gridwalk.Store

/-!
# Subscriptions

A subscribe call puts an observer on the list of a reactive value before it is told the value, and
returns a function that takes the first entry of that observer off the list.  So the entries are
not exactly the functions that were returned and not called yet: an observer whose first call
raises a fault stays on the list, and a function that is called again takes off an entry that
another subscription made (`Reactive.subscriptions_robbed`).

A `Reactive.Ledger` keeps the receipts of all subscribe calls that returned, and notes both
deviations.  With them the account is exact (`Reactive.subscriptions_balance`), as long as observers
leave the subscriptions alone; what else they do, and whether they fail, is left open.
-/

set_option autoImplicit false

namespace Gridwalk

namespace Reactive

variable {α : Type}

/-- Who is subscribed, and under which handles the ends of subscriptions are kept. -/
def subscriptions (r : Reactive α) : List String × List (String × String) :=
  (r.observable.observers, r.handles)

/-! ## Receipts -/

/-- What a subscribe call returned: the means, kept under a handle, to take an observer off the
list, and whether it was used. -/
structure Receipt where
  handle : String
  observer : String
  used : Bool := false

namespace Receipt

/-- The receipts, the latest first, after the one that is kept under a handle was used. -/
def use (handle : String) : List Receipt → List Receipt
  | [] => []
  | receipt :: rest =>
      if receipt.handle = handle then { receipt with used := true } :: rest
      else receipt :: use handle rest

/-- The receipt that is kept under a handle. -/
def kept? (handle : String) (receipts : List Receipt) : Option Receipt :=
  receipts.find? fun receipt => receipt.handle = handle

/-- How many receipts there are for an observer. -/
def issued (observer : String) (receipts : List Receipt) : Nat :=
  receipts.countP fun receipt => receipt.observer = observer

/-- How many receipts for an observer were used. -/
def spent (observer : String) (receipts : List Receipt) : Nat :=
  receipts.countP fun receipt => receipt.observer = observer ∧ receipt.used

section Use

variable (handle observer : String) (receipts : List Receipt)

/-- Using a receipt leaves it where it is. -/
theorem observer_kept?_use (other : String) :
    (kept? other (use handle receipts)).map Receipt.observer =
      (kept? other receipts).map Receipt.observer := by
  induction receipts with
  | nil => rfl
  | cons receipt rest ih =>
      unfold use
      split
      · unfold kept?
        by_cases hother : receipt.handle = other <;> simp [hother]
      · unfold kept? at ih ⊢
        by_cases hother : receipt.handle = other <;> simp [hother, ih]

/-- Using a receipt issues none. -/
theorem issued_use : issued observer (use handle receipts) = issued observer receipts := by
  induction receipts with
  | nil => rfl
  | cons receipt rest ih =>
      unfold use
      unfold issued at ih ⊢
      split <;> simp [List.countP_cons, ih]

/-- No more receipts were used than were issued. -/
theorem spent_le_issued : spent observer receipts ≤ issued observer receipts :=
  List.countP_mono_left fun receipt _ h => by simp_all

/-- The first use of a receipt spends it. -/
theorem spent_use {receipt : Receipt} (h : kept? handle receipts = some receipt) :
    spent observer (use handle receipts) =
      spent observer receipts +
        if receipt.observer = observer ∧ receipt.used = false then 1 else 0 := by
  induction receipts with
  | nil => cases h
  | cons first rest ih =>
      unfold kept? at h
      unfold use
      by_cases hfirst : first.handle = handle
      · simp only [List.find?_cons, hfirst, decide_true] at h
        cases h
        cases hused : receipt.used <;>
          by_cases hobserver : receipt.observer = observer <;>
            simp [spent, hfirst, hused, hobserver]
      · simp only [List.find?_cons, hfirst, decide_false] at h
        have hrest := ih h
        simp only [hfirst, if_false]
        unfold spent at hrest ⊢
        rw [List.countP_cons, List.countP_cons, hrest]
        omega

end Use

/-- A receipt that was not used yet is one more than those that were. -/
theorem spent_lt_issued {handle : String} {receipts : List Receipt} {receipt : Receipt}
    (h : kept? handle receipts = some receipt) (hused : receipt.used = false) :
    spent receipt.observer receipts < issued receipt.observer receipts := by
  have hspent := spent_use handle receipt.observer receipts h
  have hissued := issued_use handle receipt.observer receipts
  have hle := spent_le_issued receipt.observer (use handle receipts)
  simp only [hused, and_self, if_true] at hspent
  omega

end Receipt

/-! ## What gestures do to subscriptions -/

section Gestures

variable {call : String → α → Act (Reactive α) Unit}

/-- A handle that is set is found, and the others are found as before. -/
theorem lookup_setHandle (handle observer other : String) (r : Reactive α) :
    (r.setHandle handle observer).handles.lookup other =
      if other = handle then some observer else r.handles.lookup other := by
  unfold setHandle
  by_cases h : other = handle
  · simp [h]
  · have hne : (other == handle) = false := by simpa using h
    simp [List.lookup_cons, h, hne, Store.lookup_filter_ne h]

/-- A subscribe call puts its observer on the list, and if it returns, sets its handle. -/
theorem perform_subscribe
    (hcall : ∀ observer value r, subscriptions (call observer value r).2 = subscriptions r)
    (handle observer : String) (r : Reactive α) :
    (perform call (.subscribe handle observer) r).2.observable.observers =
        r.observable.observers ++ [observer] ∧
      ∀ other, (perform call (.subscribe handle observer) r).2.handles.lookup other =
        match (perform call (.subscribe handle observer) r).1 with
        | .ok _ => if other = handle then some observer else r.handles.lookup other
        | .error _ => r.handles.lookup other := by
  let greeted : Reactive α :=
    { r with
      observable := { r.observable with observers := r.observable.observers ++ [observer] }
      course := .greeted observer r.observable.value :: r.course }
  have hperform : perform call (.subscribe handle observer) r =
      match call observer r.observable.value greeted with
      | (.ok _, s) => (.ok .nothing, s.setHandle handle observer)
      | (.error fault, s) => (.error fault, s) := by
    show Act.bind (Observable.subscribe place (noting .greeted call) observer) _ r = _
    have hsubscribe : Observable.subscribe place (noting .greeted call) observer r =
        call observer r.observable.value greeted := rfl
    unfold Act.bind
    rw [hsubscribe]
    rcases call observer r.observable.value greeted with ⟨fault | u, s⟩ <;> rfl
  obtain ⟨hobservers, hhandles⟩ := Prod.mk.inj (hcall observer r.observable.value greeted)
  rw [hperform]
  cases hresult : call observer r.observable.value greeted with
  | mk result s =>
      rw [hresult] at hobservers hhandles
      change s.handles = r.handles at hhandles
      cases result with
      | error fault => exact ⟨hobservers, fun other => congrArg (List.lookup other) hhandles⟩
      | ok u =>
          refine ⟨hobservers, fun other => ?_⟩
          show (s.setHandle handle observer).handles.lookup other = _
          rw [lookup_setHandle, hhandles]

/-- An unsubscribe call finds the observer of its handle and takes its first entry off the list. -/
theorem perform_unsubscribe_eq (call : String → α → Act (Reactive α) Unit) (handle : String)
    (r : Reactive α) :
    perform call (.unsubscribe handle) r =
      match r.handles.lookup handle with
      | none => (.ok .noSubscription, r)
      | some observer => (.ok .nothing, { r with
          observable := { r.observable with
            observers := r.observable.observers.erase observer } }) := by
  unfold perform
  simp only [bind, Act.bind, Act.read, Place.whole]
  cases r.handles.lookup handle <;> rfl

/-- An unsubscribe call takes the first entry of the observer of its handle off the list. -/
theorem perform_unsubscribe (call : String → α → Act (Reactive α) Unit) (handle : String)
    (r : Reactive α) :
    (perform call (.unsubscribe handle) r).2.handles = r.handles ∧
      (perform call (.unsubscribe handle) r).2.observable.observers =
        match r.handles.lookup handle with
        | none => r.observable.observers
        | some observer => r.observable.observers.erase observer := by
  rw [perform_unsubscribe_eq]
  cases r.handles.lookup handle <;> exact ⟨rfl, rfl⟩

/-- Storing a value leaves the subscriptions alone if those who are called do. -/
theorem subscriptions_store
    (hcall : ∀ observer value r, subscriptions (call observer value r).2 = subscriptions r)
    (value : α) (r : Reactive α) :
    subscriptions (store call value r).2 = subscriptions r := by
  have hnoting (moment : String → α → Moment α) (observer : String) (value : α)
      (r : Reactive α) : subscriptions (noting moment call observer value r).2 = subscriptions r :=
    hcall observer value { r with course := moment observer value :: r.course }
  show subscriptions (Act.bind (Act.read place) _ r).2 = _
  refine Act.bind_keeps subscriptions (fun _ => rfl) (fun o r => ?_) r
  have hnote (r : Reactive α) : subscriptions (note (.stored value o.observers) r).2 =
      subscriptions r := rfl
  refine Act.bind_keeps subscriptions hnote (fun _ r => ?_) r
  refine Act.bind_keeps subscriptions ?_ (fun _ _ => rfl) r
  exact Observable.set_keeps subscriptions (fun _ _ => rfl) (hnoting .told) value

/-- Gestures other than subscribing and unsubscribing leave the subscriptions alone. -/
theorem subscriptions_perform
    (hcall : ∀ observer value r, subscriptions (call observer value r).2 = subscriptions r)
    {gesture : Gesture α} (hsubscribe : ∀ handle observer, gesture ≠ .subscribe handle observer)
    (hunsubscribe : ∀ handle, gesture ≠ .unsubscribe handle) (r : Reactive α) :
    subscriptions (perform call gesture r).2 = subscriptions r := by
  cases gesture with
  | set value =>
      exact Act.bind_keeps subscriptions (subscriptions_store hcall value) (fun _ _ => rfl) r
  | revise f =>
      show subscriptions (Act.bind (Act.read place) _ r).2 = _
      refine Act.bind_keeps subscriptions (fun _ => rfl) (fun o r => ?_) r
      show subscriptions (Act.bind (Act.ofExcept (f o.value)) _ r).2 = _
      refine Act.bind_keeps subscriptions (fun _ => rfl) (fun value r => ?_) r
      exact Act.bind_keeps subscriptions (subscriptions_store hcall value) (fun _ _ => rfl) r
  | subscribe handle observer => exact absurd rfl (hsubscribe handle observer)
  | unsubscribe handle => exact absurd rfl (hunsubscribe handle)
  | raise fault => rfl

end Gestures

/-! ## The account -/

/-- A reactive value with the receipts of its subscribe calls, the latest first, and what they do
not account for. -/
structure Ledger (α : Type) where
  reactive : Reactive α
  receipts : List Receipt := []
  /-- The observers of subscribe calls that raised a fault. -/
  raised : List String := []
  /-- The observers that were taken off the list by a receipt which had been used before. -/
  robbed : List String := []
  /-- The observers that were not on the list any more when a receipt was used for the first
  time. -/
  missed : List String := []

namespace Ledger

/-- A new reactive value. -/
def fresh (start : α) : Ledger α where
  reactive := { observable := { value := start } }

/-- How often an observer is on the list. -/
def registered (ledger : Ledger α) (observer : String) : Nat :=
  ledger.reactive.observable.observers.count observer

/-- What becomes of a ledger when the receipt that is kept under a handle is used. -/
def use (ledger : Ledger α) (handle : String) (reactive : Reactive α) : Ledger α :=
  match Receipt.kept? handle ledger.receipts with
  | none => { ledger with reactive }
  | some receipt =>
      let isListed := decide (receipt.observer ∈ ledger.reactive.observable.observers)
      { ledger with
        reactive
        receipts := Receipt.use handle ledger.receipts
        robbed :=
          if receipt.used && isListed then receipt.observer :: ledger.robbed else ledger.robbed
        missed :=
          if !receipt.used && !isListed then receipt.observer :: ledger.missed
          else ledger.missed }

/-- Does a gesture and enters it. -/
def enter (call : String → α → Act (Reactive α) Unit) (ledger : Ledger α)
    (gesture : Gesture α) : Ledger α :=
  match gesture, perform call gesture ledger.reactive with
  | .subscribe handle observer, (.ok _, reactive) =>
      { ledger with reactive, receipts := { handle, observer } :: ledger.receipts }
  | .subscribe _ observer, (.error _, reactive) =>
      { ledger with reactive, raised := observer :: ledger.raised }
  | .unsubscribe handle, (_, reactive) => ledger.use handle reactive
  | _, (_, reactive) => { ledger with reactive }

/-- Does gestures one after the other, whether they raise faults or not. -/
def after (call : String → α → Act (Reactive α) Unit) (ledger : Ledger α)
    (history : List (Gesture α)) : Ledger α :=
  history.foldl (enter call) ledger

/-- What is always true of a ledger: handles lead to the observers of their receipts, and the
account of every observer is exact. -/
structure Balanced (ledger : Ledger α) : Prop where
  handles : ∀ handle, ledger.reactive.handles.lookup handle =
    (Receipt.kept? handle ledger.receipts).map Receipt.observer
  balance : ∀ observer,
    ledger.registered observer + Receipt.spent observer ledger.receipts +
        ledger.robbed.count observer =
      Receipt.issued observer ledger.receipts + ledger.raised.count observer +
        ledger.missed.count observer
  missed : ∀ observer, ledger.missed.count observer ≤ ledger.robbed.count observer

/-- A name that is added under a condition is counted once more if it holds. -/
theorem count_added (condition : Bool) (observer other : String) (names : List String) :
    (if condition then observer :: names else names).count other =
      names.count other + if condition = true ∧ observer = other then 1 else 0 := by
  cases condition <;> simp [List.count_cons]

section Steps

variable {call : String → α → Act (Reactive α) Unit} {ledger : Ledger α}

/-- A new reactive value has an empty account, which is exact. -/
theorem balanced_fresh (start : α) : (fresh start).Balanced where
  handles _ := rfl
  balance _ := rfl
  missed _ := Nat.le_refl _

/-- Entering a gesture in a ledger does the gesture. -/
theorem reactive_enter (gesture : Gesture α) :
    (ledger.enter call gesture).reactive = (perform call gesture ledger.reactive).2 := by
  unfold enter
  rcases hperform : perform call gesture ledger.reactive with ⟨result, reactive⟩
  cases gesture with
  | subscribe handle observer => cases result <;> rfl
  | unsubscribe handle =>
      show (ledger.use handle reactive).reactive = reactive
      unfold use
      split <;> rfl
  | set value => rfl
  | revise f => rfl
  | raise fault => rfl

/-- What leaves the subscriptions alone leaves the account exact. -/
theorem Balanced.of_subscriptions (h : ledger.Balanced) {reactive : Reactive α}
    (hsame : subscriptions reactive = subscriptions ledger.reactive) :
    ({ ledger with reactive } : Ledger α).Balanced := by
  obtain ⟨hobservers, hhandles⟩ := Prod.mk.inj hsame
  refine ⟨fun handle => ?_, fun observer => ?_, h.missed⟩
  · show reactive.handles.lookup handle = _
    rw [hhandles]
    exact h.handles handle
  · show reactive.observable.observers.count observer + _ + _ = _
    rw [hobservers]
    exact h.balance observer

section Subscribe

variable {handle observer : String} {reactive : Reactive α}
  (hobservers : reactive.observable.observers =
    ledger.reactive.observable.observers ++ [observer])

include hobservers

/-- An observer that fails when it is greeted is listed without a receipt, and entered as such. -/
theorem Balanced.raise (h : ledger.Balanced)
    (hhandles : ∀ other,
      reactive.handles.lookup other = ledger.reactive.handles.lookup other) :
    ({ ledger with reactive, raised := observer :: ledger.raised } : Ledger α).Balanced := by
  refine ⟨fun other => (hhandles other).trans (h.handles other), fun other => ?_, h.missed⟩
  have hbalance := h.balance other
  unfold registered at hbalance ⊢
  simp only [hobservers, List.count_append, List.count_cons, List.count_nil]
  omega

/-- An observer that is greeted is listed once more and has one more receipt. -/
theorem Balanced.issue (h : ledger.Balanced)
    (hhandles : ∀ other, reactive.handles.lookup other =
      if other = handle then some observer else ledger.reactive.handles.lookup other) :
    ({ ledger with
        reactive, receipts := { handle, observer } :: ledger.receipts } : Ledger α).Balanced := by
  refine ⟨fun other => ?_, fun other => ?_, h.missed⟩
  · have hkept := h.handles other
    rw [hhandles]
    unfold Receipt.kept? at hkept ⊢
    by_cases hother : other = handle
    · simp [hother]
    · simp [hother, Ne.symm hother, hkept]
  · have hbalance := h.balance other
    have hissued : Receipt.issued other ({ handle, observer } :: ledger.receipts) =
        Receipt.issued other ledger.receipts + if observer = other then 1 else 0 := by
      simp [Receipt.issued, List.countP_cons]
    have hspent : Receipt.spent other ({ handle, observer } :: ledger.receipts) =
        Receipt.spent other ledger.receipts := by
      simp [Receipt.spent]
    unfold registered at hbalance ⊢
    simp only [hobservers, List.count_append, List.count_singleton, hissued, hspent, beq_iff_eq]
    omega

end Subscribe

/-- A ledger stays balanced when a receipt is used, for the first time or again. -/
theorem Balanced.use (h : ledger.Balanced) {handle : String} {reactive : Reactive α}
    (hhandles : reactive.handles = ledger.reactive.handles)
    (hobservers : reactive.observable.observers =
      match ledger.reactive.handles.lookup handle with
      | none => ledger.reactive.observable.observers
      | some observer => ledger.reactive.observable.observers.erase observer) :
    (ledger.use handle reactive).Balanced := by
  rw [h.handles handle] at hobservers
  unfold Ledger.use
  cases hkept : Receipt.kept? handle ledger.receipts with
  | none =>
      rw [hkept] at hobservers
      refine h.of_subscriptions (Prod.ext hobservers hhandles)
  | some receipt =>
      rw [hkept] at hobservers
      change _ = ledger.reactive.observable.observers.erase receipt.observer at hobservers
      -- Only the counts of the observer of the receipt change, and how depends on whether the
      -- receipt was used before, and on whether the observer is on the list.
      refine ⟨fun other => ?_, fun other => ?_, fun other => ?_⟩
      · show reactive.handles.lookup other = _
        rw [hhandles, h.handles other, Receipt.observer_kept?_use]
      · have hbalance := h.balance other
        have hspent := Receipt.spent_use handle other ledger.receipts hkept
        have hissued := Receipt.issued_use handle other ledger.receipts
        unfold registered at hbalance ⊢
        simp only [hobservers, hspent, hissued, count_added]
        by_cases hother : receipt.observer = other
        · subst hother
          by_cases hlisted : receipt.observer ∈ ledger.reactive.observable.observers
          · have hcount := List.count_pos_iff.mpr hlisted
            cases receipt.used <;> simp [hlisted, List.count_erase_self] <;> omega
          · cases receipt.used <;> simp [hlisted, List.erase_of_not_mem hlisted] <;> omega
        · simp [hother, List.count_erase_of_ne (Ne.symm hother), hbalance]
      · have hmissed := h.missed other
        have hbalance := h.balance other
        simp only [count_added]
        by_cases hother : receipt.observer = other
        · subst hother
          by_cases hlisted : receipt.observer ∈ ledger.reactive.observable.observers
          · simp [hlisted]
            omega
          · cases hused : receipt.used with
            | true => simp [hlisted, hmissed]
            | false =>
                have hcount : ledger.registered receipt.observer = 0 :=
                  List.count_eq_zero.mpr hlisted
                have hissued := Receipt.spent_lt_issued hkept hused
                simp [hlisted]
                omega
        · simp [hother, hmissed]

/-- Every gesture keeps the account exact. -/
theorem Balanced.enter
    (hcall : ∀ observer value r, subscriptions (call observer value r).2 = subscriptions r)
    (h : ledger.Balanced) (gesture : Gesture α) : (ledger.enter call gesture).Balanced := by
  have hsteady (hsame : subscriptions (perform call gesture ledger.reactive).2 =
      subscriptions ledger.reactive) :=
    h.of_subscriptions hsame
  unfold Ledger.enter
  cases gesture with
  | subscribe handle observer =>
      obtain ⟨hobservers, hhandles⟩ := perform_subscribe hcall handle observer ledger.reactive
      cases hperform : perform call (.subscribe handle observer) ledger.reactive with
      | mk result reactive =>
          rw [hperform] at hobservers hhandles
          cases result with
          | error fault => exact Balanced.raise hobservers h hhandles
          | ok reply => exact Balanced.issue hobservers h hhandles
  | unsubscribe handle =>
      obtain ⟨hhandles, hobservers⟩ := perform_unsubscribe call handle ledger.reactive
      exact h.use hhandles hobservers
  | set value =>
      exact hsteady (subscriptions_perform hcall (by simp) (by simp) _)
  | revise f =>
      exact hsteady (subscriptions_perform hcall (by simp) (by simp) _)
  | raise fault =>
      exact hsteady (subscriptions_perform hcall (by simp) (by simp) _)

/-- After every history the account is exact. -/
theorem Balanced.after
    (hcall : ∀ observer value r, subscriptions (call observer value r).2 = subscriptions r)
    (h : ledger.Balanced) (history : List (Gesture α)) :
    (ledger.after call history).Balanced := by
  induction history generalizing ledger with
  | nil => exact h
  | cons gesture rest ih => exact ih (h.enter hcall gesture)

/-- Keeping a ledger changes nothing of what gestures do. -/
theorem reactive_after (history : List (Gesture α)) :
    (ledger.after call history).reactive =
      history.foldl (fun r gesture => (perform call gesture r).2) ledger.reactive := by
  induction history generalizing ledger with
  | nil => rfl
  | cons gesture rest ih =>
      rw [List.foldl_cons, ← reactive_enter]
      exact ih

end Steps

end Ledger

/-- The account of the subscriptions of an observer after every history of gestures.  How often it
is on the list, how many receipts were used and how often it was robbed come to as much as how many
receipts were issued, how many of its subscribe calls raised a fault and how many receipts missed;
and receipts miss no oftener than the observer was robbed.  So, if none of its subscribe calls
raised a fault and no receipt took it off the list again, it is on the list as often as there are
receipts that were not used. -/
theorem subscriptions_balance {call : String → α → Act (Reactive α) Unit}
    (hcall : ∀ observer value r, subscriptions (call observer value r).2 = subscriptions r)
    (start : α) (history : List (Gesture α)) (observer : String) :
    let ledger := (Ledger.fresh start).after call history
    let issued := Receipt.issued observer ledger.receipts
    let spent := Receipt.spent observer ledger.receipts
    ledger.reactive = history.foldl (fun r gesture => (perform call gesture r).2)
        { observable := { value := start } } ∧
      ledger.registered observer + spent + ledger.robbed.count observer =
        issued + ledger.raised.count observer + ledger.missed.count observer ∧
      ledger.missed.count observer ≤ ledger.robbed.count observer ∧
      (observer ∉ ledger.raised → observer ∉ ledger.robbed →
        ledger.registered observer + spent = issued) := by
  intro ledger issued spent
  have hledger : ledger.Balanced := (Ledger.balanced_fresh start).after hcall history
  have hbalance := hledger.balance observer
  have hmissed := hledger.missed observer
  refine ⟨Ledger.reactive_after history, hbalance, hmissed, fun hraised hrobbed => ?_⟩
  have hnoneRaised : ledger.raised.count observer = 0 := List.count_eq_zero.mpr hraised
  have hnoneRobbed : ledger.robbed.count observer = 0 := List.count_eq_zero.mpr hrobbed
  show ledger.registered observer + Receipt.spent observer ledger.receipts =
    Receipt.issued observer ledger.receipts
  omega

/-- An observer that fails at one value. -/
def fickle (_ : String) (value : Nat) : Act (Reactive Nat) Unit :=
  if value = 1 then Act.fail (.raised .runtime none) else pure ()

/-- Subscriptions that are ended in another order than they were made, around a failing
notification. -/
theorem subscriptions_balance_fickle :
    let ledger := (Ledger.fresh 0).after fickle [
      .subscribe "s" "a", .subscribe "t" "b", .subscribe "u" "a", .set 1, .unsubscribe "u",
      .unsubscribe "t", .set 2, .subscribe "u" "a"]
    ledger.registered "a" = 2 ∧ Receipt.issued "a" ledger.receipts = 3 ∧
      ledger.registered "a" + Receipt.spent "a" ledger.receipts =
        Receipt.issued "a" ledger.receipts := by
  intro ledger
  have hcall (observer : String) (value : Nat) (r : Reactive Nat) :
      subscriptions (fickle observer value r).2 = subscriptions r := by
    unfold fickle
    split <;> rfl
  obtain ⟨-, -, -, hclear⟩ := subscriptions_balance hcall 0 [
    .subscribe "s" "a", .subscribe "t" "b", .subscribe "u" "a", .set 1, .unsubscribe "u",
    .unsubscribe "t", .set 2, .subscribe "u" "a"] "a"
  exact ⟨by decide, by decide, hclear (by decide) (by decide)⟩

/-- A receipt that is used twice ends another subscription of its observer, and a subscribe call
that raises a fault leaves its observer on the list. -/
theorem subscriptions_robbed :
    let twice := (Ledger.fresh 0).after fickle [
      .subscribe "s" "a", .subscribe "t" "a", .unsubscribe "s", .unsubscribe "s"]
    let failed := (Ledger.fresh 1).after fickle [.subscribe "s" "a"]
    (Receipt.issued "a" twice.receipts = 2 ∧ Receipt.spent "a" twice.receipts = 1 ∧
        twice.registered "a" = 0) ∧
      Receipt.issued "a" failed.receipts = 0 ∧ failed.registered "a" = 1 := by
  decide

end Reactive

end Gridwalk
