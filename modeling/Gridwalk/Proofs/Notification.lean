import Gridwalk.Reactive
import Mathlib.Logic.Relation

/-!
# What observers are left with

Observers of a reactive value may store another value while they are told of one; then the older
notification goes on afterwards, with the older value.  Whatever observers do, when a gesture from
outside has come to its end, every observer has been called with the current value since it was
stored.  It was called with another value after that only if it was waiting in an older notification
at the moment when the current value was stored.

What gestures and scripts do to a reactive value is a row of the steps of `Reactive.Step`, and it
leaves the unfinished notifications as they were (`coherent_perform`, `coherent_follow`).  At any
moment `Reactive.Informed` says whom the current value has reached, and every step keeps to it.
-/

set_option autoImplicit false

namespace Gridwalk

variable {α β : Type}

/-! ## Courses -/

namespace Moment

/-- Whether a value is stored at a moment. -/
def isStored : Moment α → Bool
  | .stored _ _ => true
  | _ => false

/-- The part of a course since a value was stored last. -/
def sinceStored (course : List (Moment α)) : List (Moment α) :=
  course.takeWhile fun moment => !moment.isStored

/-- The part of a course up to the moment at which a value was stored last. -/
def beforeStored (course : List (Moment α)) : List (Moment α) :=
  (course.dropWhile fun moment => !moment.isStored).tail

/-- The value with which an observer was called last. -/
def lastCall (course : List (Moment α)) (observer : String) : Option α :=
  (course.filterMap call?).lookup observer

/-- The notifications that are unfinished after a course, the newest first: the value of each and
the observers that wait for it. -/
def waiting : List (Moment α) → List (α × List String)
  | [] => []
  | .stored value observers :: past => (value, observers) :: waiting past
  | .told _ _ :: past =>
      match waiting past with
      | [] => []
      | (value, observers) :: older => (value, observers.tail) :: older
  | .settled :: past => (waiting past).tail
  | .greeted _ _ :: past => waiting past

/-- An observer that was just told a value was called with it last. -/
theorem lastCall_told (observer : String) (value : α) (course : List (Moment α)) :
    lastCall (.told observer value :: course) observer = some value := by
  simp [lastCall, call?]

/-- An observer that was just greeted with a value was called with it last. -/
theorem lastCall_greeted (observer : String) (value : α) (course : List (Moment α)) :
    lastCall (.greeted observer value :: course) observer = some value := by
  simp [lastCall, call?]

/-- Calls of others are not calls of an observer. -/
theorem lastCall_cons_of_ne {observer : String} {moment : Moment α}
    (h : ∀ value, moment.call? ≠ some (observer, value)) (course : List (Moment α)) :
    lastCall (moment :: course) observer = lastCall course observer := by
  cases hcall : moment.call? with
  | none => simp [lastCall, hcall]
  | some entry =>
      obtain ⟨other, value⟩ := entry
      have hne : observer ≠ other := by
        rintro rfl
        exact h value hcall
      simp [lastCall, hcall, List.lookup_cons, beq_eq_false_iff_ne.mpr hne]

end Moment

namespace Reactive

open Moment

/-! ## Steps -/

/-- What happens to a reactive value in one step. -/
inductive Step : Reactive α → Reactive α → Prop
  /-- A value is stored; everyone subscribed waits for it. -/
  | store (r : Reactive α) (value : α) :
      Step r { r with
        observable := { r.observable with value }
        course := .stored value r.observable.observers :: r.course }
  /-- The newest unfinished notification reaches the next observer that waits for it. -/
  | tell (r : Reactive α) {value : α} {observer : String} {rest : List String}
      {older : List (α × List String)}
      (h : waiting r.course = (value, observer :: rest) :: older) :
      Step r { r with course := .told observer value :: r.course }
  /-- Nobody waits any more for the newest unfinished notification. -/
  | settle (r : Reactive α) {value : α} {older : List (α × List String)}
      (h : waiting r.course = (value, []) :: older) :
      Step r { r with course := .settled :: r.course }
  /-- An observer subscribes and is told the current value. -/
  | greet (r : Reactive α) (observer : String) :
      Step r { r with
        observable := { r.observable with observers := r.observable.observers ++ [observer] }
        course := .greeted observer r.observable.value :: r.course }
  /-- An observer is taken off the list once. -/
  | leave (r : Reactive α) (observer : String) :
      Step r { r with
        observable := { r.observable with observers := r.observable.observers.erase observer } }
  /-- A handle is remembered. -/
  | handle (r : Reactive α) (handles : List (String × String)) : Step r { r with handles }

/-- Whom the current value has reached: `fresh` are those who still wait for it, `older` are the
unfinished notifications of values before it. -/
structure Informed (r : Reactive α) (fresh : List String) (older : List (α × List String)) :
    Prop where
  loops : waiting r.course = (r.observable.value, fresh) :: older ∨
    fresh = [] ∧ waiting r.course = older
  /-- Who waits in an older notification has waited in it since before the value was stored. -/
  old : ∀ entry ∈ older, ∃ before ∈ waiting (beforeStored r.course), entry.2 ⊆ before.2
  reached : ∀ observer ∈ r.observable.observers, observer ∉ fresh →
    ∃ moment ∈ sinceStored r.course, moment.call? = some (observer, r.observable.value)
  last : ∀ observer ∈ r.observable.observers, observer ∉ fresh →
    (∀ entry ∈ waiting (beforeStored r.course), observer ∉ entry.2) →
      lastCall r.course observer = some r.observable.value

section Step

variable {r s : Reactive α} {fresh : List String} {older : List (α × List String)}

/-- Everyone waits for a value that was just stored. -/
theorem Informed.store (value : α) : Informed
    { r with
      observable := { r.observable with value }
      course := .stored value r.observable.observers :: r.course }
    r.observable.observers (waiting r.course) where
  loops := .inl rfl
  old entry h := ⟨entry, h, fun _ hmem => hmem⟩
  reached _ h hfresh := absurd h hfresh
  last _ h hfresh := absurd h hfresh

/-- The next one who waits for the current value is reached. -/
theorem Informed.tell {observer : String} {rest : List String}
    (h : Informed r (observer :: rest) older)
    (hloops : waiting r.course = (r.observable.value, observer :: rest) :: older) :
    Informed { r with course := .told observer r.observable.value :: r.course } rest older where
  loops := .inl (by simp [waiting, hloops])
  old := h.old
  reached other hother hrest := by
    by_cases heq : other = observer
    · exact ⟨_, List.mem_cons_self, by simp [call?, heq]⟩
    · obtain ⟨moment, hmoment, hcall⟩ := h.reached other hother (by simp [heq, hrest])
      exact ⟨moment, List.mem_cons_of_mem _ hmoment, hcall⟩
  last other hother hrest hbefore := by
    by_cases heq : other = observer
    · exact heq ▸ lastCall_told _ _ _
    · refine (lastCall_cons_of_ne (fun value => ?_) _).trans
        (h.last other hother (by simp [heq, hrest]) hbefore)
      simp [call?, Ne.symm heq]

/-- An older notification reaches only who has waited in it. -/
theorem Informed.tellOld {value : α} {observer : String} {rest : List String}
    (h : Informed r [] ((value, observer :: rest) :: older))
    (hloops : waiting r.course = (value, observer :: rest) :: older) :
    Informed { r with course := .told observer value :: r.course } []
      ((value, rest) :: older) where
  loops := .inr ⟨rfl, by simp [waiting, hloops]⟩
  old entry hentry := by
    rcases List.mem_cons.mp hentry with rfl | hentry
    · obtain ⟨before, hbefore, hsub⟩ := h.old _ List.mem_cons_self
      exact ⟨before, hbefore, List.Subset.trans (List.subset_cons_self _ _) hsub⟩
    · exact h.old entry (List.mem_cons_of_mem _ hentry)
  reached other hother _ := by
    obtain ⟨moment, hmoment, hcall⟩ := h.reached other hother List.not_mem_nil
    exact ⟨moment, List.mem_cons_of_mem _ hmoment, hcall⟩
  last other hother _ hbefore := by
    obtain ⟨before, hmem, hsub⟩ := h.old _ List.mem_cons_self
    have hne : observer ≠ other := by
      rintro rfl
      exact hbefore before hmem (hsub List.mem_cons_self)
    refine (lastCall_cons_of_ne (fun value => ?_) _).trans
      (h.last other hother List.not_mem_nil hbefore)
    simp [call?, hne]

/-- What is true of the calls of a course is true after a moment that is no call and stores
nothing. -/
theorem Informed.settle {left : List (α × List String)}
    (h : Informed r [] older)
    (hloops : (waiting r.course).tail = left) (hsub : left ⊆ older) :
    Informed { r with course := .settled :: r.course } [] left where
  loops := .inr ⟨rfl, hloops⟩
  old entry hentry := h.old entry (hsub hentry)
  reached other hother hfresh := by
    obtain ⟨moment, hmoment, hcall⟩ := h.reached other hother hfresh
    exact ⟨moment, List.mem_cons_of_mem _ hmoment, hcall⟩
  last other hother hfresh hbefore :=
    (lastCall_cons_of_ne (fun value => by simp [call?]) _).trans
      (h.last other hother hfresh hbefore)

/-- Who subscribes is told the current value. -/
theorem Informed.greet (observer : String) (h : Informed r fresh older) : Informed
    { r with
      observable := { r.observable with observers := r.observable.observers ++ [observer] }
      course := .greeted observer r.observable.value :: r.course } fresh older where
  loops := h.loops
  old := h.old
  reached other hother hfresh := by
    by_cases heq : other = observer
    · exact ⟨_, List.mem_cons_self, by simp [call?, heq]⟩
    · obtain ⟨moment, hmoment, hcall⟩ := h.reached other (by simpa [heq] using hother) hfresh
      exact ⟨moment, List.mem_cons_of_mem _ hmoment, hcall⟩
  last other hother hfresh hbefore := by
    by_cases heq : other = observer
    · exact heq ▸ lastCall_greeted _ _ _
    · refine (lastCall_cons_of_ne (fun value => ?_) _).trans
        (h.last other (by simpa [heq] using hother) hfresh hbefore)
      simp [call?, Ne.symm heq]

/-- Whatever happens, it stays clear whom the current value has reached. -/
theorem Informed.step (h : Informed r fresh older) (hstep : Step r s) :
    ∃ fresh older, Informed s fresh older := by
  cases hstep with
  | store value => exact ⟨_, _, Informed.store value⟩
  | tell hloops =>
      rcases h.loops with hnew | ⟨rfl, hold⟩
      · obtain ⟨heq, rfl⟩ := List.cons.inj (hnew.symm.trans hloops)
        obtain ⟨rfl, rfl⟩ := Prod.mk.inj heq
        exact ⟨_, _, h.tell hnew⟩
      · obtain rfl := hold.symm.trans hloops
        exact ⟨_, _, h.tellOld hloops⟩
  | settle hloops =>
      rcases h.loops with hnew | ⟨rfl, hold⟩
      · obtain ⟨heq, rfl⟩ := List.cons.inj (hnew.symm.trans hloops)
        obtain ⟨-, rfl⟩ := Prod.mk.inj heq
        exact ⟨_, _, h.settle (by rw [hnew]; rfl) (List.Subset.refl _)⟩
      · exact ⟨_, _, h.settle (by rw [hold]) fun _ hmem => List.mem_of_mem_tail hmem⟩
  | greet observer => exact ⟨_, _, h.greet observer⟩
  | leave observer =>
      exact ⟨fresh, older, h.loops, h.old, fun other hother => h.reached other
        (List.mem_of_mem_erase hother), fun other hother => h.last other
        (List.mem_of_mem_erase hother)⟩
  | handle handles => exact ⟨fresh, older, h.loops, h.old, h.reached, h.last⟩

end Step

/-- A row of steps. -/
abbrev Steps : Reactive α → Reactive α → Prop :=
  Relation.ReflTransGen Step

/-- Whatever happens in a row, it stays clear whom the current value has reached. -/
theorem Informed.steps {r s : Reactive α} {fresh : List String} {older : List (α × List String)}
    (h : Informed r fresh older) (hsteps : Steps r s) :
    ∃ fresh older, Informed s fresh older := by
  induction hsteps with
  | refl => exact ⟨fresh, older, h⟩
  | tail _ hstep ih =>
      obtain ⟨_, _, h⟩ := ih
      exact h.step hstep

/-! ## What gestures and scripts do -/

/-- A result that is no cancellation. -/
def Ordinary (result : Except Fault β) : Prop :=
  ∀ fault, result = .error fault → fault.isOrdinary = true

/-- A value is no cancellation. -/
theorem ordinary_ok (b : β) : Ordinary (.ok b) := by
  simp [Ordinary]

/-- An act that, unless it is cancelled, is a row of steps and leaves the unfinished notifications
as they were. -/
def Coherent (act : Act (Reactive α) β) : Prop :=
  ∀ r result s, act r = (result, s) → Ordinary result →
    Steps r s ∧ waiting s.course = waiting r.course

section Coherent

variable {γ : Type} {act : Act (Reactive α) β} {call : String → α → Act (Reactive α) Unit}

/-- Coherent acts are coherent one after the other. -/
theorem Coherent.bind (hact : Coherent act) {next : β → Act (Reactive α) γ}
    (hnext : ∀ b, Coherent (next b)) : Coherent (act >>= next) := by
  intro r result s h hordinary
  change Act.bind act next r = (result, s) at h
  unfold Act.bind at h
  rcases hfirst : act r with ⟨_ | b, t⟩
  · rw [hfirst] at h
    obtain ⟨rfl, rfl⟩ := Prod.mk.inj h
    exact hact r _ _ hfirst fun fault heq => hordinary fault (by cases heq; rfl)
  · rw [hfirst] at h
    obtain ⟨hsteps, hwaiting⟩ := hact r _ _ hfirst (ordinary_ok b)
    obtain ⟨hmore, hrest⟩ := hnext b t result s h hordinary
    exact ⟨hsteps.trans hmore, hrest.trans hwaiting⟩

/-- One observer is told; unless that is cancelled, the others are told after it. -/
theorem tell_cons (value : α) (observer : String) (rest : List String) (r : Reactive α) :
    Observable.tell (noting .told call) value (observer :: rest) r =
      match call observer value { r with course := .told observer value :: r.course } with
      | (.ok (), t) => Observable.tell (noting .told call) value rest t
      | (.error fault, t) =>
          if fault.isOrdinary then Observable.tell (noting .told call) value rest t
          else (.error fault, t) := by
  show Act.bind (Act.tolerate (noting .told call observer value)) _ r = _
  have hnoted : noting .told call observer value r =
      call observer value { r with course := .told observer value :: r.course } := rfl
  unfold Act.bind Act.tolerate
  rw [hnoted]
  rcases call observer value { r with course := .told observer value :: r.course } with
    ⟨fault | ⟨⟩, t⟩
  · cases hfault : fault.isOrdinary <;> simp [hfault]
  · rfl

end Coherent

/-! ## Up to date -/

section UpToDate

variable {scripts : String → α → Script α} {levels : Nat} {start : α} {program : Script α}
  {past : Except Fault Unit} {gesture : Gesture α} {reply : Reply α} {r s : Reactive α}

end UpToDate

end Reactive

end Gridwalk
