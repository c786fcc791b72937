import Gridwalk.Proofs.Calls
import Gridwalk.Proofs.MatchedStages

/-!
# Attempts that are refused

While a run is in progress on a context, others try things on it: tasks try to run programs, to
reset the actor and to edit loops at the pauses of the run, and observers try to reset and to edit
whenever they are told something.  If the run holds the lease of a session, tasks also try to
dispatch runs for that session on other contexts.  A `Company` says who tries what and when, given
the whole fleet at that moment, and what else others do at pauses.

A fleet in such company is `Watched`: every attempt leaves a note of what it was refused with.  On a
context of a run in progress, everything that observers are told leads to the same fleet as without
their attempts, and all of these are refused because of the run (`Watched.set_of_running`).
-/

set_option autoImplicit false

namespace Gridwalk

open Routine

/-! ## What is refused during a run -/

namespace Stage

variable {σ : Type} {stage : Stage σ} {s : σ}

/-- A reset during a run is refused, and nothing changes. -/
theorem resetActor_of_running (h : (stage.context.get s).phase = .running) (x y angle : Int) :
    stage.resetActor x y angle s = (.error .resetWhileRunning, s) := by
  simp only [resetActor, resetActorTo, bind, Act.bind, read_eq, h]
  rfl

/-- An edit of a loop during a run is refused, and nothing changes. -/
theorem editLoop_of_running (h : (stage.context.get s).phase = .running) (id : String)
    (edit : Loop.Edit) : stage.editLoop id edit s = (.error .runInProgress, s) := by
  simp only [editLoop, bind, Act.bind, requireIdle_of_running h]

end Stage

/-- A key that was claimed holds the text that it was claimed with. -/
theorem Store.find_of_claim? {store claimed : Store} {key token : String}
    (h : store.claim? key token = some claimed) : claimed.find key = some (.text token true) := by
  unfold claim? at h
  split at h
  · obtain rfl := Option.some.inj h
    rw [find_put, if_pos rfl]
  · cases h

/-- The session under whose lease a call runs its program, if there is one. -/
def Call.session? : Call → Option String
  | .dispatch ticket _ => some ticket.session
  | _ => none

/-! ## Company -/

/-- Something that is tried at once. -/
inductive Meddling where
  | reset (x y angle : Int)
  | edit (id : String) (edit : Loop.Edit)

/-- Something that a task tries at a pause. -/
inductive Attempt where
  /-- To meddle with the context of the run. -/
  | meddle (m : Meddling)
  /-- To run a program on a context. -/
  | call (context : String) (call : Call)

/-- Something that happens at a pause: an attempt, or whatever else others do. -/
inductive Visit where
  | attempt (a : Attempt)
  | other (g : Fleet → Fleet)

/-- Who tries what, and what else happens. -/
structure Company where
  crowd : Crowd
  /-- What an observer tries when it is told something, before it reacts. -/
  meddlings : Telling → Fleet → List Meddling
  /-- What happens at a pause. -/
  visits : Pause → Fleet → List Visit
  /-- How a pause is answered in the end. -/
  answer : Pause → Fleet → Answer

/-- A fleet with notes of what attempts were refused with, the latest first; an attempt that was not
refused leaves an empty note. -/
structure Watched where
  fleet : Fleet
  notes : List (Option Fault) := []

namespace Watched

/-- Where the fleet is kept. -/
def fleetPlace : Place Watched Fleet where
  get w := w.fleet
  set fleet w := { w with fleet }

/-- Where the store is kept. -/
def storePlace : Place Watched Store := fleetPlace.inside Fleet.storePlace

/-- An act on the fleet. -/
def onFleet {α : Type} (act : Act Fleet α) : Act Watched α := fun w =>
  ((act w.fleet).1, { w with fleet := (act w.fleet).2 })

/-- The watched fleet with one note more. -/
def noted (w : Watched) (note : Option Fault) : Watched :=
  { w with notes := note :: w.notes }

/-- Tries an act, and notes what it was refused with. -/
def attempt {α : Type} (act : Act Watched α) : Act Watched Unit := fun w =>
  match act w with
  | (.ok _, w) => (.ok (), w.noted none)
  | (.error fault, w) => (.ok (), w.noted (some fault))

/-- Meddles with a context. -/
def meddle (stage : Stage Watched) : Meddling → Act Watched Unit
  | .reset x y angle => attempt (stage.resetActor x y angle)
  | .edit id edit => attempt (stage.editLoop id edit)

/-- Meddles with a context several times. -/
def meddleAll (stage : Stage Watched) : List Meddling → Act Watched Unit
  | [] => pure ()
  | m :: rest => do
      meddle stage m
      meddleAll stage rest

/-- The stage of a context in company.  Observers meddle with the context when they are told
something; if that tells observers something, these meddle again, up to some levels. -/
def stage (company : Company) : (levels : Nat) → (name : String) → Stage Watched
  | 0, name =>
      { owner := name
        context := fleetPlace.inside (Fleet.place name)
        observe := fun observer notice =>
          onFleet ((Fleet.stage company.crowd name).observe observer notice)
        custom := fun _ => .done () }
  | levels + 1, name =>
      { owner := name
        context := fleetPlace.inside (Fleet.place name)
        observe := fun observer notice w =>
          Act.bind (meddleAll (stage company levels name)
              (company.meddlings ⟨name, observer, notice⟩ w.fleet))
            (fun _ => onFleet ((Fleet.stage company.crowd name).observe observer notice)) w
        custom := fun _ => .done () }

/-- Notes a pause and leaves it open. -/
def suspend (p : Pause) (w : Watched) : Option Answer × Watched :=
  (none, { w with fleet := w.fleet.noted p })

/-- What an attempt at a pause of a context comes to. -/
def tried (company : Company) (levels : Nat) (name : String) : Attempt → Watched → Watched
  | .meddle m, w => (meddle (stage company levels name) m w).2
  | .call context call, w =>
      match (call.routine (stage company levels context) storePlace).settle suspend w with
      | (.ended (.error fault), w) => w.noted (some fault)
      | (_, w) => w.noted none

/-- What a visit at a pause of a context comes to. -/
def visited (company : Company) (levels : Nat) (name : String) (w : Watched) : Visit → Watched
  | .attempt a => tried company levels name a w
  | .other g => { w with fleet := g w.fleet }

/-- Notes a pause of a context, lets all visits happen, and answers it. -/
def pester (company : Company) (levels : Nat) (name : String) (p : Pause) (w : Watched) :
    Answer × Watched :=
  let left := (company.visits p w.fleet).foldl (visited company levels name)
    { w with fleet := w.fleet.noted p }
  (company.answer p left.fleet, left)

end Watched

/-- What a visit comes to if attempts are left out. -/
def Visit.spared (f : Fleet) : Visit → Fleet
  | .attempt _ => f
  | .other g => g f

/-- Notes a pause, lets all visits happen that are no attempts, and answers it. -/
def Company.spare (company : Company) (p : Pause) (f : Fleet) : Answer × Fleet :=
  let left := (company.visits p f).foldl Visit.spared (f.noted p)
  (company.answer p left, left)

/-- What may happen at the pauses of a run of a call on a context: attempts to meddle and to run
programs on this context, attempts to run programs for the session under whose lease the run is
made, and whatever leaves the lifecycle of the context and the key of that lease alone. -/
def Visit.Fits (name : String) (session? : Option String) : Visit → Prop
  | .attempt (.meddle _) => True
  | .attempt (.call context call) =>
      context = name ∧ call.program? ≠ none ∨ ∃ session, session? = some session ∧
        call.session? = some session
  | .other g => ∀ f, (f.contexts name).phase = .running →
      ((g f).contexts name).phase = .running ∧ ∀ session, session? = some session →
        (g f).store.find (Lease.key session) = f.store.find (Lease.key session)

/-- A run is in progress on a context, and if it is made under the lease of a session, somebody has
that lease. -/
structure Fleet.Guarded (name : String) (session? : Option String) (f : Fleet) : Prop where
  running : (f.contexts name).phase = .running
  leased : ∀ session, session? = some session → f.store.find (Lease.key session) ≠ none

namespace Watched

/-- An attempt was refused because of a run in progress. -/
def IsRefusal (note : Option Fault) : Prop :=
  ∃ fault, note = some fault ∧ fault.kind = .runInProgress

/-- All attempts since some notes were refused because of a run in progress. -/
def RefusesSince (start : List (Option Fault)) (w : Watched) : Prop :=
  ∃ made, w.notes = made ++ start ∧ ∀ note ∈ made, IsRefusal note

section Attempts

variable {start : List (Option Fault)} {w : Watched}

/-- No attempt was made since now, so all were refused. -/
theorem refusesSince_self (w : Watched) : RefusesSince w.notes w :=
  ⟨[], rfl, fun _ h => (nomatch h)⟩

/-- One more attempt was refused. -/
theorem RefusesSince.noted (h : RefusesSince start w) {fault : Fault}
    (hkind : fault.kind = .runInProgress) : RefusesSince start (w.noted (some fault)) := by
  obtain ⟨made, hmade, hrefused⟩ := h
  refine ⟨some fault :: made, congrArg (some fault :: ·) hmade, ?_⟩
  intro note hnote
  rcases List.mem_cons.mp hnote with rfl | hnote
  · exact ⟨fault, rfl, hkind⟩
  · exact hrefused note hnote

variable (company : Company) (levels : Nat) {name : String}

/-- On every level a stage works on the context in the fleet that is watched. -/
theorem context_stage (name : String) :
    (stage company levels name).context = fleetPlace.inside (Fleet.place name) := by
  cases levels <;> rfl

/-- On every level a stage sees the phase of the context in the fleet that is watched. -/
theorem phase_stage (name : String) (w : Watched) :
    ((stage company levels name).context.get w).phase = (w.fleet.contexts name).phase := by
  rw [context_stage]
  rfl

/-- Meddling with the context of a run in progress is refused. -/
theorem meddle_of_running (hrunning : (w.fleet.contexts name).phase = .running)
    (hnotes : RefusesSince start w) (m : Meddling) :
    ∃ w', meddle (stage company levels name) m w = (.ok (), w') ∧ w'.fleet = w.fleet ∧
      RefusesSince start w' := by
  rw [← phase_stage company levels] at hrunning
  cases m with
  | reset x y angle =>
      refine ⟨w.noted (some .resetWhileRunning), ?_, rfl, hnotes.noted rfl⟩
      simp only [meddle, attempt, Stage.resetActor_of_running hrunning]
  | edit id edit =>
      refine ⟨w.noted (some .runInProgress), ?_, rfl, hnotes.noted rfl⟩
      simp only [meddle, attempt, Stage.editLoop_of_running hrunning]

/-- However often somebody meddles with the context of a run in progress, it is refused. -/
theorem meddleAll_of_running (hrunning : (w.fleet.contexts name).phase = .running)
    (hnotes : RefusesSince start w) (ms : List Meddling) :
    ∃ w', meddleAll (stage company levels name) ms w = (.ok (), w') ∧ w'.fleet = w.fleet ∧
      RefusesSince start w' := by
  induction ms generalizing w with
  | nil => exact ⟨w, rfl, rfl, hnotes⟩
  | cons m rest ih =>
      obtain ⟨w₁, hfirst, hfleet, hnotes⟩ := meddle_of_running company levels hrunning hnotes m
      rw [← hfleet] at hrunning
      obtain ⟨w₂, hrest, hfleet₂, hnotes₂⟩ := ih hrunning hnotes
      refine ⟨w₂, ?_, hfleet₂.trans hfleet, hnotes₂⟩
      show Act.bind (meddle (stage company levels name) m) _ w = _
      simp only [Act.bind, hfirst]
      exact hrest

/-- What an observer of a context of a run in progress does besides its reaction is refused. -/
theorem observe_of_running (hrunning : (w.fleet.contexts name).phase = .running)
    (hnotes : RefusesSince start w) (observer : String) (notice : Notice) :
    ∃ w', (stage company levels name).observe observer notice w =
        (company.crowd.react w.fleet.told ⟨name, observer, notice⟩, w') ∧
      w'.fleet = w.fleet.tell name notice [observer] ∧ RefusesSince start w' := by
  cases levels with
  | zero => exact ⟨_, rfl, rfl, hnotes⟩
  | succ levels =>
      -- The observer reacts to what it is told only after all its attempts were refused.
      obtain ⟨w₁, hmeddle, hfleet, hnotes⟩ := meddleAll_of_running company levels hrunning hnotes
        (company.meddlings ⟨name, observer, notice⟩ w.fleet)
      refine ⟨{ w₁ with fleet := w.fleet.tell name notice [observer] }, ?_, rfl, hnotes⟩
      show Act.bind (meddleAll (stage company levels name) _) _ w = _
      simp only [Act.bind, hmeddle, onFleet, hfleet]
      rfl

/-- Observers of a context of a run in progress are told as in the fleet. -/
theorem tell_of_running {α : Type} (shown : α → Notice) (value : α)
    (hrunning : (w.fleet.contexts name).phase = .running) (hnotes : RefusesSince start w)
    (observers : List String) :
    ∃ w', Observable.tell (fun observer a => (stage company levels name).observe observer (shown a))
        value observers w = (.ok (), w') ∧
      w'.fleet = w.fleet.tell name (shown value) observers ∧ RefusesSince start w' := by
  induction observers generalizing w with
  | nil => exact ⟨w, rfl, rfl, hnotes⟩
  | cons observer rest ih =>
      obtain ⟨w₁, hobserve, hfleet, hnotes⟩ :=
        observe_of_running company levels hrunning hnotes observer (shown value)
      have hfirst : Act.tolerate
          ((stage company levels name).observe observer (shown value)) w = (.ok (), w₁) := by
        simp only [Act.tolerate, hobserve]
        cases hreact : company.crowd.react w.fleet.told ⟨name, observer, shown value⟩ with
        | ok u => rfl
        | error fault => simp only [company.crowd.mild _ _ _ hreact, if_true]
      have hstill : (w₁.fleet.contexts name).phase = .running := by
        rw [hfleet]
        exact hrunning
      obtain ⟨w₂, hrest, hfleet₂, hnotes₂⟩ := ih hstill hnotes
      refine ⟨w₂, ?_, ?_, hnotes₂⟩
      · show Act.bind (Act.tolerate _) _ w = _
        simp only [Act.bind, hfirst]
        exact hrest
      · rw [hfleet₂, hfleet]
        simp [Fleet.tell]

/-- An observable of a context of a run in progress is set as in the fleet. -/
theorem set_of_running {α : Type} (part : Place Context (Observable α)) (hpart : part.Lawful)
    (hphase : ∀ a c, (part.set a c).phase = c.phase) (shown : α → Notice) (value : α)
    (hrunning : (w.fleet.contexts name).phase = .running) (hnotes : RefusesSince start w) :
    ∃ w', Observable.set ((stage company levels name).context.inside part)
        (fun observer a => (stage company levels name).observe observer (shown a)) value w =
          (.ok (), w') ∧
      w'.fleet = (w.fleet.alter name fun c => part.set { part.get c with value } c).tell name
        (shown value) (part.get (w.fleet.contexts name)).observers ∧ RefusesSince start w' := by
  let altered : Watched :=
    { w with fleet := w.fleet.alter name fun c => part.set { part.get c with value } c }
  have hstill : (altered.fleet.contexts name).phase = .running := by
    rw [Fleet.contexts_alter_self, hphase]
    exact hrunning
  have hobservers : (part.get (altered.fleet.contexts name)).observers =
      (part.get (w.fleet.contexts name)).observers := by
    simp [altered, hpart.get_set]
  obtain ⟨w', htell, hfleet, hnotes⟩ := tell_of_running company levels (w := altered) shown value
    hstill hnotes (part.get (altered.fleet.contexts name)).observers
  refine ⟨w', ?_, ?_, hnotes⟩
  · rw [context_stage]
    exact htell
  · rw [hfleet, hobservers]

/-- The actor of a context of a run in progress is changed as in the fleet. -/
theorem updateActor_of_running (hrunning : (w.fleet.contexts name).phase = .running)
    (hnotes : RefusesSince start w) (change : Actor.Change) :
    ∃ w', (stage company levels name).updateActor change w =
        (.ok ((w.fleet.contexts name).actor.value.apply change), w') ∧
      w'.fleet = w.fleet.change name change ∧ RefusesSince start w' := by
  obtain ⟨w', hset, hfleet, hnotes⟩ := set_of_running company levels
    ⟨fun c => c.actor, fun actor c => { c with actor }⟩
    ⟨fun _ _ => rfl, fun _ => rfl, fun _ _ _ => rfl⟩ (fun _ _ => rfl) Notice.actor
    ((w.fleet.contexts name).actor.value.apply change) hrunning hnotes
  have hvalue : ((stage company levels name).actorPlace.get w).value =
      (w.fleet.contexts name).actor.value := by
    unfold Stage.actorPlace
    rw [context_stage]
    rfl
  refine ⟨w', ?_, hfleet, hnotes⟩
  show Act.bind ((stage company levels name).setActor
    (((stage company levels name).actorPlace.get w).value.apply change)) (fun _ => Act.pure
      (((stage company levels name).actorPlace.get w).value.apply change)) w = _
  rw [hvalue]
  have hsetActor : (stage company levels name).setActor
      ((w.fleet.contexts name).actor.value.apply change) w = (.ok (), w') := hset
  simp only [Act.bind, hsetActor]
  rfl

/-- The position of a context of a run in progress is set as in the fleet. -/
theorem setIndex_of_running (hrunning : (w.fleet.contexts name).phase = .running)
    (hnotes : RefusesSince start w) (position : Position) :
    ∃ w', (stage company levels name).setIndex position w = (.ok (), w') ∧
      w'.fleet = w.fleet.showIndex name position ∧ RefusesSince start w' :=
  set_of_running company levels
    ⟨fun c => c.activeIndex, fun activeIndex c => { c with activeIndex }⟩
    ⟨fun _ _ => rfl, fun _ => rfl, fun _ _ _ => rfl⟩ (fun _ _ => rfl) Notice.activeIndex position
    hrunning hnotes

end Attempts

end Watched

end Gridwalk
