import Gridwalk.Proofs.LeaseKey

/-!
# What a run tells of itself

The log of a run begins with the program that it was started for.  While the program is done,
steps, unknown children and blocked moves are added, all under the id of the run
(`Fleet.Recounts`); nothing else is, whatever the pauses are used for elsewhere.  At its end one
event tells how it ended, and so the events of a result are a whole account of its run
(`RunResult.IsComplete`).
-/

set_option autoImplicit false

namespace Gridwalk

/-- What happens between the start of a run and its end.  A move is blocked at whole numbers. -/
inductive Occurrence.IsInner : Occurrence → Prop
  | stepStarted (index : Nat) (id : Phrase) : IsInner (.stepStarted index id)
  | stepSkipped (index : Nat) (id : Phrase) : IsInner (.stepSkipped index id)
  | childSkipped (id : Phrase) (parent : String) : IsInner (.childSkipped id parent)
  | boundsHit {actor : Actor} (hactor : actor.foreign = []) (x y : Int) :
      IsInner (.boundsHit actor (.whole x) (.whole y))

/-- Events as they follow the start of a run of a program. -/
def Account (run : RunId) (ids : List Phrase) (events : List Event) : Prop :=
  ∃ time inner, events = ⟨run, .runStarted ids, time⟩ :: inner ∧
    ∀ event ∈ inner, event.run = run ∧ event.occurrence.IsInner

/-- The events of a result are those of one run, from its start to its one end. -/
def RunResult.IsComplete (result : RunResult) (ids : List Phrase) : Prop :=
  ∃ events time, Account result.run ids events ∧
    result.events =
      events ++ [⟨result.run, Stage.closing result.outcome result.stepsExecuted, time⟩]

/-- What happens on the way is added to an account. -/
theorem Account.concat {run : RunId} {ids : List Phrase} {events : List Event}
    (h : Account run ids events) {occurrence : Occurrence} (hinner : occurrence.IsInner)
    (time : Timestamp) : Account run ids (events ++ [⟨run, occurrence, time⟩]) := by
  obtain ⟨start, inner, rfl, hrest⟩ := h
  refine ⟨start, inner ++ [⟨run, occurrence, time⟩], rfl, fun event hevent => ?_⟩
  rcases List.mem_append.mp hevent with hold | hnew
  · exact hrest event hold
  · obtain rfl := List.mem_singleton.mp hnew
    exact ⟨rfl, hinner⟩

namespace Fleet

open Routine

/-- A context recounts a run of a program: it has the run's id, and the run's events so far. -/
structure Recounts (name : String) (run : RunId) (ids : List Phrase) (f : Fleet) : Prop where
  current : (f.contexts name).run = some run
  plain : (f.contexts name).actor.value.foreign = []
  events : Account run ids (f.contexts name).events

section Changes

variable {name : String} {run : RunId} {ids : List Phrase} {f g : Fleet}

/-- A change of a context that leaves its records alone and brings no foreign values. -/
theorem Recounts.of_same (h : Recounts name run ids f)
    (hrun : (g.contexts name).run = (f.contexts name).run)
    (hplain : (g.contexts name).actor.value.foreign = [])
    (hlog : (g.contexts name).log = (f.contexts name).log) : Recounts name run ids g where
  current := hrun.trans h.current
  plain := hplain
  events := by
    unfold Context.events
    rw [hlog]
    exact h.events

/-- A context that stays the same recounts the same run. -/
theorem Recounts.of_context (h : Recounts name run ids f)
    (hcontext : g.contexts name = f.contexts name) : Recounts name run ids g :=
  h.of_same (by rw [hcontext]) (by rw [hcontext]; exact h.plain) (by rw [hcontext])

/-- What happens on the way is recounted. -/
theorem Recounts.note (h : Recounts name run ids f) {occurrence : Occurrence}
    (hinner : occurrence.IsInner) : Recounts name run ids (f.note name occurrence) where
  current := by
    rw [Fleet.note, contexts_alter_self, Context.run_record]
    exact h.current
  plain := by
    rw [actor_note]
    exact h.plain
  events := by
    rw [Fleet.note, contexts_alter_self, Context.events_record h.current]
    exact h.events.concat hinner _

/-- A change of the actor is not recounted. -/
theorem Recounts.change (h : Recounts name run ids f) (c : Actor.Change) (hc : c.foreign = []) :
    Recounts name run ids (f.change name c) :=
  h.of_same (by simp [Fleet.change]) (foreign_change h.plain c hc) (by simp [Fleet.change])

/-- A position that is shown is not recounted. -/
theorem Recounts.showIndex (h : Recounts name run ids f) (position : Position) :
    Recounts name run ids (f.showIndex name position) :=
  h.of_same (by simp) (by simpa using h.plain) (by simp)

/-- Whatever a command does is recounted. -/
theorem Recounts.calm (h : Recounts name run ids f) (hcalm : Calm name f g) :
    Recounts name run ids g := by
  cases hcalm with
  | counted => exact h.of_same (by simp) (by simpa using h.plain) (by simp)
  | skipped id parent => exact h.note (.childSkipped id parent)
  -- Without foreign values a position is a pair of whole numbers, and so is where a move leads.
  | blocked hsign htarget hout =>
      rw [Actor.target_of_foreign_eq_nil h.plain] at htarget
      cases htarget
      exact h.note (.boundsHit h.plain _ _)
  | moved hsign htarget hin =>
      rw [Actor.target_of_foreign_eq_nil h.plain] at htarget
      cases htarget
      exact h.change _ rfl
  | turned hangle =>
      rw [Actor.turned_of_foreign_eq_nil h.plain] at hangle
      cases hangle
      exact h.change _ rfl

/-- A run begins its account with its program. -/
theorem recounts_begun (hplain : (f.contexts name).actor.value.foreign = []) (run : RunId)
    (ids : List Phrase) : Recounts name run ids (f.begun name run ids) where
  current := by simp [begun, Context.opened]
  plain := by simpa [begun, Context.opened] using hplain
  events := by
    have hopened (c : Context) : (c.opened run).run = some run ∧ (c.opened run).events = [] :=
      ⟨rfl, rfl⟩
    rw [begun, contexts_alter_self, Context.events_record (hopened _).1, (hopened _).2]
    exact ⟨_, [], rfl, List.forall_mem_nil _⟩

/-- Clearing is no part of the account. -/
theorem Recounts.cleared (h : Recounts name run ids f) :
    Recounts name run ids (f.cleared name) := by
  have hchanged := (h.showIndex (.index idleIndex)).change
    { isMoving := some false, isHittingBounds := some false } rfl
  refine hchanged.of_same ?_ ?_ ?_
  · simp [Fleet.cleared]
  · simpa [Fleet.cleared] using hchanged.plain
  · simp [Fleet.cleared]

/-- However a program ended: if its run makes up a result, then with a whole account. -/
theorem Recounts.finished (h : Recounts name run ids f) {ended : Except Fault Unit}
    {result : RunResult} (hresult : (f.finished name run ended).1 = .ok result) :
    result.IsComplete ids := by
  have hcleared := h.cleared
  unfold Fleet.finished at hresult
  cases houtcome : Stage.outcomeOf ended with
  | error fault =>
      rw [houtcome] at hresult
      cases hresult
  | ok outcome =>
      rw [houtcome] at hresult
      cases hresult
      exact ⟨_, ((f.cleared name).contexts name).clock, hcleared.events,
        Context.events_record hcleared.current _⟩

end Changes

end Fleet

end Gridwalk
