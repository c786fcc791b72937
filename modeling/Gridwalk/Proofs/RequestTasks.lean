import Gridwalk.Proofs.Admission
import Gridwalk.Proofs.History

/-!
# Requests that are being answered

A `Desk` is a site with the requests that are being answered there.  Requests come in one by one,
answers that are held go on, and in between the site may be changed from outside in any way.

A task stays where it stands still until its pause is answered (`halt?_step`).  So what it is
answered with is found by following the answers that it was given (`ends_along`), and it is answered
in the end if it is answered again and again (`ends_of_resumes`).
-/

set_option autoImplicit false

namespace Gridwalk

open Routine

/-- A site with the requests that are being answered, or were, by the names of their tasks. -/
structure Desk where
  site : Site
  schedule : Schedule Site Http.Response := {}

namespace Desk

open Http

/-- What happens at a desk. -/
inductive Move where
  /-- A request comes in; names of tasks are used once. -/
  | request (task : String) (fresh : Fresh) (request : Request)
  /-- The pause of a task is answered, and the task goes on. -/
  | resume (task : String) (reply : Answer)
  /-- The site is changed from outside. -/
  | outside (change : Site → Site)

/-- What a move answers the pause of a task with, if it does. -/
def Move.reply? (task : String) : Move → Option Answer
  | .resume other reply => if other = task then some reply else none
  | _ => none

/-- Only an answer to a task replies to it. -/
theorem Move.eq_resume_of_reply? {task : String} {move : Move} {reply : Answer}
    (h : move.reply? task = some reply) : move = .resume task reply := by
  cases move with
  | request other fresh request => cases h
  | outside change => cases h
  | resume other given =>
      unfold reply? at h
      dsimp only at h
      split at h
      next hsame =>
        cases h
        rw [hsame]
      next => cases h

/-- Leaves a pause open. -/
def wait (_ : Pause) (s : Site) : Option Answer × Site := (none, s)

variable (desk : Desk) (task : String)

/-- Where a task stands still. -/
def halt? : Option (Halt Site Response) := (desk.schedule.find? task).map Task.halt

/-- What a request was answered with, or the fault that it ended with. -/
def answer? : Option (Except Fault Response) := (desk.schedule.find? task).bind Task.outcome?

/-- Lets a task go on. -/
def advance (r : Routine Site Response) : Desk :=
  match desk.schedule.advance wait task r desk.site with
  | (schedule, site) => { site, schedule }

/-- The desk after a move.  A request under a name that was used does nothing, and so does an answer
to a task that is not held. -/
def step : Move → Desk
  | .request task fresh request =>
      if (desk.halt? task).isSome then desk
      else desk.advance task (serve Place.whole fresh request)
  | .resume task reply =>
      match desk.schedule.answer wait task reply desk.site with
      | none => desk
      | some (schedule, site) => { site, schedule }
  | .outside change => { desk with site := change desk.site }

/-- The desk after some moves. -/
def after (moves : List Move) : Desk := moves.foldl step desk

/-- The answers that some moves give to the pauses of a task, each with the site that it finds. -/
def answersTo (desk : Desk) (task : String) : List Move → List (Answer × Site)
  | [] => []
  | move :: rest =>
      ((move.reply? task).map fun reply => (reply, desk.site)).toList ++
        (desk.step move).answersTo task rest

section Tasks

variable {desk : Desk} {task : String}

/-- A task that goes on stands where its routine comes to a stop, and the others stay. -/
theorem halt?_advance (desk : Desk) (task : String) (r : Routine Site Response) (other : String) :
    (desk.advance task r).halt? other =
      if other = task then some (r.settle wait desk.site).1 else desk.halt? other := by
  have hschedule : (desk.advance task r).schedule =
      desk.schedule.insert task (r.settle wait desk.site).1 := rfl
  unfold halt?
  rw [hschedule, Schedule.find?_insert]
  split <;> rfl

/-- A task is answered if it has come to its end. -/
theorem answer?_eq_some_iff {outcome : Except Fault Response} :
    desk.answer? task = some outcome ↔ desk.halt? task = some (.ended outcome) := by
  unfold answer? halt?
  cases desk.schedule.find? task with
  | none => exact ⟨nofun, nofun⟩
  | some found =>
      obtain ⟨_, halt⟩ := found
      cases halt with
      | held p k => exact ⟨nofun, nofun⟩
      | ended result => simp [Task.outcome?]

/-- An answer to a held task lets it go on. -/
theorem step_resume_of_held {p : Pause} {k : Answer → Routine Site Response}
    (h : desk.halt? task = some (.held p k)) (reply : Answer) :
    desk.step (.resume task reply) = desk.advance task (k reply) := by
  have hanswer : desk.schedule.answer wait task reply desk.site =
      some (desk.schedule.advance wait task (k reply) desk.site) := by
    unfold halt? at h
    obtain ⟨found, hfound, hhalt⟩ := Option.map_eq_some_iff.mp h
    unfold Schedule.answer
    simp only [hfound, bind, Option.bind, hhalt]
  simp only [step, hanswer]
  rfl

/-- An answer to a task that is not held does nothing. -/
theorem step_resume_of_not_held {reply : Answer}
    (h : ∀ p k, desk.halt? task ≠ some (.held p k)) : desk.step (.resume task reply) = desk := by
  have hanswer : desk.schedule.answer wait task reply desk.site = none := by
    unfold halt? at h
    unfold Schedule.answer
    cases hfound : desk.schedule.find? task with
    | none => rfl
    | some found =>
        rw [hfound] at h
        cases hhalt : found.halt with
        | ended result => simp only [bind, Option.bind, hhalt]
        | held p k => exact absurd (congrArg some hhalt) (h p k)
  simp only [step, hanswer]

/-- What does not answer a pause of a task leaves it where it stands still. -/
theorem halt?_step_of_reply?_eq_none {halt : Halt Site Response}
    (h : desk.halt? task = some halt) {move : Move} (hmove : move.reply? task = none) :
    (desk.step move).halt? task = some halt := by
  have hother {other : String} (hne : task ≠ other) (r : Routine Site Response) :
      (desk.advance other r).halt? task = some halt := by
    rw [halt?_advance, if_neg hne]
    exact h
  cases move with
  | outside change => exact h
  | request other fresh request =>
      unfold step
      dsimp only
      split
      next => exact h
      next hused =>
        refine hother (fun hsame => hused ?_) _
        rw [← hsame, h]
        rfl
  | resume other reply =>
      have hne : task ≠ other := by
        rintro rfl
        rw [show Move.reply? task (.resume task reply) = some reply from if_pos rfl] at hmove
        cases hmove
      by_cases hheld : ∃ p k, desk.halt? other = some (.held p k)
      · obtain ⟨p, k, hheld⟩ := hheld
        rw [step_resume_of_held hheld]
        exact hother hne _
      · rw [step_resume_of_not_held fun p k hpk => hheld ⟨p, k, hpk⟩]
        exact h

/-- A move leaves a task where it stands still, or lets it go on. -/
theorem halt?_step {halt : Halt Site Response} (h : desk.halt? task = some halt) (move : Move) :
    (desk.step move).halt? task = some halt ∨
      ∃ reply p k, move = .resume task reply ∧ halt = .held p k ∧
        desk.step move = desk.advance task (k reply) := by
  cases hmove : move.reply? task with
  | none => exact .inl (halt?_step_of_reply?_eq_none h hmove)
  | some reply =>
      obtain rfl := Move.eq_resume_of_reply? hmove
      cases halt with
      | held p k => exact .inr ⟨reply, p, k, rfl, rfl, step_resume_of_held h reply⟩
      | ended outcome =>
          rw [step_resume_of_not_held fun p k hheld => by cases h.symm.trans hheld]
          exact .inl h

/-- What a request was answered with stays. -/
theorem answer?_after {outcome : Except Fault Response}
    (h : desk.answer? task = some outcome) (later : List Move) :
    (desk.after later).answer? task = some outcome := by
  induction later generalizing desk with
  | nil => exact h
  | cons move rest ih =>
      refine ih (answer?_eq_some_iff.mpr ?_)
      rcases halt?_step (answer?_eq_some_iff.mp h) move with hstays | ⟨_, _, _, _, hheld, _⟩
      · exact hstays
      · cases hheld

/-! ### Requests -/

section Request

variable {fresh : Fresh} {request : Request}

/-- A request of a new task starts the routine that serves it. -/
theorem step_request (hnew : desk.halt? task = none) :
    desk.step (.request task fresh request) =
      desk.advance task (serve Place.whole fresh request) := by
  simp only [step, hnew]
  rfl

/-- A request that is answered without a pause is answered when it comes in. -/
theorem step_request_of_reaches (hnew : desk.halt? task = none) {response : Response} {t : Site}
    (h : Reaches (serve Place.whole fresh request) desk.site (.done response) t) :
    (desk.step (.request task fresh request)).answer? task = some (.ok response) ∧
      (desk.step (.request task fresh request)).site = t := by
  have hsettle : (serve Place.whole fresh request).settle wait desk.site =
      (.ended (.ok response), t) := h.settle_eq
  rw [step_request hnew, answer?_eq_some_iff, halt?_advance, if_pos rfl]
  exact ⟨congrArg (fun result => some result.1) hsettle,
    congrArg (fun result => result.2) hsettle⟩

/-! ### Outcomes -/

/-- Leaving pauses open answers none of them. -/
theorem wait_open (p : Pause) (s : Site) : (wait p s).1 = none := rfl

section Outcomes

variable {α : Type} {respond : Except Fault α → Routine Site Response}
  {Responds : Except Fault α → Site → Except Fault Response → Prop}
  (hresponds : ∀ ended t, ∃ outcome u, Reaches (respond ended) t (ofExcept outcome) u ∧
    Responds ended t outcome)

include hresponds

/-- Where something is made of the outcome of a routine at once, either the routine has come to its
end and that is answered, or it is held. -/
theorem settle_outcome_cases (r : Routine Site α) (s : Site) :
    (∃ ended t outcome, r.EndsAlong s [] ended t ∧ Responds ended t outcome ∧
        ((r.attempt >>= respond).settle wait s).1 = .ended outcome) ∨
      ∃ (p : Pause) (k : Answer → Routine Site α), ((r.attempt >>= respond).settle wait s).1 =
          .held p (fun answer => (k answer).attempt >>= respond) ∧
        ∀ answer found answers ended t, (k answer).EndsAlong found answers ended t →
          r.EndsAlong s ((answer, found) :: answers) ended t := by
  have hends := endsAlong_of_settle wait_open r s
  have hsettle : (r.attempt >>= respond).settle wait s = _ := settle_bind wait r.attempt respond s
  rw [settle_attempt] at hsettle
  cases hs : r.settle wait s with
  | mk halt t =>
      rw [hs] at hends hsettle
      cases halt with
      | ended ended =>
          obtain ⟨outcome, u, hreaches, hresponds⟩ := hresponds ended t
          have hanswer : (ofExcept outcome : Routine Site Response).settle wait u =
              (.ended outcome, u) := by cases outcome <;> rfl
          refine .inl ⟨ended, t, outcome, hends, hresponds, ?_⟩
          rw [hsettle]
          dsimp only
          rw [hreaches.settle_eq, hanswer]
      | held p k =>
          refine .inr ⟨p, k, ?_, hends⟩
          rw [hsettle]
          rfl

/-- If a request is answered with what is made of the outcome of a routine, then it is answered when
the routine has come to its end along the answers that it was given. -/
theorem ends_along {later : List Move} {r : Routine Site α} {s : Site}
    (h : desk.halt? task = some ((r.attempt >>= respond).settle wait s).1)
    {outcome : Except Fault Response} (hanswer : (desk.after later).answer? task = some outcome) :
    ∃ soon, soon <+: later ∧ (desk.after soon).answer? task = some outcome ∧
      ∃ ended t, r.EndsAlong s (desk.answersTo task soon) ended t ∧ Responds ended t outcome := by
  -- On the moves: the routine is held until one of them answers its pause.
  induction later generalizing desk r s with
  | nil =>
      have hhere := answer?_eq_some_iff.mp hanswer
      rcases settle_outcome_cases hresponds r s with
        ⟨ended, t, _, hends, hresponds, hsettle⟩ | ⟨_, _, hsettle, -⟩
      · rw [show (desk.after []).halt? task = _ from h, hsettle] at hhere
        cases hhere
        exact ⟨[], List.prefix_rfl, hanswer, ended, t, hends, hresponds⟩
      · rw [show (desk.after []).halt? task = _ from h, hsettle] at hhere
        cases hhere
  | cons move rest ih =>
      rcases settle_outcome_cases hresponds r s with
        ⟨ended, t, _, hends, hresponds, hsettle⟩ | ⟨p, k, hsettle, hends⟩
      · have hended := answer?_eq_some_iff.mpr (h.trans (congrArg some hsettle))
        cases (answer?_after hended (move :: rest)).symm.trans hanswer
        exact ⟨[], List.nil_prefix, hended, ended, t, hends, hresponds⟩
      · have hheld := h.trans (congrArg some hsettle)
        cases hmove : move.reply? task with
        | none =>
            have hstays := halt?_step_of_reply?_eq_none h hmove
            obtain ⟨soon, hsoon, hsame, hcourse⟩ := ih hstays hanswer
            refine ⟨move :: soon, List.cons_prefix_cons.mpr ⟨rfl, hsoon⟩, hsame, ?_⟩
            have hanswers : desk.answersTo task (move :: soon) =
                (desk.step move).answersTo task soon := by simp only [answersTo, hmove]; rfl
            rw [hanswers]
            exact hcourse
        | some reply =>
            obtain rfl := Move.eq_resume_of_reply? hmove
            have hgoes : (desk.step (.resume task reply)).halt? task =
                some (((k reply).attempt >>= respond).settle wait desk.site).1 := by
              rw [step_resume_of_held hheld, halt?_advance, if_pos rfl]
            obtain ⟨soon, hsoon, hsame, ended, t, hcourse, hresponds⟩ := ih hgoes hanswer
            refine ⟨.resume task reply :: soon, List.cons_prefix_cons.mpr ⟨rfl, hsoon⟩, hsame,
              ended, t, ?_, hresponds⟩
            have hanswers : desk.answersTo task (.resume task reply :: soon) =
                (reply, desk.site) :: (desk.step (.resume task reply)).answersTo task soon := by
              simp only [answersTo, hmove]
              rfl
            rw [hanswers]
            exact hends _ _ _ _ _ hcourse

end Outcomes

end Request

/-! ### Every request is answered -/

/-- The desk after the first moves of an endless history. -/
def along (desk : Desk) (moves : Nat → Move) : Nat → Desk
  | 0 => desk
  | n + 1 => (desk.along moves n).step (moves n)

/-- A history in which a task is answered again and again. -/
def Resumes (task : String) (moves : Nat → Move) : Prop :=
  ∀ n, ∃ m, n ≤ m ∧ ∃ reply, moves m = .resume task reply

variable {moves : Nat → Move}

/-- A task that goes on in a history stands where its routine comes to a stop. -/
theorem halt?_along_advance {r : Routine Site Response} {n : Nat}
    (h : desk.along moves (n + 1) = (desk.along moves n).advance task r) :
    (desk.along moves (n + 1)).halt? task =
      some (r.settle wait (desk.along moves n).site).1 := by
  rw [h, halt?_advance, if_pos rfl]

/-- A task that is held goes on when its pause is answered, if not before. -/
theorem goes_on {p : Pause} {k : Answer → Routine Site Response} (gap : Nat) {n : Nat}
    (hheld : (desk.along moves n).halt? task = some (.held p k)) {reply : Answer}
    (hmove : moves (n + gap) = .resume task reply) :
    ∃ m reply s, (desk.along moves m).halt? task = some ((k reply).settle wait s).1 := by
  -- On the moves up to the answer: each of them leaves the task where it is, or answers it earlier.
  induction gap generalizing n with
  | zero =>
      have hstep : desk.along moves (n + 1) = (desk.along moves n).advance task (k reply) := by
        show (desk.along moves n).step (moves n) = _
        rw [show moves n = .resume task reply from hmove]
        exact step_resume_of_held hheld reply
      exact ⟨n + 1, reply, _, halt?_along_advance hstep⟩
  | succ gap ih =>
      rcases halt?_step hheld (moves n) with hstays | ⟨earlier, _, _, _, hsame, hstep⟩
      · have hgap : n + 1 + gap = n + (gap + 1) := by omega
        exact ih (n := n + 1) hstays (hgap ▸ hmove)
      · cases hsame
        exact ⟨n + 1, earlier, _, halt?_along_advance hstep⟩

/-- A task ends that is answered again and again. -/
theorem ends_of_resumes (hresumes : Resumes task moves) (r : Routine Site Response) {n : Nat}
    {s : Site} (h : (desk.along moves n).halt? task = some (r.settle wait s).1) :
    ∃ m outcome, (desk.along moves m).answer? task = some outcome := by
  -- On the routine that is left, since every answer leads into one of its branches.
  induction r generalizing n s with
  | done a => exact ⟨n, .ok a, answer?_eq_some_iff.mpr h⟩
  | fail fault => exact ⟨n, .error fault, answer?_eq_some_iff.mpr h⟩
  | get k ih => exact ih s h
  | put t r ih => exact ih h
  | pause p k ih =>
      obtain ⟨m, hm, reply, hmove⟩ := hresumes n
      obtain ⟨gap, rfl⟩ := Nat.exists_eq_add_of_le hm
      obtain ⟨m', reply', s', hhalt⟩ := goes_on gap h hmove
      exact ih reply' hhalt

end Tasks

end Desk

end Gridwalk
