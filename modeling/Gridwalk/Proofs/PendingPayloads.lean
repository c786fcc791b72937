import Gridwalk.Hub
import Mathlib.Data.List.Nodup

/-!
# What a hub still has for a client

The jobs that wait at a hub decide what a client will be sent next, as long as it can be reached:
`Hub.ahead` lists these payloads, and `Hub.keeps` says whether the client will be a member when the
jobs are done.  A step that sends nothing to the client changes neither; a send to the client takes
the first payload off the list; if that send fails, nothing is left of it.
-/

set_option autoImplicit false

namespace Gridwalk.Hub

variable {α : Type} (client : String)

namespace Job

/-- Whether a client is a member after a job, if `inside` says whether it was one before. -/
def keeps (inside : Bool) : Job α → Bool
  | .join other => inside || other == client
  | .leave other => inside && other != client
  | .broadcast _ => inside
  | .sending _ _ unreached => inside && decide (client ∉ unreached)

/-- What a job sends to a client, if `inside` says whether it is a member. -/
def brings (inside : Bool) : Job α → List α
  | .broadcast payload => if inside then [payload] else []
  | .sending payload waiting _ => if client ∈ waiting then [payload] else []
  | _ => []

/-- Whether a job lets a client in. -/
def isJoin : Job α → Bool
  | .join other => other == client
  | _ => false

/-- Whether a job lets a client go. -/
def isLeave : Job α → Bool
  | .leave other => other == client
  | _ => false

/-- Whether a job begins to send a payload to the members. -/
def isBroadcast : Job α → Bool
  | .broadcast _ => true
  | _ => false

/-- Whether a job is in the midst of sending a payload. -/
def isSending : Job α → Bool
  | .sending _ _ _ => true
  | _ => false

variable {client} in
/-- No job that sends lets a client go. -/
theorem isLeave_of_isSending {job : Job α} (h : job.isSending = true) :
    job.isLeave client = false := by
  cases job with
  | sending => rfl
  | join | leave | broadcast => cases h

end Job

/-! ## Rows of jobs -/

/-- Whether a client is a member after some jobs. -/
def keepsAfter (inside : Bool) (jobs : List (Job α)) : Bool :=
  jobs.foldl (fun inside job => job.keeps client inside) inside

/-- What some jobs send to a client. -/
def broughtBy : Bool → List (Job α) → List α
  | _, [] => []
  | inside, job :: rest => job.brings client inside ++ broughtBy (job.keeps client inside) rest

/-- Whether a client will have left before some broadcast. -/
def barred : List (Job α) → Bool
  | [] => false
  | job :: rest => job.isLeave client && rest.any Job.isBroadcast || barred rest

section Jobs

variable {client} {inside : Bool} {jobs : List (Job α)}

/-- A job that is put at the end has the last word on who is a member. -/
theorem keepsAfter_append (job : Job α) :
    keepsAfter client inside (jobs ++ [job]) = job.keeps client (keepsAfter client inside jobs) :=
  List.foldl_concat _ _ _ _

/-- What a job at the end brings comes last. -/
theorem broughtBy_append (job : Job α) :
    broughtBy client inside (jobs ++ [job]) =
      broughtBy client inside jobs ++ job.brings client (keepsAfter client inside jobs) := by
  induction jobs generalizing inside with
  | nil => simp [broughtBy, keepsAfter]
  | cons first rest ih =>
      rw [List.cons_append, broughtBy, ih, broughtBy, List.append_assoc]
      rfl

/-- Nothing comes to a client outside whom no job lets in. -/
theorem broughtBy_outside (hjoin : ∀ job ∈ jobs, job.isJoin client = false)
    (hsending : ∀ job ∈ jobs, job.isSending = false) :
    broughtBy client false jobs = [] ∧ keepsAfter client false jobs = false := by
  induction jobs with
  | nil => exact ⟨rfl, rfl⟩
  | cons job rest ih =>
      have hrest := ih (fun j hj => hjoin j (List.mem_cons_of_mem _ hj))
        fun j hj => hsending j (List.mem_cons_of_mem _ hj)
      have hjob := hjoin job List.mem_cons_self
      cases job with
      | join other =>
          have hkeeps : (Job.join other : Job α).keeps client false = false := hjob
          simpa [broughtBy, keepsAfter, Job.brings, hkeeps] using hrest
      | leave other => simpa [broughtBy, keepsAfter, Job.brings, Job.keeps] using hrest
      | broadcast payload => simpa [broughtBy, keepsAfter, Job.brings, Job.keeps] using hrest
      | sending payload waiting unreached =>
          exact absurd (hsending _ List.mem_cons_self) (by simp [Job.isSending])

/-- If a client will have left, then it will have left before a broadcast that is put at the end. -/
theorem barred_append_broadcast (h : jobs.any (Job.isLeave client) = true) (payload : α) :
    barred client (jobs ++ [.broadcast payload]) = true := by
  induction jobs with
  | nil => cases h
  | cons job rest ih =>
      rw [List.any_cons, Bool.or_eq_true] at h
      rw [List.cons_append, barred]
      rcases h with h | h
      · simp [h, Job.isBroadcast]
      · rw [ih h, Bool.or_true]

/-- A client that will have left before some broadcast will have done so with another job at the
end. -/
theorem barred_append_of_barred (h : barred client jobs = true) (job : Job α) :
    barred client (jobs ++ [job]) = true := by
  induction jobs with
  | nil => cases h
  | cons first rest ih =>
      rw [barred, Bool.or_eq_true] at h
      rw [List.cons_append, barred, List.any_append]
      rcases h with h | h
      · rw [Bool.and_eq_true] at h
        simp [h.1, h.2]
      · rw [ih h, Bool.or_true]

end Jobs

/-! ## Hubs -/

/-- Whether a client will be a member when the jobs are done. -/
def keeps (hub : Hub α) : Bool :=
  keepsAfter client (decide (client ∈ hub.members)) hub.jobs

/-- What a client will be sent before the jobs are done. -/
def ahead (hub : Hub α) : List α :=
  broughtBy client (decide (client ∈ hub.members)) hub.jobs

/-- A client is out, and does not wait to come in. -/
structure IsOut (hub : Hub α) : Prop where
  member : client ∉ hub.members
  job : ∀ job ∈ hub.jobs, job.isJoin client = false

/-- A hub as it comes about if a client asks to join once at most, and to leave after that:
members are listed once, only the first job is one that is sending, to different members, and a
client waits to join neither as a member nor behind a job that lets it in or out. -/
structure Orderly (hub : Hub α) : Prop where
  nodup : hub.members.Nodup
  behind : ∀ job ∈ hub.jobs.tail, job.isSending = false
  waiting : ∀ payload waiting unreached rest,
    hub.jobs = .sending payload waiting unreached :: rest →
      waiting.Nodup ∧ waiting ⊆ hub.members
  inside : client ∈ hub.members → ∀ job ∈ hub.jobs, job.isJoin client = false
  once : hub.jobs.Pairwise fun job later =>
    job.isJoin client = true ∨ job.isLeave client = true → later.isJoin client = false

section Hub

variable {client} {hub : Hub α}

/-- A job that is posted brings a client what it brings to members, if the client will be one by
then. -/
theorem ahead_post (client : String) (hub : Hub α) (job : Job α) :
    (hub.post job).ahead client = hub.ahead client ++ job.brings client (hub.keeps client) :=
  broughtBy_append job

/-- A job that is posted has the last word on who will be a member. -/
theorem keeps_post (client : String) (hub : Hub α) (job : Job α) :
    (hub.post job).keeps client = job.keeps client (hub.keeps client) :=
  keepsAfter_append job

/-- What a client has ahead comes of the job in front, and then of the others. -/
theorem prospect_cons (client : String) (hub : Hub α) {job : Job α} {rest : List (Job α)}
    (h : hub.jobs = job :: rest) :
    hub.ahead client = job.brings client (decide (client ∈ hub.members)) ++
        broughtBy client (job.keeps client (decide (client ∈ hub.members))) rest ∧
      hub.keeps client =
        keepsAfter client (job.keeps client (decide (client ∈ hub.members))) rest := by
  unfold ahead keeps
  rw [h]
  exact ⟨rfl, rfl⟩

/-- A step without a send is nothing to a client. -/
theorem prospect_turn (client : String) (hub : Hub α) :
    hub.turn.ahead client = hub.ahead client ∧ hub.turn.keeps client = hub.keeps client := by
  cases hjobs : hub.jobs with
  | nil => simp [turn, hjobs]
  | cons job rest =>
      obtain ⟨hahead, hkeeps⟩ := prospect_cons client hub hjobs
      rw [hahead, hkeeps]
      cases job with
      | join other =>
          have hinside : decide (client ∈ hub.members.insert other) =
              (decide (client ∈ hub.members) || other == client) := by
            rw [Bool.eq_iff_iff]
            simp [or_comm, Eq.comm (a := client)]
          simp only [turn, hjobs, ahead, keeps, hinside, Job.brings, Job.keeps, List.nil_append,
            and_self]
      | leave other =>
          have hinside : decide (client ∈ hub.members.filter fun member => member != other) =
              (decide (client ∈ hub.members) && other != client) := by
            rw [Bool.eq_iff_iff]
            simp [List.mem_filter, Eq.comm (a := client)]
          simp only [turn, hjobs, ahead, keeps, hinside, Job.brings, Job.keeps, List.nil_append,
            and_self]
      | broadcast payload =>
          obtain ⟨hahead', hkeeps'⟩ := prospect_cons client
            { hub with jobs := .sending payload hub.members [] :: rest } rfl
          simp only [turn, hjobs, hahead', hkeeps', Job.brings, Job.keeps, decide_eq_true_eq,
            List.not_mem_nil, not_false_eq_true, decide_true, Bool.and_true, and_self]
      | sending payload waiting unreached =>
          cases waiting with
          | nil =>
              have hinside : decide (client ∈
                  hub.members.filter fun member => !unreached.contains member) =
                    (decide (client ∈ hub.members) && decide (client ∉ unreached)) := by
                rw [Bool.eq_iff_iff]
                simp [List.mem_filter]
              simp only [turn, hjobs, ahead, keeps, hinside, Job.brings, Job.keeps,
                List.not_mem_nil, if_false, List.nil_append, and_self]
          | cons next waiting =>
              simp only [turn, hjobs, hahead, hkeeps, and_self]

/-- The job in front that a send belongs to. -/
theorem jobs_of_due {other : String} {payload : α} (h : hub.due? = some (other, payload)) :
    ∃ waiting unreached rest,
      hub.jobs = .sending payload (other :: waiting) unreached :: rest ∧
      ∀ reached, hub.sent reached = ⟨hub.members,
        .sending payload waiting (if reached then unreached else other :: unreached) :: rest⟩ := by
  obtain ⟨members, jobs⟩ := hub
  unfold due? at h
  split at h
  · next heq =>
      simp only [Option.some.injEq, Prod.mk.injEq] at h
      obtain ⟨rfl, rfl⟩ := h
      obtain rfl : jobs = _ := heq
      exact ⟨_, _, _, rfl, fun reached => rfl⟩
  · cases h

/-- A send to someone else is nothing to a client. -/
theorem prospect_sent_other {other : String} {payload : α}
    (h : hub.due? = some (other, payload)) (hne : other ≠ client) (reached : Bool) :
    (hub.sent reached).ahead client = hub.ahead client ∧
      (hub.sent reached).keeps client = hub.keeps client := by
  obtain ⟨waiting, unreached, rest, hjobs, hsent⟩ := jobs_of_due h
  have hmem (names : List String) : client ∈ other :: names ↔ client ∈ names := by
    simp [Ne.symm hne]
  have hmem' (names : List String) : client ∈ (if reached then names else other :: names) ↔
      client ∈ names := by
    cases reached
    · exact hmem names
    · exact Iff.rfl
  obtain ⟨hahead, hkeeps⟩ := prospect_cons client hub hjobs
  obtain ⟨hahead', hkeeps'⟩ := prospect_cons client (hub.sent reached) (by rw [hsent])
  rw [hahead, hkeeps, hahead', hkeeps', hsent]
  simp only [Job.brings, Job.keeps, hmem, hmem']
  exact ⟨trivial, trivial⟩

/-- A send that reaches a client was the next one that it had ahead. -/
theorem prospect_sent {payload : α} (h : hub.due? = some (client, payload))
    (horderly : hub.Orderly client) :
    hub.ahead client = payload :: (hub.sent true).ahead client ∧
      (hub.sent true).keeps client = hub.keeps client := by
  obtain ⟨waiting, unreached, rest, hjobs, hsent⟩ := jobs_of_due h
  obtain ⟨hnew, -⟩ := List.nodup_cons.mp (horderly.waiting _ _ _ _ hjobs).1
  obtain ⟨hahead, hkeeps⟩ := prospect_cons client hub hjobs
  obtain ⟨hahead', hkeeps'⟩ := prospect_cons client (hub.sent true) (by rw [hsent])
  rw [hahead, hkeeps, hahead', hkeeps', hsent]
  simp [Job.brings, Job.keeps, hnew]

/-- Nothing is left ahead of a client who could not be reached. -/
theorem prospect_sent_unreached {payload : α} (h : hub.due? = some (client, payload))
    (horderly : hub.Orderly client) :
    (hub.sent false).ahead client = [] ∧ (hub.sent false).keeps client = false := by
  obtain ⟨waiting, unreached, rest, hjobs, hsent⟩ := jobs_of_due h
  obtain ⟨hnodup, hmembers⟩ := horderly.waiting _ _ _ _ hjobs
  obtain ⟨hnew, -⟩ := List.nodup_cons.mp hnodup
  have hnojoin : ∀ job ∈ rest, job.isJoin client = false := fun job hjob =>
    horderly.inside (hmembers List.mem_cons_self) job
      (hjobs ▸ List.mem_cons_of_mem _ hjob)
  have hnosending : ∀ job ∈ rest, job.isSending = false := by
    have hbehind := horderly.behind
    rwa [hjobs] at hbehind
  obtain ⟨hahead, hkeeps⟩ := prospect_cons client (hub.sent false) (by rw [hsent])
  rw [hahead, hkeeps]
  simp only [Job.brings, Job.keeps, hnew, if_false, Bool.false_eq_true, List.mem_cons_self,
    not_true_eq_false, decide_false, Bool.and_false, List.nil_append]
  exact broughtBy_outside hnojoin hnosending

/-- A step puts no job to the others but one that is sending. -/
theorem mem_turn_jobs {job : Job α} (h : job ∈ hub.turn.jobs) :
    job ∈ hub.jobs ∨ job.isSending = true := by
  cases hjobs : hub.jobs with
  | nil => simp [turn, hjobs] at h
  | cons first rest =>
      cases first with
      | join other | leave other =>
          simp only [turn, hjobs] at h
          exact .inl (List.mem_cons_of_mem _ h)
      | broadcast payload =>
          simp only [turn, hjobs] at h
          rcases List.mem_cons.mp h with rfl | h
          · exact .inr rfl
          · exact .inl (List.mem_cons_of_mem _ h)
      | sending payload waiting unreached =>
          cases waiting with
          | nil =>
              simp only [turn, hjobs] at h
              exact .inl (List.mem_cons_of_mem _ h)
          | cons next waiting =>
              simp only [turn, hjobs] at h
              exact .inl h

/-- After a send the hub has no new jobs but the one that goes on sending. -/
theorem mem_sent_jobs {job : Job α} {other : String} {payload : α}
    (hdue : hub.due? = some (other, payload)) {reached : Bool}
    (h : job ∈ (hub.sent reached).jobs) : job ∈ hub.jobs ∨ job.isSending = true := by
  obtain ⟨waiting, unreached, rest, hjobs, hsent⟩ := jobs_of_due hdue
  rw [hsent] at h
  rcases List.mem_cons.mp h with rfl | h
  · exact .inr rfl
  · exact .inl (hjobs ▸ List.mem_cons_of_mem _ h)

/-! ## Order -/

/-- A hub stays orderly for a client when a job is posted, unless that lets in a client who may be
inside already. -/
theorem Orderly.post (h : hub.Orderly client) {job : Job α} (hsending : job.isSending = false)
    (hjoin : job.isJoin client = true →
      hub.IsOut client ∧ ∀ job ∈ hub.jobs, job.isLeave client = false) :
    (hub.post job).Orderly client where
  nodup := h.nodup
  behind j hj := by
    have hmem : j ∈ hub.jobs.tail ∨ j = job := by
      rw [Hub.post] at hj
      cases hold : hub.jobs with
      | nil => simp [hold] at hj
      | cons first more => simpa [hold] using hj
    rcases hmem with hmem | rfl
    · exact h.behind j hmem
    · exact hsending
  waiting payload waiting unreached rest hjobs := by
    cases hold : hub.jobs with
    | nil =>
        have hfirst : [job] = .sending payload waiting unreached :: rest := by
          rw [← hjobs, Hub.post, hold, List.nil_append]
        obtain ⟨rfl, -⟩ := List.cons.inj hfirst
        exact absurd hsending (by simp [Job.isSending])
    | cons first more =>
        have hfirst : first :: (more ++ [job]) = .sending payload waiting unreached :: rest := by
          rw [← hjobs, Hub.post, hold, List.cons_append]
        obtain ⟨rfl, -⟩ := List.cons.inj hfirst
        exact h.waiting _ _ _ _ hold
  inside hmember j hj := by
    rcases List.mem_append.mp hj with hj | hj
    · exact h.inside hmember j hj
    · obtain rfl := List.mem_singleton.mp hj
      exact Bool.eq_false_iff.mpr fun hin => (hjoin hin).1.member hmember
  once := by
    refine List.pairwise_append.mpr ⟨h.once, List.pairwise_singleton _ _, fun j hj later hl => ?_⟩
    obtain rfl := List.mem_singleton.mp hl
    refine fun hby => Bool.eq_false_iff.mpr fun hin => ?_
    obtain ⟨hout, hstay⟩ := hjoin hin
    rcases hby with hby | hby
    · simp [hout.job j hj] at hby
    · simp [hstay j hj] at hby

/-- Who comes or goes with the job in front does not wait to join behind it. -/
theorem Orderly.once_cons (h : hub.Orderly client) {job : Job α} {rest : List (Job α)}
    (hjobs : hub.jobs = job :: rest) :
    (job.isJoin client = true ∨ job.isLeave client = true →
      ∀ later ∈ rest, later.isJoin client = false) ∧
    rest.Pairwise fun job later =>
      job.isJoin client = true ∨ job.isLeave client = true → later.isJoin client = false := by
  have honce := h.once
  rw [hjobs, List.pairwise_cons] at honce
  exact ⟨fun hby later hl => honce.1 later hl hby, honce.2⟩

/-- Once the job in front is done, none that is sending is in front. -/
theorem Orderly.next (h : hub.Orderly client) {job : Job α} {rest : List (Job α)}
    (hjobs : hub.jobs = job :: rest) {members : List String} (hnodup : members.Nodup)
    (hinside : client ∈ members → client ∈ hub.members ∨ job.isJoin client = true) :
    Orderly client ⟨members, rest⟩ where
  nodup := hnodup
  behind j hj := h.behind j (by rw [hjobs]; exact List.mem_of_mem_tail hj)
  waiting payload waiting unreached more heq := by
    have hsending := h.behind (.sending payload waiting unreached) (by
      rw [hjobs, List.tail_cons, show rest = _ from heq]
      exact List.mem_cons_self)
    exact absurd hsending (by simp [Job.isSending])
  inside hmember j hj := by
    rcases hinside hmember with hold | hjoin
    · exact h.inside hold j (hjobs ▸ List.mem_cons_of_mem _ hj)
    · exact (h.once_cons hjobs).1 (.inl hjoin) j hj
  once := (h.once_cons hjobs).2

/-- Once a send is made or a broadcast begins, the job in front is one that is sending. -/
theorem Orderly.sending (h : hub.Orderly client) {job : Job α} {rest : List (Job α)}
    (hjobs : hub.jobs = job :: rest) (payload : α) {waiting : List String}
    (unreached : List String) (hnodup : waiting.Nodup) (hmembers : waiting ⊆ hub.members) :
    Orderly client ⟨hub.members, .sending payload waiting unreached :: rest⟩ where
  nodup := h.nodup
  behind j hj := h.behind j (by rw [hjobs]; exact hj)
  waiting p w u more heq := by
    obtain ⟨hsending, -⟩ := List.cons.inj heq
    cases hsending
    exact ⟨hnodup, hmembers⟩
  inside hmember j hj := by
    rcases List.mem_cons.mp hj with rfl | hj
    · rfl
    · exact h.inside hmember j (hjobs ▸ List.mem_cons_of_mem _ hj)
  once := List.pairwise_cons.mpr
    ⟨fun _ _ hby => by simp [Job.isJoin, Job.isLeave] at hby,
      (h.once_cons hjobs).2⟩

/-- A hub stays orderly when it takes a step without a send. -/
theorem Orderly.turn (h : hub.Orderly client) : hub.turn.Orderly client := by
  cases hjobs : hub.jobs with
  | nil => simpa [Hub.turn, hjobs] using h
  | cons job rest =>
      have hfilter (p : String → Bool) : Orderly client ⟨hub.members.filter p, rest⟩ :=
        h.next hjobs (h.nodup.filter p) fun hin => .inl (List.mem_filter.mp hin).1
      cases job with
      | join other =>
          simp only [Hub.turn, hjobs]
          refine h.next hjobs h.nodup.insert fun hin => ?_
          rcases List.mem_insert_iff.mp hin with rfl | hin
          · exact .inr (by simp [Job.isJoin])
          · exact .inl hin
      | leave other =>
          simp only [Hub.turn, hjobs]
          exact hfilter _
      | broadcast payload =>
          simp only [Hub.turn, hjobs]
          exact h.sending hjobs payload [] h.nodup (List.Subset.refl _)
      | sending payload waiting unreached =>
          cases waiting with
          | nil =>
              simp only [Hub.turn, hjobs]
              exact hfilter _
          | cons next waiting => simpa only [Hub.turn, hjobs] using h

/-- A hub stays orderly when it sends something. -/
theorem Orderly.sent (h : hub.Orderly client) {other : String} {payload : α}
    (hdue : hub.due? = some (other, payload)) (reached : Bool) :
    (hub.sent reached).Orderly client := by
  obtain ⟨waiting, unreached, rest, hjobs, hsent⟩ := jobs_of_due hdue
  obtain ⟨hnodup, hmembers⟩ := h.waiting _ _ _ _ hjobs
  rw [hsent]
  exact h.sending hjobs payload _ (List.nodup_cons.mp hnodup).2
    fun name hname => hmembers (List.mem_cons_of_mem _ hname)

/-! ## Leaving -/

/-- A client is out, or what waits for it is kept until it has left: this is true of being about
to leave and of being barred. -/
theorem departing_turn (horderly : hub.Orderly client) {Q : List (Job α) → Prop}
    (hnext : ∀ job rest, Q (job :: rest) → job.isLeave client = true ∨ Q rest)
    (hput : ∀ job rest, Q rest → Q (job :: rest))
    (h : hub.IsOut client ∨ Q hub.jobs) : hub.turn.IsOut client ∨ Q hub.turn.jobs := by
  cases hjobs : hub.jobs with
  | nil => simpa [turn, hjobs] using h
  | cons job rest =>
      rw [hjobs] at h
      have hstill (members : List String) (hless : client ∈ members → client ∈ hub.members)
          (hout : hub.IsOut client) : IsOut client ⟨members, rest⟩ :=
        ⟨mt hless hout.member, fun j hj => hout.job j (hjobs ▸ List.mem_cons_of_mem _ hj)⟩
      have hrest (hleave : job.isLeave client = false) : hub.IsOut client ∨ Q rest :=
        h.imp_right fun hq => (hnext job rest hq).resolve_left (by simp [hleave])
      cases job with
      | join other =>
          simp only [turn, hjobs]
          refine (hrest rfl).imp_left fun hout => hstill _ (fun hin => ?_) hout
          rcases List.mem_insert_iff.mp hin with rfl | hin
          · have hjoin := hout.job (.join client) (hjobs ▸ List.mem_cons_self)
            simp [Job.isJoin] at hjoin
          · exact hin
      | leave other =>
          simp only [turn, hjobs]
          by_cases heq : other = client
          · have hleave : (Job.leave other : Job α).isLeave client = true := by
              simp [Job.isLeave, heq]
            exact .inl ⟨by simp [heq], (horderly.once_cons hjobs).1 (.inr hleave)⟩
          · refine (hrest ?_).imp_left (hstill _ fun hin => (List.mem_filter.mp hin).1)
            simpa [Job.isLeave] using heq
      | broadcast payload =>
          simp only [turn, hjobs]
          refine (hrest rfl).imp (fun hout => ⟨hout.member, fun j hj => ?_⟩) (hput _ _)
          rcases List.mem_cons.mp hj with rfl | hj
          · rfl
          · exact hout.job j (hjobs ▸ List.mem_cons_of_mem _ hj)
      | sending payload waiting unreached =>
          cases waiting with
          | nil =>
              simp only [turn, hjobs]
              exact (hrest rfl).imp_left (hstill _ fun hin => (List.mem_filter.mp hin).1)
          | cons next waiting =>
              simp only [turn, hjobs]
              exact h

/-- A send neither lets a departing client in nor keeps it from departing. -/
theorem departing_sent {Q : List (Job α) → Prop}
    (hnext : ∀ job rest, Q (job :: rest) → job.isLeave client = true ∨ Q rest)
    (hput : ∀ job rest, Q rest → Q (job :: rest)) {other : String} {payload : α}
    (hdue : hub.due? = some (other, payload)) (reached : Bool)
    (h : hub.IsOut client ∨ Q hub.jobs) :
    (hub.sent reached).IsOut client ∨ Q (hub.sent reached).jobs := by
  obtain ⟨waiting, unreached, rest, hjobs, hsent⟩ := jobs_of_due hdue
  rw [hjobs] at h
  rw [hsent]
  refine h.imp (fun hout => ⟨hout.member, fun j hj => ?_⟩) fun hq =>
    hput _ _ ((hnext _ _ hq).resolve_left (by simp [Job.isLeave]))
  rcases List.mem_cons.mp hj with rfl | hj
  · rfl
  · exact hout.job j (hjobs ▸ List.mem_cons_of_mem _ hj)

/-- If a client leaves by some job, it does so by the first one or by a later one. -/
theorem any_leave_next (job : Job α) (rest : List (Job α))
    (h : (job :: rest).any (Job.isLeave client) = true) :
    job.isLeave client = true ∨ rest.any (Job.isLeave client) = true := by
  simpa only [List.any_cons, Bool.or_eq_true] using h

/-- A client that leaves by a later job leaves. -/
theorem any_leave_put (job : Job α) (rest : List (Job α))
    (h : rest.any (Job.isLeave client) = true) :
    (job :: rest).any (Job.isLeave client) = true := by
  rw [List.any_cons, h, Bool.or_true]

/-- If a client will have left before some broadcast, it leaves by the first job or is barred by the
rest. -/
theorem barred_next (job : Job α) (rest : List (Job α))
    (h : barred client (job :: rest) = true) :
    job.isLeave client = true ∨ barred client rest = true := by
  rw [barred, Bool.or_eq_true, Bool.and_eq_true] at h
  exact h.imp_left And.left

/-- A client that is barred by later jobs is barred. -/
theorem barred_put (job : Job α) (rest : List (Job α)) (h : barred client rest = true) :
    barred client (job :: rest) = true := by
  rw [barred, h, Bool.or_true]

/-- Being out, and posting a job that does not let a client in. -/
theorem IsOut.post (h : hub.IsOut client) {job : Job α} (hjoin : job.isJoin client = false) :
    (hub.post job).IsOut client where
  member := h.member
  job j hj := by
    rcases List.mem_append.mp hj with hj | hj
    · exact h.job j hj
    · rwa [List.mem_singleton.mp hj]

/-- A client that is out stays out when the hub takes a step without a send. -/
theorem IsOut.turn (horderly : hub.Orderly client) (h : hub.IsOut client) :
    hub.turn.IsOut client :=
  (departing_turn horderly (Q := fun _ => False) (fun _ _ h => .inr h) (fun _ _ h => h)
    (.inl h)).resolve_right id

/-- A client that is out stays out when the hub sends something. -/
theorem IsOut.sent (h : hub.IsOut client) {other : String} {payload : α}
    (hdue : hub.due? = some (other, payload)) (reached : Bool) :
    (hub.sent reached).IsOut client :=
  (departing_sent (Q := fun _ => False) (fun _ _ h => .inr h) (fun _ _ h => h) hdue reached
    (.inl h)).resolve_right id

end Hub

end Gridwalk.Hub
