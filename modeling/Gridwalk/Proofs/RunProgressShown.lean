import Gridwalk.Proofs.CallInvariants

/-!
# The signs of a run

While a run is in progress its context shows it: by its phase, by the position of the step, and
by the flag of a moved actor (`Signs`).  Commands leave these signs alone, and they leave other
contexts alone.  They set the flag of a hold at the edge only for the pause that they make
there.

A program that is held is at a pause of one of its steps, whose position is shown
(`Fleet.AtStep`); `runProgram_meets` says so for every program of a run that was begun.
-/

set_option autoImplicit false

namespace Gridwalk

/-- What a context shows of a run. -/
structure Signs where
  phase : Phase
  index : Position
  isMoving : Bool
  deriving DecidableEq, Repr

/-- The signs of a context without a run. -/
def Signs.idle : Signs := ⟨.idle, .index idleIndex, false⟩

/-- The signs of a run at a position of its program. -/
def Signs.running (index : Nat) : Signs := ⟨.running, .index index, true⟩

namespace Fleet

/-- What a context of a fleet shows of a run. -/
def signs (f : Fleet) (name : String) : Signs where
  phase := (f.contexts name).phase
  index := (f.contexts name).activeIndex.value
  isMoving := (f.contexts name).actor.value.isMoving

/-- Whether the actor of a context is flagged as held at the edge. -/
def isFlagged (f : Fleet) (name : String) : Bool :=
  (f.contexts name).actor.value.isHittingBounds

/-- What every stretch of a call on a context keeps: the actor is flagged only if it was before
the stretch, and the stretch did not begin at the end of a hold; other contexts are as before. -/
structure Kept (name : String) (o : Origin Fleet) (f : Fleet) : Prop where
  flag : f.isFlagged name = true →
    o.state.isFlagged name = true ∧ ∀ p, o.pause = some p → p.hold ≠ .bounds
  others : ∀ other, other ≠ name → f.contexts other = o.state.contexts other

/-- What is so when a stretch ends at a pause: it is a pause of that context, and if the actor is
flagged for another reason than that pause, then the flag was kept. -/
structure KeptAt (name : String) (o : Origin Fleet) (p : Pause) (f : Fleet) : Prop where
  owner : p.owner = name
  flag : f.isFlagged name = true → p.hold = .bounds ∨
    o.state.isFlagged name = true ∧ ∀ p', o.pause = some p' → p'.hold ≠ .bounds
  others : ∀ other, other ≠ name → f.contexts other = o.state.contexts other

section Changes

variable {name : String} {f g : Fleet} {o : Origin Fleet}

/-- A change of a context that leaves the flag alone keeps what is kept. -/
theorem Kept.trans (h : Kept name o f) (hflag : g.isFlagged name = true → f.isFlagged name = true)
    (hothers : ∀ other, other ≠ name → g.contexts other = f.contexts other) : Kept name o g where
  flag hg := h.flag (hflag hg)
  others other hother := (hothers other hother).trans (h.others other hother)

/-- At the start of a stretch everything is kept that is not a flag of an ended hold. -/
theorem kept_start (name : String) (p : Option Pause) (f : Fleet)
    (hp : ∀ q, p = some q → q.hold ≠ .bounds) : Kept name ⟨p, f⟩ f where
  flag hf := ⟨hf, hp⟩
  others _ _ := rfl

/-- A change of the actor of one context is not seen in another. -/
theorem contexts_change_of_ne (f : Fleet) (name other : String) (c : Actor.Change)
    (h : other ≠ name) : (f.change name c).contexts other = f.contexts other :=
  contexts_showActor_of_ne f name other _ h

/-- A change that does not set the actor moving or still leaves the signs alone. -/
theorem signs_change (f : Fleet) (name : String) {c : Actor.Change} (hc : c.isMoving = none) :
    (f.change name c).signs name = f.signs name := by
  simp [signs, Fleet.change, Actor.apply, hc]

/-- A change that does not name the flag leaves it alone. -/
theorem isFlagged_change (f : Fleet) (name : String) {c : Actor.Change}
    (hc : c.isHittingBounds = none) : (f.change name c).isFlagged name = f.isFlagged name := by
  simp [isFlagged, Fleet.change, Actor.apply, hc]

/-- A hold at the edge shows the flag as it says. -/
theorem isFlagged_hold (f : Fleet) (name : String) (flag : Bool) :
    (f.change name (.hold flag)).isFlagged name = flag := by
  simp [isFlagged, Fleet.change, Actor.apply, Actor.Change.hold]

/-- To put an actor somewhere names neither of its flags. -/
theorem flags_place (x y : Amount) : (Actor.Change.place x y).isMoving = none ∧
    (Actor.Change.place x y).isHittingBounds = none := by
  unfold Actor.Change.place
  cases x.view <;> cases y.view <;> exact ⟨rfl, rfl⟩

/-- To turn an actor names neither of its flags. -/
theorem flags_face (angle : Amount) : (Actor.Change.face angle).isMoving = none ∧
    (Actor.Change.face angle).isHittingBounds = none := by
  unfold Actor.Change.face
  cases angle.view <;> exact ⟨rfl, rfl⟩

/-- A record leaves the signs alone. -/
theorem signs_note (f : Fleet) (name : String) (occurrence : Occurrence) :
    (f.note name occurrence).signs name = f.signs name := by
  simp only [signs, note, contexts_alter_self, Context.phase_record, Context.activeIndex_record,
    Context.actor_record]

/-- A record leaves the flag alone. -/
theorem isFlagged_note (f : Fleet) (name : String) (occurrence : Occurrence) :
    (f.note name occurrence).isFlagged name = f.isFlagged name := by
  simp only [isFlagged, note, contexts_alter_self, Context.actor_record]

/-- What commands do changes no signs. -/
theorem Calm.signs_eq (h : Calm name f g) : g.signs name = f.signs name := by
  cases h with
  | counted => simp [signs]
  | skipped id parent => exact signs_note f name _
  | blocked hsign htarget hout => exact signs_note f name _
  | moved hsign htarget hin => exact signs_change f name (flags_place _ _).1
  | turned hangle => exact signs_change f name (flags_face _).1

/-- What commands do changes no flag, apart from holds. -/
theorem Calm.isFlagged_eq (h : Calm name f g) : g.isFlagged name = f.isFlagged name := by
  cases h with
  | counted => simp [isFlagged]
  | skipped id parent => exact isFlagged_note f name _
  | blocked hsign htarget hout => exact isFlagged_note f name _
  | moved hsign htarget hin => exact isFlagged_change f name (flags_place _ _).2
  | turned hangle => exact isFlagged_change f name (flags_face _).2

/-- What commands do changes no other context. -/
theorem Calm.others (h : Calm name f g) {other : String} (hother : other ≠ name) :
    g.contexts other = f.contexts other := by
  cases h with
  | counted => exact contexts_alter_of_ne f name other _ hother
  | skipped id parent => exact contexts_alter_of_ne f name other _ hother
  | blocked hsign htarget hout => exact contexts_alter_of_ne f name other _ hother
  | moved hsign htarget hin => exact contexts_change_of_ne f name other _ hother
  | turned hangle => exact contexts_change_of_ne f name other _ hother

end Changes

/-- The regime of commands on a context whose signs are subject to a condition. -/
def signRegime (name : String) (rely : Fleet → Fleet → Prop) (S : Origin Fleet → Signs → Prop) :
    Regime Fleet where
  rely := rely
  held o p f := S o (f.signs name) ∧ KeptAt name o p f
  within o f := S o (f.signs name) ∧ Kept name o f

/-- Commands keep to a condition on the signs that survives pauses. -/
theorem signRegime_tends (name : String) {rely : Fleet → Fleet → Prop}
    {S : Origin Fleet → Signs → Prop}
    (hrely : ∀ o f p g, S o (f.signs name) → rely f g → S ⟨some p, g⟩ (g.signs name)) :
    (signRegime name rely S).Tends name where
  calm := by
    rintro o f g ⟨hsigns, hkept⟩ hcalm
    refine ⟨?_, ?_⟩
    · rw [hcalm.signs_eq]
      exact hsigns
    · exact hkept.trans (fun hg => hcalm.isFlagged_eq ▸ hg) fun other => hcalm.others
  step := by
    rintro o f ⟨hsigns, hkept⟩
    exact ⟨hsigns, rfl, fun hf => .inr (hkept.flag hf), hkept.others⟩
  afterStep := by
    rintro o f g ⟨hsigns, -⟩ hg
    refine ⟨hrely o f _ g hsigns hg, kept_start name _ g ?_⟩
    rintro q hq
    cases hq
    exact fun h => nomatch h
  edge := by
    rintro o f ⟨hsigns, hkept⟩
    refine ⟨?_, rfl, fun _ => .inl rfl, ?_⟩
    · rw [signs_change f name rfl]
      exact hsigns
    · intro other hother
      rw [contexts_change_of_ne f name other _ hother]
      exact hkept.others other hother
  afterEdge := by
    rintro o f g ⟨hsigns, -⟩ hg
    rw [← signs_change f name (c := .hold true) rfl] at hsigns
    refine ⟨?_, ?_, ?_⟩
    · rw [signs_change g name rfl]
      exact hrely o _ _ g hsigns hg
    · intro hflag
      rw [isFlagged_hold] at hflag
      cases hflag
    · intro other hother
      exact contexts_change_of_ne g name other _ hother

/-! ## Programs -/

/-- A stretch that began a run found no other one in progress. -/
def Began (name : String) (o : Origin Fleet) : Prop :=
  o.pause = none → (o.state.contexts name).phase = .idle

/-- A program is at a pause of one of its steps, whose position is shown: what is left of it is
what is left of that step, and then the steps after it. -/
def AtStep (crowd : Crowd) (name : String) (ids : List Phrase) (p : Pause)
    (next : Answer → Routine Fleet Unit) (f : Fleet) : Prop :=
  ∃ before id rest k,
    ids = before ++ id :: rest ∧
    f.signs name = Signs.running before.length ∧
    Routine.Leaves ((stage crowd name).runStep before.length id) (.pause p k) ∧
    next = fun answer => (k answer).bind fun _ =>
      (stage crowd name).runSteps (before.length + 1) rest

/-- What is asked of the program of a run. -/
def programContract (crowd : Crowd) (name : String) (ids : List Phrase) : Contract Fleet Unit where
  rely f g := g.signs name = f.signs name
  held o p next f := KeptAt name o p f ∧ Began name o ∧ AtStep crowd name ids p next f
  ended o _ f := Kept name o f ∧ Began name o

section Programs

open Routine

variable {name : String} {f : Fleet} {o : Origin Fleet} (crowd : Crowd)

/-- The regime of the step at a position of a program. -/
def stepRegime (name : String) (index : Nat) : Regime Fleet :=
  signRegime name (fun f g => g.signs name = f.signs name) fun o signs =>
    signs = Signs.running index ∧ Began name o

/-- The commands of a step keep to its regime. -/
theorem stepRegime_tends (name : String) (index : Nat) : (stepRegime name index).Tends name := by
  refine signRegime_tends name ?_
  rintro o f p g ⟨hsigns, -⟩ hg
  refine ⟨hg.trans hsigns, fun hnone => nomatch hnone⟩

/-- A step of a run shows its position and keeps to its regime. -/
theorem runStep_meets (hphase : (f.contexts name).phase = .running)
    (hmoving : (f.contexts name).actor.value.isMoving = true) (hkept : Kept name o f)
    (hbegan : Began name o) (index : Nat) (id : Phrase) :
    ((stage crowd name).runStep index id).Meets ((stepRegime name index).contract Unit) o f := by
  let shown := f.showIndex name (.index (Int.ofNat index))
  have hshown : shown.signs name = Signs.running index := by
    simp [shown, signs, Signs.running, hphase, hmoving]
  have hkept' : Kept name o shown := by
    refine hkept.trans ?_ fun other hother => contexts_showIndex_of_ne f name other _ hother
    simp [shown, isFlagged]
  have hnoted (occurrence : Occurrence) :
      (stepRegime name index).within o (shown.note name occurrence) := by
    refine ⟨⟨?_, hbegan⟩, hkept'.trans ?_ fun other hother => ?_⟩
    · rw [signs_note]
      exact hshown
    · rw [isFlagged_note]
      exact fun h => h
    · exact contexts_alter_of_ne shown name other _ hother
  refine meets_act_bind (setIndex_eq crowd name f _) ?_
  refine meets_act_bind (named_eq crowd name _ id) ?_
  cases (shown.contexts name).catalog.named id with
  | none => exact meets_ofAct (hnoted _)
  | some command =>
      refine meets_act_bind (record_eq crowd name _ _) ?_
      exact runCommand_obeys (stepRegime_tends name index) crowd (levelsBelow 0) command o _
        (hnoted _)

/-- The steps of a run that are left keep to its contract. -/
theorem runSteps_meets (hphase : (f.contexts name).phase = .running)
    (hmoving : (f.contexts name).actor.value.isMoving = true) (hkept : Kept name o f)
    (hbegan : Began name o) (before rest : List Phrase) :
    ((stage crowd name).runSteps before.length rest).Meets
      (programContract crowd name (before ++ rest)) o f := by
  -- The steps that were made go over to `before`, so that the whole program stays the same.
  induction rest generalizing before o f with
  | nil => exact ⟨hkept, hbegan⟩
  | cons id rest ih =>
      have hstep := (runStep_meets crowd hphase hmoving hkept hbegan before.length id).leaves
        (.here _)
      refine meets_bind (Meets.mono ?_ ?_ ?_ hstep)
      · exact fun _ _ h => h
      · rintro o p k f ⟨⟨⟨hsigns, hbegan⟩, hkept⟩, hleaves⟩
        exact ⟨hkept, hbegan, before, id, rest, k, rfl, hsigns, hleaves, rfl⟩
      · rintro o result f ⟨⟨hsigns, hbegan⟩, hkept⟩
        cases result with
        | error fault => exact ⟨hkept, hbegan⟩
        | ok u =>
            have hrest := ih (congrArg Signs.phase hsigns) (congrArg Signs.isMoving hsigns) hkept
              hbegan (before ++ [id])
            rw [List.length_append, List.append_assoc] at hrest
            exact hrest

/-- The program of a run keeps to its contract. -/
theorem runProgram_meets (hphase : (f.contexts name).phase = .running) (hkept : Kept name o f)
    (hbegan : Began name o) (ids : List Phrase) :
    ((stage crowd name).runProgram ids).Meets (programContract crowd name ids) o f := by
  refine meets_act_bind (updateActor_eq crowd name f _) ?_
  refine runSteps_meets crowd ?_ ?_ ?_ hbegan [] ids
  · rw [Fleet.change, contexts_showActor_self]
    exact hphase
  · rw [Fleet.change, contexts_showActor_self]
    rfl
  · refine hkept.trans (fun h => ?_) fun other hother => contexts_change_of_ne f name other _ hother
    rwa [isFlagged_change f name rfl] at h

end Programs

end Fleet

end Gridwalk
