import Gridwalk.Dispatch

/-!
# Ordinary faults

A calculation with a foreign value can fail, and observers can.  All of this fails with ordinary
faults (`IsMild`), and so does every act that is made of it (`Act.IsMild`): reading, recording,
telling observers, and changing what they observe.
-/

set_option autoImplicit false

namespace Gridwalk

/-- What fails, if it does, with an ordinary fault. -/
def IsMild {α : Type} (result : Except Fault α) : Prop :=
  ∀ fault, result = .error fault → fault.isOrdinary = true

section Results

variable {α β : Type}

/-- What does not fail is mild. -/
@[simp] theorem isMild_ok (a : α) : IsMild (.ok a : Except Fault α) := nofun

/-- What fails with an ordinary fault is mild. -/
theorem isMild_error {fault : Fault} (h : fault.isOrdinary = true) :
    IsMild (.error fault : Except Fault α) := by
  rintro _ ⟨⟩
  exact h

/-- One computation after the other is mild if both are. -/
theorem IsMild.bind {result : Except Fault α} {f : α → Except Fault β} (h : IsMild result)
    (hf : ∀ a, IsMild (f a)) : IsMild (result >>= f) := by
  cases result with
  | ok a => exact hf a
  | error fault => exact isMild_error (h fault rfl)

/-- An error is reported by an ordinary fault if all of its kind are. -/
theorem isMild_mapError {ε : Type} {report : ε → Fault} (h : ∀ e, (report e).isOrdinary = true)
    (result : Except ε α) : IsMild (result.mapError report) := by
  cases result with
  | ok a => exact isMild_ok a
  | error e => exact isMild_error (h e)

/-- A program that raised nothing but an ordinary fault has an outcome. -/
theorem Stage.outcomeOf_of_isMild {ended : Except Fault Unit} (h : IsMild ended) :
    ∃ outcome, Stage.outcomeOf ended = .ok outcome ∧
      (ended = .ok () ∧ outcome = .completed ∨
        ∃ fault, ended = .error fault ∧ outcome = .aborted fault) := by
  cases ended with
  | ok u => exact ⟨.completed, rfl, .inl ⟨rfl, rfl⟩⟩
  | error fault => exact ⟨.aborted fault, by simp [outcomeOf, h fault rfl], .inr ⟨fault, rfl, rfl⟩⟩

end Results

/-! ## Calculations -/

/-- An integer beyond every real number is an ordinary fault. -/
theorem Amount.isMild_binary (n : Int) : IsMild (Amount.binary n) := by
  unfold Amount.binary
  split
  · exact isMild_ok _
  · exact isMild_error rfl

/-- A sum fails in an ordinary way only. -/
theorem Amount.isMild_plus (amount : Amount) (n : Int) : IsMild (amount.plus n) := by
  cases amount with
  | whole m => exact isMild_ok _
  | real r => exact (isMild_binary n).bind fun _ => isMild_ok _

/-- A remainder fails in an ordinary way only, also one by zero. -/
theorem Amount.isMild_modulo (amount : Amount) (n : Int) : IsMild (amount.modulo n) := by
  cases amount with
  | whole m =>
      show IsMild (if n = 0 then .error .zeroCellSize else .ok _ : Except Fault Amount)
      split
      · exact isMild_error rfl
      · exact isMild_ok _
  | real r =>
      refine (isMild_binary n).bind fun q => ?_
      show IsMild (if q = 0 then .error .zeroDivisor else .ok _ : Except Fault Amount)
      split
      · exact isMild_error rfl
      · exact isMild_ok _

/-- A quotient fails in an ordinary way only. -/
theorem Amount.isMild_quotient (amount : Amount) (n : Int) : IsMild (amount.quotient n) := by
  cases amount with
  | whole m => exact isMild_ok _
  | real r =>
      unfold Amount.quotient
      dsimp only
      split
      · exact isMild_ok _
      · exact isMild_error rfl

namespace Json

/-- A value that is no number is an ordinary fault. -/
theorem isMild_amount (calculation : Calculation) (value : Json) :
    IsMild (value.amount calculation) :=
  isMild_mapError (fun _ => rfl) _

/-- Adding to a value fails in an ordinary way only. -/
theorem isMild_plus (value : Json) (n : Int) : IsMild (value.plus n) :=
  (isMild_amount .sum value).bind fun amount => amount.isMild_plus n

/-- Subtracting from a value fails in an ordinary way only. -/
theorem isMild_minus (value : Json) (n : Int) : IsMild (value.minus n) :=
  (isMild_amount .difference value).bind fun amount => amount.isMild_plus (-n)

/-- The remainder of a value, which may be a template, fails in an ordinary way only. -/
theorem isMild_modulo (value : Json) (n : Int) : IsMild (value.modulo n) := by
  have hnumber (value : Json) : IsMild (do
      pure (some (← (← value.amount .remainder).modulo n)) : Except Fault (Option Amount)) :=
    (isMild_amount _ value).bind fun amount => (amount.isMild_modulo n).bind fun _ => isMild_ok _
  cases value with
  | str s =>
      refine (isMild_mapError (fun flaw => ?_) _).bind fun _ => isMild_ok _
      cases flaw <;> rfl
  | null => exact hnumber .null
  | bool b => exact hnumber (.bool b)
  | int m => exact hnumber (.int m)
  | real r => exact hnumber (.real r)
  | arr items => exact hnumber (.arr items)
  | obj members => exact hnumber (.obj members)

/-- The quarter turn of an angle fails in an ordinary way only. -/
theorem isMild_quarterTurn (angle : Json) : IsMild angle.quarterTurn := by
  refine (isMild_modulo angle 360).bind fun rest => ?_
  cases rest with
  | none => exact isMild_error rfl
  | some rest =>
      exact (rest.isMild_plus 45).bind fun sum => (sum.isMild_quotient 90).bind fun _ => isMild_ok _

/-- Comparing a value with a limit fails in an ordinary way only. -/
theorem isMild_isBeyond (value : Json) (limit : Int) : IsMild (value.isBeyond limit) :=
  (isMild_mapError (fun _ => rfl) _).bind fun _ => isMild_ok _

end Json

/-- Asking whether a position is outside a grid fails in an ordinary way only. -/
theorem Grid.isMild_excludes (grid : Grid) (x y : Json) : IsMild (grid.excludes x y) := by
  refine (x.isMild_isBeyond grid.maxX).bind fun out => ?_
  cases out with
  | true => exact isMild_ok _
  | false => exact y.isMild_isBeyond grid.maxY

namespace Actor

/-- A target that cannot be calculated is an ordinary fault. -/
theorem isMild_target (actor : Actor) (grid : Grid) (sign : Int) :
    IsMild (actor.target grid sign) := by
  refine ((Json.isMild_quarterTurn _).bind fun _ => isMild_ok _).bind fun delta => ?_
  exact (Json.isMild_plus _ _).bind fun x => (Json.isMild_plus _ _).bind fun y => isMild_ok _

/-- A turn that cannot be calculated is an ordinary fault. -/
theorem isMild_turned (actor : Actor) (degrees : Int) : IsMild (actor.turned degrees) := by
  unfold turned
  split
  · exact Json.isMild_minus _ _
  · exact Json.isMild_plus _ _

end Actor

/-! ## Acts -/

namespace Act

variable {σ τ α β : Type} {act : Act σ α}

/-- An act that raises ordinary faults only. -/
def IsMild (act : Act σ α) : Prop :=
  ∀ s, Gridwalk.IsMild (act s).1

/-- An act that always succeeds raises nothing. -/
theorem isMild_of_ok (h : ∀ s, ∃ a, (act s).1 = .ok a) : act.IsMild := by
  intro s fault hfault
  obtain ⟨a, ha⟩ := h s
  cases ha.symm.trans hfault

/-- Reading raises nothing. -/
theorem isMild_read (place : Place σ τ) : (Act.read place).IsMild := fun _ => isMild_ok _

/-- Changing what is kept somewhere raises nothing. -/
theorem isMild_modify (place : Place σ τ) (f : τ → τ) : (Act.modify place f).IsMild :=
  fun _ => isMild_ok ()

/-- A change that may be refused is mild if every refusal is. -/
theorem isMild_update (place : Place σ τ) {f : τ → Except Fault τ}
    (hf : ∀ t, Gridwalk.IsMild (f t)) : (Act.update place f).IsMild := by
  intro s fault hfault
  unfold Act.update at hfault
  cases h : f (place.get s) with
  | ok t => simp [h] at hfault
  | error other =>
      simp only [h, Except.error.injEq] at hfault
      exact hfault ▸ hf _ other h

/-- One act after the other is mild if both are. -/
theorem IsMild.bind {next : α → Act σ β} (h : act.IsMild) (hnext : ∀ a, (next a).IsMild) :
    (act >>= next).IsMild := by
  intro s
  show Gridwalk.IsMild (Act.bind act next s).1
  have hfirst := h s
  unfold Act.bind
  cases hs : act s with
  | mk result t =>
      rw [hs] at hfirst
      cases result with
      | ok a => exact hnext a t
      | error fault => exact isMild_error (hfirst fault rfl)

/-- If an act is mild, then nothing is left of its faults once the ordinary ones are forgotten. -/
theorem IsMild.tolerate {act : Act σ Unit} (h : act.IsMild) : act.tolerate.IsMild := by
  refine isMild_of_ok fun s => ⟨(), ?_⟩
  have hfirst := h s
  unfold Act.tolerate
  cases hs : act s with
  | mk result t =>
      rw [hs] at hfirst
      cases result with
      | ok u => rfl
      | error fault => simp [hfirst fault rfl]

end Act

namespace Observable

variable {σ α : Type} {place : Place σ (Observable α)} {call : String → α → Act σ Unit}
  (hcall : ∀ observer value, (call observer value).IsMild)

include hcall

/-- Telling a value is mild if every observer is. -/
theorem isMild_tell (value : α) (observers : List String) : (tell call value observers).IsMild := by
  induction observers with
  | nil => exact fun _ => isMild_ok ()
  | cons observer rest ih => exact (hcall observer value).tolerate.bind fun _ => ih

/-- Setting a value is mild if every observer is. -/
theorem isMild_set (value : α) : (set place call value).IsMild :=
  (Act.isMild_modify _ _).bind fun _ => (Act.isMild_read _).bind fun _ => isMild_tell hcall _ _

/-- Replacing a value by one computed from it is mild if the computation is, and every observer. -/
theorem isMild_revise {f : α → Except Fault α} (hf : ∀ a, IsMild (f a)) :
    (revise place call f).IsMild :=
  (Act.isMild_read _).bind fun _ => Act.IsMild.bind (fun _ => hf _) fun _ =>
    (isMild_set hcall _).bind fun _ _ => isMild_ok _

end Observable

end Gridwalk
