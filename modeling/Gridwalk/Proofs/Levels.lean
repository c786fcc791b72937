import Gridwalk.Proofs.FlatRun
import Gridwalk.Proofs.Interruption

/-!
# How many levels of loops are left

A command that is handed over at some depth is compared with the same command done less deep, where
more levels of loops may still be entered.  Both pass through the same states one after the other
(`Routine.trail`), until the first one meets a loop that lies too deep for it; there it breaks off,
and what the second one still does only adds to what was told, paused, recorded and counted
(`Fleet.runGiven_curtailed`).

If every pause succeeds, then whether a command breaks off is told from the command and the catalog
alone: it does so exactly if more loops lie in each other than levels are left, each of them but the
innermost one repeated at least once (`Fleet.runGiven_refusedIf`, `Catalog.exceeds_iff`).  The first
of these loops need not be one of the catalog's; the others are, for they are looked up there.
`Fleet.runGiven_deeper` puts both together.
-/

set_option autoImplicit false

namespace Gridwalk

/-! ## Routines that break off -/

/-- How two routines are compared, the first of which may break off: how pauses are answered, at
which faults it may do so, and which states are later than others. -/
structure Curb (σ : Type) where
  sleep : Pause → σ → Answer × σ
  breaks : Fault → Prop
  later : σ → σ → Prop
  refl : ∀ s, later s s
  trans : ∀ {s t u}, later s t → later t u → later s u

namespace Routine

variable {σ α β : Type}

/-- The states that a routine passes through when it is played, the first one first: one after each
write and one after each pause. -/
def trail (sleep : Pause → σ → Answer × σ) : Routine σ α → σ → List σ
  | .done _, _ => []
  | .fail _, _ => []
  | .get k, s => (k s).trail sleep s
  | .put t r, _ => t :: r.trail sleep t
  | .pause p k, s => (sleep p s).2 :: (k (sleep p s).1).trail sleep (sleep p s).2

section Trails

variable (sleep : Pause → σ → Answer × σ) {r : Routine σ α} {f : α → Routine σ β} {s t : σ}

/-- After the states of one routine come those of the one that follows it. -/
theorem trail_bind (r : Routine σ α) (f : α → Routine σ β) (s : σ) :
    (r >>= f).trail sleep s = r.trail sleep s ++
      match r.play sleep s with
      | (.ok a, t) => (f a).trail sleep t
      | (.error _, _) => [] := by
  show (r.bind f).trail sleep s = _
  induction r generalizing s with
  | done a => rfl
  | fail fault => rfl
  | get k ih => exact ih s s
  | put t r ih => exact congrArg (t :: ·) (ih t)
  | pause p k ih => exact congrArg ((sleep p s).2 :: ·) (ih (sleep p s).1 (sleep p s).2)

variable {sleep}

/-- A routine that gave a value is followed by what it is followed by at that value. -/
theorem bind_of_ok {a : α} (h : r.play sleep s = (.ok a, t)) :
    (r >>= f).play sleep s = (f a).play sleep t ∧
      (r >>= f).trail sleep s = r.trail sleep s ++ (f a).trail sleep t := by
  constructor
  · refine (play_bind sleep r f s).trans ?_
    rw [h]
  · rw [trail_bind, h]

/-- A routine that raised a fault is not followed by anything. -/
theorem bind_of_error {fault : Fault} (h : r.play sleep s = (.error fault, t)) :
    (r >>= f).play sleep s = (.error fault, t) ∧ (r >>= f).trail sleep s = r.trail sleep s := by
  constructor
  · refine (play_bind sleep r f s).trans ?_
    rw [h]
  · rw [trail_bind, h]
    exact List.append_nil _

end Trails

variable {c : Curb σ}

/-- However a routine ends, it ends in a later state. -/
def Rises (c : Curb σ) (r : Routine σ α) : Prop :=
  ∀ s, c.later s (r.play c.sleep s).2

/-- Played from a state, one routine does the same as another one, or it breaks off on the way of
the other one. -/
inductive Precedes (c : Curb σ) (r q : Routine σ α) (s : σ) : Prop
  | same (hplay : r.play c.sleep s = q.play c.sleep s)
      (htrail : r.trail c.sleep s = q.trail c.sleep s)
  | cut {fault : Fault} {t : σ} (hfault : c.breaks fault)
      (hplay : r.play c.sleep s = (.error fault, t))
      (htrail : r.trail c.sleep s <+: q.trail c.sleep s)
      (hlater : c.later t (q.play c.sleep s).2)

/-- One routine is another one, maybe broken off, wherever both are begun. -/
structure Curtailed (c : Curb σ) (r q : Routine σ α) : Prop where
  rises : q.Rises c
  precedes : ∀ s, r.Precedes c q s

/-- A value leads nowhere, so that it does not lead back. -/
theorem rises_done (a : α) : (Routine.done a : Routine σ α).Rises c := fun s => c.refl s

/-- An act that leads further does so as a routine. -/
theorem rises_ofAct {act : Act σ α} (h : ∀ s, c.later s (act s).2) : (ofAct act).Rises c := by
  intro s
  rw [play_ofAct]
  exact h s

/-- One routine after the other leads further if both do. -/
theorem Rises.bind {r : Routine σ α} {f : α → Routine σ β} (hr : r.Rises c)
    (hf : ∀ a, (f a).Rises c) : (r >>= f).Rises c := by
  intro s
  have hfirst := hr s
  cases hresult : r.play c.sleep s with
  | mk result t =>
      rw [hresult] at hfirst
      cases result with
      | ok a =>
          rw [(bind_of_ok hresult).1]
          exact c.trans hfirst (hf a t)
      | error fault =>
          rw [(bind_of_error hresult).1]
          exact hfirst

/-- A routine that only leads to later states is itself, not broken off. -/
theorem Rises.curtailed {r : Routine σ α} (h : r.Rises c) : r.Curtailed c r :=
  ⟨h, fun _ => .same rfl rfl⟩

/-- What breaks off at once precedes whatever leads to later states. -/
theorem Rises.curtailed_fail {q : Routine σ α} (h : q.Rises c) {fault : Fault}
    (hfault : c.breaks fault) : (Routine.fail fault).Curtailed c q :=
  ⟨h, fun s => .cut hfault rfl List.nil_prefix (h s)⟩

/-- Where one routine precedes another one, it does so with what follows, if that does so. -/
theorem Precedes.bind {r q : Routine σ α} {f g : α → Routine σ β} {s : σ}
    (h : r.Precedes c q s) (hnext : ∀ a, (f a).Curtailed c (g a)) :
    (r >>= f).Precedes c (q >>= g) s := by
  cases hq : q.play c.sleep s with
  | mk result t =>
      cases h with
      | same hplay htrail =>
          rw [hq] at hplay
          cases result with
          | error fault =>
              obtain ⟨hleft, hlefts⟩ := bind_of_error (f := f) hplay
              obtain ⟨hright, hrights⟩ := bind_of_error (f := g) hq
              exact .same (hleft.trans hright.symm) (by rw [hlefts, hrights, htrail])
          | ok a =>
              -- Both go on from the same state; so they part, if at all, in what follows.
              obtain ⟨hleft, hlefts⟩ := bind_of_ok (f := f) hplay
              obtain ⟨hright, hrights⟩ := bind_of_ok (f := g) hq
              cases (hnext a).precedes t with
              | same hafter hfurther =>
                  exact .same (hleft.trans (hafter.trans hright.symm))
                    (by rw [hlefts, hrights, htrail, hfurther])
              | cut hfault hafter hfurther hlater =>
                  refine .cut hfault (hleft.trans hafter) ?_ ?_
                  · rw [hlefts, hrights, htrail]
                    exact (List.prefix_append_right_inj _).mpr hfurther
                  · rw [hright]
                    exact hlater
      | cut hfault hplay htrail hlater =>
          rw [hq] at hlater
          obtain ⟨hleft, hlefts⟩ := bind_of_error (f := f) hplay
          cases result with
          | error fault =>
              obtain ⟨hright, hrights⟩ := bind_of_error (f := g) hq
              refine .cut hfault hleft ?_ ?_
              · rw [hlefts, hrights]
                exact htrail
              · rw [hright]
                exact hlater
          | ok a =>
              -- The one has broken off; what follows the other one only leads to later states.
              obtain ⟨hright, hrights⟩ := bind_of_ok (f := g) hq
              refine .cut hfault hleft ?_ ?_
              · rw [hlefts, hrights]
                exact htrail.trans (List.prefix_append _ _)
              · rw [hright]
                exact c.trans hlater ((hnext a).rises t)

section Consequences

variable {r q : Routine σ α} {s : σ} (h : r.Precedes c q s)

include h

/-- The states that the one routine passes through are the first ones of the other one. -/
theorem Precedes.trail_isPrefix : r.trail c.sleep s <+: q.trail c.sleep s := by
  cases h with
  | same hplay htrail => exact htrail ▸ List.prefix_refl _
  | cut hfault hplay htrail hlater => exact htrail

/-- The other routine ends no earlier. -/
theorem Precedes.later : c.later (r.play c.sleep s).2 (q.play c.sleep s).2 := by
  cases h with
  | same hplay htrail =>
      rw [hplay]
      exact c.refl _
  | cut hfault hplay htrail hlater =>
      rw [hplay]
      exact hlater

/-- Both do the same and end alike, or the one breaks off. -/
theorem Precedes.same_or_breaks :
    r.play c.sleep s = q.play c.sleep s ∧ r.trail c.sleep s = q.trail c.sleep s ∨
      ∃ fault, c.breaks fault ∧ (r.play c.sleep s).1 = .error fault := by
  cases h with
  | same hplay htrail => exact .inl ⟨hplay, htrail⟩
  | cut hfault hplay htrail hlater => exact .inr ⟨_, hfault, congrArg Prod.fst hplay⟩

end Consequences

/-- If one routine is another one, maybe broken off, and so are those that follow, then so are both
one after the other. -/
theorem Curtailed.bind {r q : Routine σ α} {f g : α → Routine σ β} (h : r.Curtailed c q)
    (hnext : ∀ a, (f a).Curtailed c (g a)) : (r >>= f).Curtailed c (q >>= g) :=
  ⟨h.rises.bind fun a => (hnext a).rises, fun s => (h.precedes s).bind hnext⟩

/-- A routine that is repeated is the other one repeated, maybe broken off. -/
theorem Curtailed.repeated {r q : Routine σ Unit} (h : r.Curtailed c q) (n : Nat) :
    (Routine.repeated n r).Curtailed c (Routine.repeated n q) := by
  induction n with
  | zero => exact (rises_done ()).curtailed
  | succ n ih => exact h.bind fun _ => ih

/-- Routines for the items of a list are the others for the same items, maybe broken off. -/
theorem Curtailed.forM {ι : Type} {f g : ι → Routine σ Unit} (h : ∀ i, (f i).Curtailed c (g i))
    (items : List ι) : (items.forM f).Curtailed c (items.forM g) := by
  induction items with
  | nil => exact (rises_done ()).curtailed
  | cons i rest ih => exact (h i).bind fun _ => ih

end Routine

/-! ## Loops in each other -/

/-- Less deep, no fewer levels are left. -/
theorem levelsBelow_anti {depth depth' : Int} (h : depth' ≤ depth) :
    levelsBelow depth ≤ levelsBelow depth' := by
  unfold levelsBelow
  omega

/-- How many levels are left at a depth, counted from the deepest one. -/
theorem levelsBelow_lt_iff {depth : Int} {n : Nat} :
    levelsBelow depth < n ↔ max 0 (8 - depth) < n := by
  have hlimit : Int.ofNat maxLoopDepth = 8 := rfl
  unfold levelsBelow
  rw [hlimit]
  omega

/-- A basic command is done alike on all levels. -/
theorem Stage.runCommand_basic {σ : Type} (stage : Stage σ) (levels levels' : Nat) (b : Basic) :
    stage.runCommand levels (.basic b) = stage.runCommand levels' (.basic b) := by
  cases levels <;> cases levels' <;> rfl

namespace Catalog

/-- Whether a loop leads into another one: it is repeated at least once, and the other one is what
the catalog has under the id of one of its children. -/
def Encloses (catalog : Catalog) (outer inner : Loop) : Prop :=
  1 ≤ outer.repeats ∧ ∃ id ∈ outer.children, catalog.named id = some (.loop inner)

/-- Loops each of which leads into the next one, the first one being a command. -/
structure Chain (catalog : Catalog) (command : Command) (loops : List Loop) : Prop where
  first : loops.head?.map .loop = some command
  encloses : loops.IsChain catalog.Encloses

/-- Whether a command comes to a loop that lies too deep, if some levels of loops may still be
entered. -/
def Exceeds (catalog : Catalog) : (levels : Nat) → Command → Prop
  | _, .basic _ => False
  | 0, .loop _ => True
  | levels + 1, .loop l =>
      1 ≤ l.repeats ∧ ∃ id ∈ l.children,
        ∃ child, catalog.named id = some child ∧ catalog.Exceeds levels child

/-- Whether a command is one of the catalog's, and not another one of its id. -/
def Holds (catalog : Catalog) (command : Command) : Prop :=
  catalog.lookup command.id = some command

variable {catalog : Catalog}

/-- A basic command needs no levels. -/
theorem not_exceeds_basic (levels : Nat) (b : Basic) : ¬ catalog.Exceeds levels (.basic b) := by
  cases levels <;> exact id

/-- A loop is a chain by itself, and one in front of a chain if it leads into its first loop. -/
theorem chain_loop_iff {l : Loop} {loops : List Loop} :
    catalog.Chain (.loop l) loops ↔
      ∃ rest, loops = l :: rest ∧
        (rest = [] ∨ ∃ inner, catalog.Encloses l inner ∧ catalog.Chain (.loop inner) rest) := by
  constructor
  · rintro ⟨hfirst, hencloses⟩
    cases loops with
    | nil => cases hfirst
    | cons outer rest =>
        obtain rfl : outer = l := by simpa using hfirst
        refine ⟨rest, rfl, ?_⟩
        cases rest with
        | nil => exact .inl rfl
        | cons inner rest =>
            obtain ⟨hinner, hrest⟩ := List.isChain_cons_cons.mp hencloses
            exact .inr ⟨inner, hinner, rfl, hrest⟩
  · rintro ⟨rest, rfl, hrest⟩
    refine ⟨rfl, ?_⟩
    rcases hrest with rfl | ⟨inner, hinner, hfirst, hencloses⟩
    · exact .singleton l
    · cases rest with
      | nil => cases hfirst
      | cons next rest =>
          obtain rfl : next = inner := by simpa using hfirst
          exact List.isChain_cons_cons.mpr ⟨hinner, hencloses⟩

/-- A command comes to a loop that lies too deep exactly if there is a chain of more loops, from
this command on, than levels are left. -/
theorem exceeds_iff {levels : Nat} {command : Command} :
    catalog.Exceeds levels command ↔
      ∃ loops, catalog.Chain command loops ∧ levels < loops.length := by
  cases command with
  | basic b =>
      refine ⟨fun h => absurd h (not_exceeds_basic levels b), ?_⟩
      rintro ⟨loops, ⟨hfirst, -⟩, -⟩
      cases loops <;> simp at hfirst
  | loop l =>
      induction levels generalizing l with
      | zero =>
          refine ⟨fun _ => ⟨[l], chain_loop_iff.mpr ⟨[], rfl, .inl rfl⟩, Nat.zero_lt_one⟩, ?_⟩
          exact fun _ => trivial
      | succ levels ih =>
          constructor
          · rintro ⟨hrepeats, id, hid, child, hchild, hexceeds⟩
            cases child with
            | basic b => exact absurd hexceeds (not_exceeds_basic levels b)
            | loop inner =>
                obtain ⟨rest, hrest, hlength⟩ := (ih inner).mp hexceeds
                refine ⟨l :: rest, chain_loop_iff.mpr ⟨rest, rfl, .inr ⟨inner, ?_, hrest⟩⟩, ?_⟩
                · exact ⟨hrepeats, id, hid, hchild⟩
                · exact Nat.succ_lt_succ hlength
          · rintro ⟨loops, hloops, hlength⟩
            obtain ⟨rest, rfl, rfl | ⟨inner, ⟨hrepeats, id, hid, hchild⟩, hrest⟩⟩ :=
              chain_loop_iff.mp hloops
            · exact absurd hlength (Nat.not_lt.mpr (Nat.succ_le_succ (Nat.zero_le levels)))
            · exact ⟨hrepeats, id, hid, .loop inner, hchild,
                (ih inner).mpr ⟨rest, hrest, Nat.lt_of_succ_lt_succ hlength⟩⟩

end Catalog

namespace Fleet

open Routine

/-! ## What commands add -/

/-- A later fleet in which no fewer actions were counted.  What is later has more in front, for a
fleet and its contexts have the newest entry first. -/
structure Further (name : String) (f g : Fleet) : Prop extends Onward name f g where
  counted : (f.contexts name).actionsCompleted ≤ (g.contexts name).actionsCompleted

section Steps

variable {name : String} {f g h : Fleet}

/-- A fleet is as far as itself. -/
theorem Further.refl (name : String) (f : Fleet) : Further name f f :=
  ⟨.refl name f, Nat.le_refl _⟩

/-- What is further than what is further is further. -/
theorem Further.trans (hf : Further name f g) (hg : Further name g h) : Further name f h :=
  ⟨hf.toOnward.trans hg.toOnward, Nat.le_trans hf.counted hg.counted⟩

/-- A fleet is further when a pause was noted. -/
theorem further_noted (name : String) (f : Fleet) (p : Pause) : Further name f (f.noted p) :=
  ⟨onward_noted name f p, Nat.le_refl _⟩

/-- A fleet is further when an actor was changed, for its observers were told. -/
theorem further_change (name : String) (f : Fleet) (change : Actor.Change) :
    Further name f (f.change name change) where
  toOnward := onward_showActor name f _
  counted := by rw [Fleet.change, contexts_showActor_self]

/-- A fleet is further when something was recorded, if it was. -/
theorem further_note (name : String) (f : Fleet) (occurrence : Occurrence) :
    Further name f (f.note name occurrence) where
  toOnward := onward_note name f occurrence
  counted := by rw [actionsCompleted_note]

/-- What commands do leads further. -/
theorem Calm.further (h : Calm name f g) : Further name f g := by
  cases h with
  | counted =>
      refine ⟨⟨List.suffix_refl _, List.suffix_refl _, ?_, ?_, ?_⟩, ?_⟩ <;> rw [contexts_alter_self]
      exact Nat.le_succ _
  | skipped id parent => exact further_note name f _
  | blocked hsign htarget hout => exact further_note name f _
  | moved hsign htarget hin => exact further_change name f _
  | turned hangle => exact further_change name f _

/-- The regime of routines that lead further from one pause to the next. -/
def mounting (name : String) : Regime Fleet where
  rely _ _ := True
  held o _ f := Further name o.state f
  within o f := Further name o.state f

/-- All that commands do leads further. -/
theorem mounting_tends (name : String) : (mounting name).Tends name where
  calm h hcalm := Further.trans h hcalm.further
  step h := h
  afterStep _ _ := .refl name _
  edge h := Further.trans h (further_change name _ _)
  afterEdge _ _ := further_change name _ _

end Steps

/-- Commands are compared as they are played; a loop that lies too deep may break them off. -/
def curb (name : String) (answers : List Pause → Pause → Answer) : Curb Fleet where
  sleep := pace answers
  breaks fault := ∃ id, fault = .loopTooDeep maxLoopDepth id
  later := Further name
  refl := .refl name
  trans := .trans

section Commands

variable (crowd : Crowd) (name : String) (answers : List Pause → Pause → Answer)

/-- A routine that leads further from one pause to the next leads further in all. -/
theorem rises_of_meets {α : Type} {r : Routine Fleet α} {o : Origin Fleet} {f : Fleet}
    (h : r.Meets ((mounting name).contract α) o f) :
    Further name o.state (r.play (pace answers) f).2 := by
  induction r generalizing o f with
  | done a => exact h
  | fail fault => exact h
  | get k ih => exact ih f h
  | put g r ih => exact ih h
  | pause p k ih =>
      have hpaused := Further.trans h.1 (further_noted name f p)
      exact hpaused.trans (ih (answers f.pauses p) (h.2 (answers f.pauses p) (f.noted p) trivial))

/-- Every command leads further. -/
theorem runCommand_rises (levels : Nat) (command : Command) :
    ((stage crowd name).runCommand levels command).Rises (curb name answers) := fun f =>
  rises_of_meets name answers
    (runCommand_obeys (mounting_tends name) crowd levels command ⟨none, f⟩ f (.refl name f))

/-- An act that only reads is itself, not broken off. -/
theorem read_curtailed {α : Type} {act : Act Fleet α} (hact : ∀ f, (act f).2 = f) :
    (ofAct act).Curtailed (curb name answers) (ofAct act) :=
  (rises_ofAct fun f => by rw [hact]; exact .refl name f).curtailed

/-- If every command with some levels left is the command with more levels left, maybe broken off,
then so is every child of a loop. -/
theorem runChild_curtailed {levels levels' : Nat}
    (h : ∀ child, ((stage crowd name).runCommand levels child).Curtailed (curb name answers)
      ((stage crowd name).runCommand levels' child)) (parent : String) (id : Phrase) :
    ((stage crowd name).runChild levels parent id).Curtailed (curb name answers)
      ((stage crowd name).runChild levels' parent id) := by
  refine (read_curtailed name answers fun _ => rfl).bind fun child => ?_
  cases child with
  | none => exact (rises_ofAct fun f => further_note name f _).curtailed
  | some child => exact h child

/-- A command with some levels of loops left is the command with more levels left, maybe broken
off. -/
theorem runCommand_curtailed {levels levels' : Nat} (h : levels ≤ levels') (command : Command) :
    ((stage crowd name).runCommand levels command).Curtailed (curb name answers)
      ((stage crowd name).runCommand levels' command) := by
  have hbasic (levels levels' : Nat) (b : Basic) :
      ((stage crowd name).runCommand levels (.basic b)).Curtailed (curb name answers)
        ((stage crowd name).runCommand levels' (.basic b)) := by
    rw [Stage.runCommand_basic _ levels levels']
    exact (runCommand_rises crowd name answers levels' (.basic b)).curtailed
  -- The levels of the one run out first.  A child is done with one level less in both, whichever
  -- command it is, for the catalog may be cyclic.
  induction levels generalizing levels' command with
  | zero =>
      cases command with
      | basic b => exact hbasic 0 levels' b
      | loop l =>
          exact (runCommand_rises crowd name answers levels' (.loop l)).curtailed_fail ⟨l.id, rfl⟩
  | succ levels ih =>
      obtain ⟨more, rfl⟩ := Nat.exists_eq_add_of_lt h
      have hmore : levels ≤ levels + more := Nat.le_add_right levels more
      cases command with
      | basic b => exact hbasic _ _ b
      | loop l =>
          have hread (f : Fleet) : ((stage crowd name).childrenNow l f).2 = f := by
            rw [childrenNow_eq]
          have hchildren := read_curtailed name answers hread
          refine Curtailed.repeated (hchildren.bind fun children => ?_) l.repeats.toNat
          exact Curtailed.forM (runChild_curtailed crowd name answers (ih hmore) l.id) children

/-- A loop that is handed over with some levels left is the loop with more levels left, maybe broken
off, if it may be entered in both. -/
theorem loop_curtailed {levels levels' : Nat} (h : levels ≤ levels') (l : Loop) :
    ((stage crowd name).runGiven (levels + 1) (.loop l)).Curtailed (curb name answers)
      ((stage crowd name).runGiven (levels' + 1) (.loop l)) := by
  refine (read_curtailed name answers fun _ => rfl).bind fun held => ?_
  split
  · exact runCommand_curtailed crowd name answers (Nat.succ_le_succ h) (.loop l)
  · have hchild := runChild_curtailed crowd name answers
      (runCommand_curtailed crowd name answers h) l.id
    exact Curtailed.repeated (Curtailed.forM hchild l.children) l.repeats.toNat

/-- Every command that is handed over leads further. -/
theorem runGiven_rises (levels : Nat) (command : Command) :
    ((stage crowd name).runGiven levels command).Rises (curb name answers) := by
  cases command with
  | basic b => cases levels <;> exact runCommand_rises crowd name answers _ (.basic b)
  | loop l =>
      cases levels with
      | zero => exact runCommand_rises crowd name answers 0 (.loop l)
      | succ levels => exact (loop_curtailed crowd name answers (Nat.le_refl levels) l).rises

/-- A command that is handed over with some levels of loops left is the command with more levels
left, maybe broken off. -/
theorem runGiven_curtailed {levels levels' : Nat} (h : levels ≤ levels') (command : Command) :
    ((stage crowd name).runGiven levels command).Curtailed (curb name answers)
      ((stage crowd name).runGiven levels' command) := by
  cases command with
  | basic b =>
      have hbasic := runCommand_curtailed crowd name answers h (.basic b)
      cases levels <;> cases levels' <;> exact hbasic
  | loop l =>
      cases levels with
      | zero =>
          exact (runGiven_rises crowd name answers levels' (.loop l)).curtailed_fail ⟨l.id, rfl⟩
      | succ levels =>
          obtain ⟨more, rfl⟩ := Nat.exists_eq_add_of_lt h
          exact loop_curtailed crowd name answers (Nat.le_add_right levels more) l

end Commands

/-! ## If no pause raises a fault -/

/-- A context of a fleet has a catalog, and its actor has no foreign values. -/
structure Poised (name : String) (catalog : Catalog) (f : Fleet) : Prop where
  catalog : (f.contexts name).catalog = catalog
  foreign : (f.contexts name).actor.value.foreign = []

/-- A routine leads from poised fleets to poised ones, and raises nothing, except in some case: then
a loop lies too deep. -/
def RefusedIf (name : String) (answers : List Pause → Pause → Answer) (catalog : Catalog)
    (r : Routine Fleet Unit) (refused : Prop) : Prop :=
  ∀ f, Poised name catalog f → ∃ result g, r.play (pace answers) f = (result, g) ∧
    Poised name catalog g ∧ (¬ refused ∧ result = .ok () ∨
      refused ∧ ∃ id, result = .error (.loopTooDeep maxLoopDepth id))

section Smooth

variable {crowd : Crowd} {name : String} {answers : List Pause → Pause → Answer}
  {catalog : Catalog}

/-- What ends without a fault is not refused. -/
theorem refusedIf_done : RefusedIf name answers catalog (.done ()) False :=
  fun f hf => ⟨.ok (), f, rfl, hf, .inl ⟨id, rfl⟩⟩

/-- What is refused under one condition is refused under an equal one. -/
theorem RefusedIf.congr {r : Routine Fleet Unit} {refused refused' : Prop}
    (h : RefusedIf name answers catalog r refused) (hiff : refused ↔ refused') :
    RefusedIf name answers catalog r refused' := by
  rwa [← propext hiff]

/-- One routine after the other is refused if one of them is. -/
theorem RefusedIf.bind {r q : Routine Fleet Unit} {refused refused' : Prop}
    (hr : RefusedIf name answers catalog r refused)
    (hq : RefusedIf name answers catalog q refused') :
    RefusedIf name answers catalog (r >>= fun _ => q) (refused ∨ refused') := by
  intro f hf
  obtain ⟨result, g, hplay, hg, ⟨hnot, rfl⟩ | ⟨hrefused, id, rfl⟩⟩ := hr f hf
  · obtain ⟨result, h, hplay', hh, hends⟩ := hq g hg
    refine ⟨result, h, (bind_of_ok hplay).1.trans hplay', hh, ?_⟩
    rcases hends with ⟨hnot', hok⟩ | ⟨hrefused, hfault⟩
    · exact .inl ⟨fun h => h.elim hnot hnot', hok⟩
    · exact .inr ⟨.inr hrefused, hfault⟩
  · exact ⟨_, g, (bind_of_error hplay).1, hg, .inr ⟨.inl hrefused, id, rfl⟩⟩

/-- A routine that is repeated is refused if it is and it is done at least once. -/
theorem RefusedIf.repeated {r : Routine Fleet Unit} {refused : Prop}
    (h : RefusedIf name answers catalog r refused) (n : Nat) :
    RefusedIf name answers catalog (Routine.repeated n r) (1 ≤ n ∧ refused) := by
  induction n with
  | zero => exact refusedIf_done.congr ⟨False.elim, fun h => absurd h.1 (by decide)⟩
  | succ n ih =>
      refine (h.bind ih).congr ⟨?_, fun h => .inl h.2⟩
      rintro (hrefused | ⟨-, hrefused⟩) <;> exact ⟨Nat.le_add_left 1 n, hrefused⟩

/-- Routines for the items of a list are refused if one of them is. -/
theorem RefusedIf.forM {ι : Type} {r : ι → Routine Fleet Unit} {refused : ι → Prop}
    (h : ∀ i, RefusedIf name answers catalog (r i) (refused i)) (items : List ι) :
    RefusedIf name answers catalog (items.forM r) (∃ i ∈ items, refused i) := by
  induction items with
  | nil => exact refusedIf_done.congr (by simp)
  | cons i rest ih => exact ((h i).bind ih).congr (by simp)

/-- After what is read from poised fleets the rest is refused if it is. -/
theorem refusedIf_of_read {α : Type} {act : Act Fleet α} {a : α} {k : α → Routine Fleet Unit}
    {refused : Prop} (hact : ∀ f, Poised name catalog f → act f = (.ok a, f))
    (h : RefusedIf name answers catalog (k a) refused) :
    RefusedIf name answers catalog (ofAct act >>= k) refused := by
  intro f hf
  rw [play_act_bind (hact f hf)]
  exact h f hf

variable (crowd)

/-- A child that no command has the id of is not refused. -/
theorem skipped_refusedIf (id : Phrase) (parent : String) :
    RefusedIf name answers catalog
      (ofAct ((stage crowd name).record (.childSkipped id parent))) False := by
  intro f hf
  have hcatalog : ((f.note name (.childSkipped id parent)).contexts name).catalog = catalog := by
    rw [note, contexts_alter_self, Context.catalog_record]
    exact hf.catalog
  have hforeign :
      ((f.note name (.childSkipped id parent)).contexts name).actor.value.foreign = [] := by
    rw [actor_note]
    exact hf.foreign
  exact ⟨.ok (), _, play_ofAct _ _ f, ⟨hcatalog, hforeign⟩, .inl ⟨not_false, rfl⟩⟩

/-- If every command of the catalog's is refused exactly if it comes to a loop that lies too deep,
then so is every child of a loop. -/
theorem runChild_refusedIf {levels : Nat}
    (h : ∀ child, catalog.Holds child → RefusedIf name answers catalog
      ((stage crowd name).runCommand levels child) (catalog.Exceeds levels child))
    (parent : String) (id : Phrase) :
    RefusedIf name answers catalog ((stage crowd name).runChild levels parent id)
      (∃ child, catalog.named id = some child ∧ catalog.Exceeds levels child) := by
  refine refusedIf_of_read (a := catalog.named id) (fun f hf => by rw [← hf.catalog]; rfl) ?_
  cases hchild : catalog.named id with
  | none => exact (skipped_refusedIf crowd id parent).congr (by simp)
  | some child => exact (h child (Catalog.named_id hchild)).congr (by simp)

/-- A loop whose children are done again and again is refused exactly if it is repeated at least
once and comes to a loop that lies too deep. -/
theorem loop_refusedIf {levels : Nat}
    (h : ∀ child, catalog.Holds child → RefusedIf name answers catalog
      ((stage crowd name).runCommand levels child) (catalog.Exceeds levels child)) (l : Loop) :
    RefusedIf name answers catalog
      (Routine.repeated l.repeats.toNat
        (l.children.forM ((stage crowd name).runChild levels l.id)))
      (catalog.Exceeds (levels + 1) (.loop l)) := by
  have htimes : 1 ≤ l.repeats.toNat ↔ 1 ≤ l.repeats := by omega
  have hchildren := RefusedIf.forM (runChild_refusedIf crowd h l.id) l.children
  exact (hchildren.repeated l.repeats.toNat).congr (and_congr_left' htimes)

variable (hanswers : ∀ earlier p, answers earlier p = .ok ())

include hanswers

/-- A basic command is not refused. -/
theorem basic_refusedIf (levels : Nat) (b : Basic) :
    RefusedIf name answers catalog ((stage crowd name).runCommand levels (.basic b)) False := by
  intro f hf
  obtain ⟨g, hplay, hg⟩ := basic_leads crowd name hanswers hf.foreign b
  rw [Stage.runCommand_basic _ levels 0]
  refine ⟨.ok (), g, hplay, ⟨(congrArg Sight.catalog hg).trans hf.catalog, ?_⟩, .inl ⟨id, rfl⟩⟩
  have hactor : (g.sight name).actor.value =
      ((f.sight name).actor.value.stride (f.sight name).settings.grid b.deed).final
        (f.sight name).actor.value := by
    rw [hg]
    exact Stride.final_append _ _ _
  exact (congrArg Actor.foreign hactor).trans ((Actor.foreign_stride _ _ _).trans hf.foreign)

/-- A command of the catalog's is refused exactly if it comes to a loop that lies too deep. -/
theorem runCommand_refusedIf (levels : Nat) {command : Command} (hheld : catalog.Holds command) :
    RefusedIf name answers catalog ((stage crowd name).runCommand levels command)
      (catalog.Exceeds levels command) := by
  induction levels generalizing command with
  | zero =>
      cases command with
      | basic b => exact basic_refusedIf crowd hanswers 0 b
      | loop l => exact fun f hf => ⟨_, f, rfl, hf, .inr ⟨trivial, l.id, rfl⟩⟩
  | succ levels ih =>
      cases command with
      | basic b => exact basic_refusedIf crowd hanswers (levels + 1) b
      | loop l =>
          -- The children are read again for each repetition, but they are those of the loop.
          have hchildren (f : Fleet) (hf : Poised name catalog f) :
              (stage crowd name).childrenNow l f = (.ok l.children, f) := by
            rw [childrenNow_eq, hf.catalog, Catalog.childrenOf_eq_of_lookup hheld]
          have htimes : 1 ≤ l.repeats.toNat ↔ 1 ≤ l.repeats := by omega
          refine RefusedIf.congr (RefusedIf.repeated ?_ l.repeats.toNat) (and_congr_left' htimes)
          exact refusedIf_of_read hchildren
            (RefusedIf.forM (runChild_refusedIf crowd (fun _ => ih) l.id) l.children)

/-- A command that is handed over is refused exactly if it comes to a loop that lies too deep,
whether it is one of the catalog's or not. -/
theorem runGiven_refusedIf (levels : Nat) (command : Command) :
    RefusedIf name answers catalog ((stage crowd name).runGiven levels command)
      (catalog.Exceeds levels command) := by
  cases command with
  | basic b => cases levels <;> exact basic_refusedIf crowd hanswers _ b
  | loop l =>
      cases levels with
      | zero => exact fun f hf => ⟨_, f, rfl, hf, .inr ⟨trivial, l.id, rfl⟩⟩
      | succ levels =>
          refine refusedIf_of_read (a := catalog.lookup l.id)
            (fun f hf => by rw [← hf.catalog]; rfl) ?_
          split
          next hheld => exact runCommand_refusedIf crowd hanswers (levels + 1) hheld
          next =>
            exact loop_refusedIf crowd (fun _ => runCommand_refusedIf crowd hanswers levels) l

/-- A command that is handed over at some depth is refused exactly if there is a chain of more
loops, from the command on, than levels are left at that depth. -/
theorem runGiven_refused_iff {f : Fleet} (hforeign : (f.contexts name).actor.value.foreign = [])
    (depth : Int) (command : Command) :
    (∃ id, (((stage crowd name).runGiven (levelsBelow depth) command).play (pace answers) f).1 =
        .error (.loopTooDeep maxLoopDepth id)) ↔
      ∃ loops, (f.contexts name).catalog.Chain command loops ∧
        max 0 (8 - depth) < loops.length := by
  obtain ⟨result, g, hplay, -, hends⟩ :=
    runGiven_refusedIf crowd hanswers (levelsBelow depth) command f ⟨rfl, hforeign⟩
  simp only [hplay, ← levelsBelow_lt_iff]
  rw [← Catalog.exceeds_iff]
  rcases hends with ⟨hnot, rfl⟩ | ⟨hexceeds, hfault⟩
  · refine ⟨?_, fun hexceeds => absurd hexceeds hnot⟩
    rintro ⟨id, hid⟩
    cases hid
  · exact ⟨fun _ => hexceeds, fun _ => hfault⟩

end Smooth

/-! ## Commands at two depths -/

/-- A command that is handed over at some depth, one of the catalog's or any other one, is compared
with itself at a depth that is no greater, from the same fleet and with pauses answered in the same
way.  The states that the deeper one passes through are the first ones of those that the other one
passes through; so what it tells, pauses, records and counts comes first with the other one, too.
Unless a loop lies too deep for the deeper one, both do the same and end alike.  If neither pauses
raise faults nor foreign values of the actor can, a loop does lie too deep for it exactly if there
is a chain of more loops, from the command on, than levels are left at its depth. -/
theorem runGiven_deeper (crowd : Crowd) (name : String) (answers : List Pause → Pause → Answer)
    (f : Fleet) (command : Command) {depth depth' : Int} (hdepth : depth' ≤ depth) :
    let call (depth : Int) := (stage crowd name).runGiven (levelsBelow depth) command
    let deep := (call depth).play (pace answers) f
    let shallow := (call depth').play (pace answers) f
    let refused := ∃ id, deep.1 = .error (.loopTooDeep maxLoopDepth id)
    (call depth).trail (pace answers) f <+: (call depth').trail (pace answers) f ∧
      Further name f deep.2 ∧ Further name deep.2 shallow.2 ∧
      (deep = shallow ∧ (call depth).trail (pace answers) f = (call depth').trail (pace answers) f ∨
        refused) ∧
      ((∀ earlier p, answers earlier p = .ok ()) →
        (f.contexts name).actor.value.foreign = [] →
        (refused ↔ ∃ loops, (f.contexts name).catalog.Chain command loops ∧
          max 0 (8 - depth) < loops.length)) := by
  intro call deep shallow refused
  have hcurtailed := runGiven_curtailed crowd name answers (levelsBelow_anti hdepth) command
  have hprecedes := hcurtailed.precedes f
  refine ⟨hprecedes.trail_isPrefix, runGiven_rises crowd name answers _ command f,
    hprecedes.later, ?_, fun hanswers hforeign =>
      runGiven_refused_iff crowd hanswers hforeign depth command⟩
  rcases hprecedes.same_or_breaks with hsame | ⟨fault, ⟨id, rfl⟩, hended⟩
  · exact .inl hsame
  · exact .inr ⟨id, hended⟩

/-- A fleet whose contexts have two loops; one goes ahead and leads into the other one, which leads
back, but is never repeated. -/
def sheltered : Fleet where
  contexts _ :=
    { catalog := {
        commands := [
          .basic { id := "ahead", deed := .moveForward },
          .loop { id := "outer", repeats := 1, children := ["ahead", "inner"] },
          .loop { id := "inner", repeats := 0, children := ["outer"] }]
        distinct := by decide }
      actor := ⟨{}, ["watcher"]⟩ }

/-- A loop of the same id as one that the sheltered fleets have, but with repetitions and children
of its own. -/
def stray : Loop where
  id := "inner"
  repeats := 1
  children := ["ahead", "outer"]

/-- At depth seven the stray loop breaks off at the outer one, once the actor has gone ahead; at
depth five all is done, for the inner loop that is entered last is not the stray one again, and no
fourth loop is entered. -/
theorem runGiven_deeper_stray :
    let call (depth : Int) := (stage .quiet "a").runGiven (levelsBelow depth) (.loop stray)
    let deep := (call 7).play (pace succeed) sheltered
    let shallow := (call 5).play (pace succeed) sheltered
    let chained (n : Int) :=
      ∃ loops, (sheltered.contexts "a").catalog.Chain (.loop stray) loops ∧ n < loops.length
    (5 : Int) ≤ 7 ∧ (∀ earlier p, succeed earlier p = .ok ()) ∧
      (sheltered.contexts "a").actor.value.foreign = [] ∧
      (call 7).trail (pace succeed) sheltered <+: (call 5).trail (pace succeed) sheltered ∧
      deep.2.told <:+ shallow.2.told ∧ deep.2.told.length = 1 ∧ shallow.2.told.length = 2 ∧
      (deep.2.contexts "a").actionsCompleted = 1 ∧
      deep.1 = .error (.loopTooDeep 8 "outer") ∧ chained 1 ∧
      shallow.1 = .ok () ∧ ¬ chained 3 := by
  intro call deep shallow chained
  have hsmooth (earlier : List Pause) (p : Pause) : succeed earlier p = .ok () := rfl
  have hdeep : deep.1 = .error (.loopTooDeep 8 "outer") := by decide +kernel
  have hshallow : shallow.1 = .ok () := by decide +kernel
  obtain ⟨htrail, -, hfurther, -, hiff⟩ :=
    runGiven_deeper .quiet "a" succeed sheltered (.loop stray) (show (5 : Int) ≤ 7 by decide)
  obtain ⟨-, -, -, -, hiff'⟩ :=
    runGiven_deeper .quiet "a" succeed sheltered (.loop stray) (Int.le_refl 5)
  refine ⟨by decide, hsmooth, rfl, htrail, hfurther.told, by decide +kernel, by decide +kernel,
    by decide +kernel, hdeep, (hiff hsmooth rfl).mp ⟨"outer", hdeep⟩, hshallow, fun hchained => ?_⟩
  obtain ⟨id, hfault⟩ := (hiff' hsmooth rfl).mpr hchained
  cases hshallow.symm.trans hfault

end Fleet

end Gridwalk
