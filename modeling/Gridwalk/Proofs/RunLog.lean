import Gridwalk.Proofs.Course

/-!
# What the log of a run tells

What a run records and which positions it shows is kept in a ledger (`Fleet.ledger`).  Every stroke
of a run adds to the ledger what it says of itself (`Fleet.enact_notes`): a step adds its start, a
visit to an unknown child adds that the child was skipped, and a deed adds blocked moves only.
Along the course of a run this makes up one block of occurrences for each step that was begun
(`Course.Log`), and with the start of the run before them and its end after them the whole log.

This holds whatever is done at pauses, as long as the world is discreet (`Fleet.Discreet`): it
leaves the records of the context and what is told of its active position to the run.
-/

set_option autoImplicit false

namespace Gridwalk

/-! ## Ledgers -/

/-- What a run has recorded, and which positions it has shown to whom, the oldest first. -/
structure Ledger where
  run : Option RunId
  entries : List (RunId × Occurrence)
  observers : List String
  shown : List (String × Position)

namespace Ledger

/-- The ledger after some occurrences were recorded and some positions were shown. -/
def after (ledger : Ledger) (occurrences : List Occurrence) (positions : List Position) : Ledger :=
  { ledger with
    entries := ledger.entries ++ ledger.run.toList.flatMap fun run =>
      occurrences.map fun occurrence => (run, occurrence)
    shown := ledger.shown ++ positions.flatMap fun position =>
      ledger.observers.map fun observer => (observer, position) }

/-- A ledger to which nothing is added stays as it is. -/
@[simp] theorem after_nil (ledger : Ledger) : ledger.after [] [] = ledger := by
  obtain ⟨run, _, _, _⟩ := ledger
  cases run <;> simp [after]

/-- What is added to a ledger in two goes can be added in one. -/
@[simp] theorem after_after (ledger : Ledger) (first second : List Occurrence)
    (before later : List Position) :
    (ledger.after first before).after second later =
      ledger.after (first ++ second) (before ++ later) := by
  cases hrun : ledger.run <;> simp [after, hrun]

end Ledger

/-- Who was told which position of a context. -/
def Telling.position? (name : String) (telling : Telling) : Option (String × Position) :=
  match telling.notice with
  | .actor _ => none
  | .activeIndex position =>
      if telling.context = name then some (telling.observer, position) else none

namespace Fleet

open Routine

/-- The ledger of a context. -/
def ledger (f : Fleet) (name : String) : Ledger where
  run := (f.contexts name).run
  entries := (f.contexts name).events.map fun event => (event.run, event.occurrence)
  observers := (f.contexts name).activeIndex.observers
  shown := f.told.reverse.filterMap (Telling.position? name)

/-- What is done at pauses leaves the ledger of a context alone. -/
def Discreet (name : String) (sleep : Pause → Fleet → Answer × Fleet) : Prop :=
  ∀ p f, (sleep p f).2.ledger name = f.ledger name

section Ledgers

variable (f : Fleet) (name : String)

/-- Showing an actor is no part of the ledger. -/
theorem ledger_change (change : Actor.Change) :
    (f.change name change).ledger name = f.ledger name := by
  have hquiet (observers : List String) (actor : Actor) :
      (observers.map fun observer => (⟨name, observer, .actor actor⟩ : Telling)).filterMap
        (Telling.position? name) = [] := by
    simp [List.filterMap_map, Function.comp_def, Telling.position?]
  simp only [ledger, Fleet.change, contexts_showActor_self, told_showActor, List.reverse_append,
    List.reverse_reverse, List.filterMap_append, hquiet, List.append_nil]
  rfl

/-- Showing a position adds it to the ledger. -/
theorem ledger_showIndex (position : Position) :
    (f.showIndex name position).ledger name = (f.ledger name).after [] [position] := by
  have hshown (observers : List String) :
      (observers.map fun observer => (⟨name, observer, .activeIndex position⟩ : Telling)).filterMap
        (Telling.position? name) = observers.map fun observer => (observer, position) := by
    simp [List.filterMap_map, Function.comp_def, Telling.position?]
  simp only [ledger, contexts_showIndex_self, told_showIndex, List.reverse_append,
    List.reverse_reverse, List.filterMap_append, hshown, Ledger.after]
  simp [Context.events]

/-- Noting an occurrence adds it to the ledger. -/
theorem ledger_note (occurrence : Occurrence) :
    (f.note name occurrence).ledger name = (f.ledger name).after [occurrence] [] := by
  have hcontext : (f.note name occurrence).contexts name = (f.contexts name).record occurrence :=
    contexts_alter_self f name _
  unfold ledger Ledger.after
  rw [hcontext, Context.activeIndex_record, Context.run_record]
  cases hrun : (f.contexts name).run with
  | none =>
      rw [Context.record_of_run_eq_none hrun]
      simp [note]
  | some run =>
      rw [Context.events_record hrun]
      simp [note]

/-- Counting an action adds nothing to the ledger. -/
theorem ledger_counted :
    (f.alter name fun c => { c with actionsCompleted := c.actionsCompleted + 1 }).ledger name =
      f.ledger name := by
  unfold ledger
  rw [contexts_alter_self]
  rfl

end Ledgers

end Fleet

/-! ## Strokes -/

/-- Whether a move was blocked. -/
def Occurrence.isHit : Occurrence → Bool
  | .boundsHit _ _ _ => true
  | _ => false

/-- The unknown child that was skipped, and its loop. -/
def Occurrence.unknownChild? : Occurrence → Option (Phrase × String)
  | .childSkipped id parent => some (id, parent)
  | _ => none

namespace Stroke

/-- Whether a stroke takes place inside a step. -/
def isInner : Stroke → Bool
  | .action _ => true
  | .skipped _ _ => true
  | .refused _ => true
  | _ => false

/-- The unknown child that is visited, and its loop. -/
def unknownChild? : Stroke → Option (Phrase × String)
  | .skipped id parent => some (id, parent)
  | _ => none

/-- What a stroke records; a deed may be blocked. -/
def Notes : Stroke → List Occurrence → Prop
  | .started index id, occurrences => occurrences = [.stepStarted index id]
  | .missing index id, occurrences => occurrences = [.stepSkipped index id]
  | .skipped id parent, occurrences => occurrences = [.childSkipped id parent]
  | .action _, occurrences => ∀ occurrence ∈ occurrences, occurrence.isHit = true
  | _, occurrences => occurrences = []

/-- The positions that a stroke shows. -/
def shows : Stroke → List Position
  | .point index => [.index (Int.ofNat index)]
  | _ => []

end Stroke

namespace Fleet

open Routine

/-- From one fleet to another one nothing is added to a ledger but blocked moves. -/
def Blocks (name : String) (f g : Fleet) : Prop :=
  ∃ hits : List Occurrence, (∀ hit ∈ hits, hit.isHit = true) ∧
    g.ledger name = (f.ledger name).after hits []

section Blocks

variable {name : String} {f g k : Fleet}

/-- What leaves the ledger alone adds no blocked moves. -/
theorem Blocks.of_eq (h : g.ledger name = f.ledger name) : Blocks name f g :=
  ⟨[], List.forall_mem_nil _, by rw [h, Ledger.after_nil]⟩

/-- Blocked moves can be added in two goes. -/
theorem Blocks.trans (h : Blocks name f g) (hk : Blocks name g k) : Blocks name f k := by
  obtain ⟨hits, hhits, hg⟩ := h
  obtain ⟨more, hmore, hk⟩ := hk
  refine ⟨hits ++ more, List.forall_mem_append.mpr ⟨hhits, hmore⟩, ?_⟩
  rw [hk, hg, Ledger.after_after]
  rfl

/-- Wherever a routine is played from, it records blocked moves only. -/
def Hits {α : Type} (name : String) (sleep : Pause → Fleet → Answer × Fleet)
    (r : Routine Fleet α) : Prop :=
  ∀ f, Blocks name f (r.play sleep f).2

section Closure

variable {sleep : Pause → Fleet → Answer × Fleet} {α β : Type}

/-- An act that adds blocked moves only does so as a routine. -/
theorem hits_ofAct {act : Act Fleet α} (h : ∀ f, Blocks name f (act f).2) :
    Hits name sleep (ofAct act) := by
  intro f
  rw [play_ofAct]
  exact h f

/-- A computation without a state adds nothing. -/
theorem hits_ofExcept (result : Except Fault α) : Hits name sleep (ofExcept result) := by
  intro f
  cases result <;> exact .of_eq rfl

/-- A pause adds nothing in a discreet world. -/
theorem hits_rest (hsleep : Discreet name sleep) (p : Pause) : Hits name sleep (rest p) := by
  intro f
  have hplay : ((rest p).play sleep f).2 = (sleep p f).2 := by
    show ((ofExcept (sleep p f).1).play sleep (sleep p f).2).2 = _
    cases (sleep p f).1 <;> rfl
  rw [hplay]
  exact .of_eq (hsleep p f)

/-- One routine after the other adds blocked moves only if both do. -/
theorem Hits.bind {r : Routine Fleet α} {next : α → Routine Fleet β} (hr : Hits name sleep r)
    (hnext : ∀ a, Hits name sleep (next a)) : Hits name sleep (r >>= next) := by
  intro f
  have hfirst := hr f
  show Blocks name f ((r.bind next).play sleep f).2
  rw [play_bind]
  cases hplay : r.play sleep f with
  | mk result g =>
      rw [hplay] at hfirst
      cases result with
      | ok a => exact hfirst.trans (hnext a g)
      | error fault => exact hfirst

/-- Taking the outcome of a routine adds what the routine adds. -/
theorem Hits.attempt {r : Routine Fleet α} (h : Hits name sleep r) :
    Hits name sleep r.attempt := by
  intro f
  rw [play_attempt]
  exact h f

end Closure

variable {sleep : Pause → Fleet → Answer × Fleet} (hsleep : Discreet name sleep) (crowd : Crowd)

/-- Changing the actor adds nothing. -/
theorem hits_change (change : Actor.Change) :
    Hits name sleep (ofAct ((stage crowd name).updateActor change)) := by
  refine hits_ofAct fun f => .of_eq ?_
  rw [updateActor_eq]
  exact ledger_change f name change

include hsleep

/-- A pause of a context adds nothing. -/
theorem hits_pause (hold : Hold) : Hits name sleep ((stage crowd name).pause hold) := by
  refine Hits.bind (hits_ofAct fun f => .of_eq rfl) fun c => ?_
  exact hits_rest hsleep _

/-- A hold at the edge adds nothing: the blocked move was recorded before it. -/
theorem hits_holdAtEdge : Hits name sleep (stage crowd name).holdAtEdge := by
  refine (hits_change crowd _).bind fun _ => ?_
  refine (hits_pause hsleep crowd .bounds).attempt.bind fun outcome => ?_
  refine Hits.bind ?_ fun _ => hits_ofExcept outcome
  exact (hits_change crowd _).bind fun _ => hits_ofExcept (.ok ())

/-- A move records that it is blocked, if anything. -/
theorem hits_move (sign : Int) : Hits name sleep ((stage crowd name).move sign) := by
  refine Hits.bind (hits_ofAct fun f => .of_eq rfl) fun c => ?_
  refine (hits_ofExcept (c.actor.value.target c.settings.grid sign)).bind fun target => ?_
  obtain ⟨x, y⟩ := target
  refine (hits_ofExcept (c.settings.grid.excludes x.view y.view)).bind fun out => ?_
  cases out with
  | true =>
      have hnoted : Hits name sleep
          (ofAct ((stage crowd name).record (.boundsHit c.actor.value x y))) :=
        hits_ofAct fun f => ⟨[.boundsHit c.actor.value x y], by simp [Occurrence.isHit],
          ledger_note f name _⟩
      exact hnoted.bind fun _ => (hits_holdAtEdge hsleep crowd).bind fun _ =>
        hits_pause hsleep crowd .step
  | false => exact (hits_change crowd _).bind fun _ => hits_pause hsleep crowd .step

/-- A turn adds nothing. -/
theorem hits_turn (degrees : Int) : Hits name sleep ((stage crowd name).turn degrees) := by
  refine Hits.bind (hits_ofAct fun f => .of_eq rfl) fun actor => ?_
  refine (hits_ofExcept (actor.turned degrees)).bind fun angle => ?_
  exact (hits_change crowd _).bind fun _ => hits_pause hsleep crowd .step

/-- A basic command records blocked moves only. -/
theorem hits_basic (b : Basic) : Hits name sleep ((stage crowd name).runCommand 0 (.basic b)) := by
  have hcounted : Hits name sleep (ofAct (stage crowd name).countAction) :=
    hits_ofAct fun f => .of_eq (ledger_counted f name)
  refine Hits.bind ?_ fun _ => hcounted
  cases b.deed with
  | moveForward => exact hits_move hsleep crowd 1
  | moveBack => exact hits_move hsleep crowd (-1)
  | turnRight => exact hits_turn hsleep crowd 90
  | turnLeft => exact hits_turn hsleep crowd (-90)
  | custom custom => exact hits_ofExcept (.ok ())

/-- Every stroke adds to the ledger what it says of itself. -/
theorem enact_notes (stroke : Stroke) (f : Fleet) :
    ∃ occurrences, stroke.Notes occurrences ∧
      (((stage crowd name).enact stroke).play sleep f).2.ledger name =
        (f.ledger name).after occurrences stroke.shows := by
  have hrecord (occurrence : Occurrence) :
      ((ofAct ((stage crowd name).record occurrence)).play sleep f).2.ledger name =
        (f.ledger name).after [occurrence] [] := by
    rw [play_ofAct]
    exact ledger_note f name occurrence
  cases stroke with
  | moving =>
      refine ⟨[], rfl, ?_⟩
      have hplay : (((stage crowd name).enact .moving).play sleep f).2 =
          f.change name { isMoving := some true } :=
        congrArg Prod.snd (play_act_bind (updateActor_eq crowd name f _))
      rw [hplay, ledger_change]
      exact (Ledger.after_nil _).symm
  | point index =>
      refine ⟨[], rfl, ?_⟩
      have hplay : (((stage crowd name).enact (.point index)).play sleep f).2 =
          f.showIndex name (.index (Int.ofNat index)) :=
        (congrArg Prod.snd (play_ofAct sleep _ f)).trans
          (congrArg Prod.snd (setIndex_eq crowd name f _))
      rw [hplay]
      exact ledger_showIndex f name _
  | started index id => exact ⟨[.stepStarted index id], rfl, hrecord _⟩
  | missing index id => exact ⟨[.stepSkipped index id], rfl, hrecord _⟩
  | action b => exact hits_basic hsleep crowd b f
  | skipped id parent => exact ⟨[.childSkipped id parent], rfl, hrecord _⟩
  | refused id => exact ⟨[], rfl, (Ledger.after_nil _).symm⟩

end Blocks

end Fleet

/-! ## Blocks -/

/-- What is recorded inside a step: blocked moves, and one unknown child for each visit to one by
the strokes of the step, in the order of the visits. -/
structure Tells (strokes : List Stroke) (occurrences : List Occurrence) : Prop where
  inner : ∀ occurrence ∈ occurrences,
    occurrence.isHit = true ∨ occurrence.unknownChild?.isSome = true
  children : occurrences.filterMap Occurrence.unknownChild? =
    strokes.filterMap Stroke.unknownChild?

namespace Tells

/-- No strokes tell nothing. -/
theorem nil : Tells [] [] := ⟨List.forall_mem_nil _, rfl⟩

/-- Some strokes and more of them tell what both tell. -/
theorem append {strokes more : List Stroke} {occurrences others : List Occurrence}
    (h : Tells strokes occurrences) (hmore : Tells more others) :
    Tells (strokes ++ more) (occurrences ++ others) where
  inner := List.forall_mem_append.mpr ⟨h.inner, hmore.inner⟩
  children := by rw [List.filterMap_append, List.filterMap_append, h.children, hmore.children]

/-- A stroke inside a step tells what it notes. -/
theorem of_notes {stroke : Stroke} (hinner : stroke.isInner = true) {occurrences : List Occurrence}
    (h : stroke.Notes occurrences) : Tells [stroke] occurrences := by
  have hchild (occurrence : Occurrence) (hhit : occurrence.isHit = true) :
      occurrence.unknownChild? = none := by
    cases occurrence <;> first | rfl | cases hhit
  cases stroke with
  | action b =>
      refine ⟨fun occurrence hmem => .inl (h occurrence hmem), ?_⟩
      exact List.filterMap_eq_nil_iff.mpr fun occurrence hmem => hchild _ (h occurrence hmem)
  | skipped id parent =>
      obtain rfl : occurrences = _ := h
      exact ⟨by simp [Occurrence.unknownChild?], rfl⟩
  | refused id =>
      obtain rfl : occurrences = _ := h
      exact ⟨List.forall_mem_nil _, rfl⟩
  | moving | point _ | started _ _ | missing _ _ => cases hinner

end Tells

/-- How a program ends that has an outcome. -/
def Outcome.ended : Outcome → Except Fault Unit
  | .completed => .ok ()
  | .aborted cause => .error cause

/-- A step of a run that was begun: its strokes in the course of the run begin with the first and
end before the next, and some occurrences were recorded meanwhile. -/
structure Block where
  first : Nat
  next : Nat
  occurrences : List Occurrence

namespace Course

variable (course : Course)

/-- The strokes from one on, before another one. -/
def between (i j : Nat) : List Stroke := (course.strokes.drop i).take (j - i)

/-- What is recorded of a step: that its id is unknown in the catalog where it is looked up, or
that the step started, and then what is recorded inside it. -/
def IsBlock (index : Nat) (id : Phrase) (block : Block) : Prop :=
  match (course.catalog (block.first + 1)).named id with
  | none => block.occurrences = [.stepSkipped index id]
  | some _ => ∃ inner, block.occurrences = .stepStarted index id :: inner ∧
      Tells (course.between (block.first + 2) block.next) inner

/-- The blocks of the steps of a program from a position on: one for each step up to the end of the
program, or up to the step that raises a fault. -/
inductive Log (course : Course) :
    (index : Nat) → List Phrase → (i j : Nat) → Except Fault Unit → List Block → Prop
  | done (index i : Nat) : Log course index [] i i (.ok ()) []
  | step {index i k j : Nat} {id : Phrase} {rest : List Phrase} {ended : Except Fault Unit}
      {occurrences : List Occurrence} {blocks : List Block}
      (hstep : course.step index id i k (.ok ()))
      (hblock : course.IsBlock index id ⟨i, k, occurrences⟩)
      (hrest : Log course (index + 1) rest k j ended blocks) :
      Log course index (id :: rest) i j ended (⟨i, k, occurrences⟩ :: blocks)
  | broken {index i j : Nat} {id : Phrase} {rest : List Phrase} {fault : Fault}
      {occurrences : List Occurrence} (hstep : course.step index id i j (.error fault))
      (hblock : course.IsBlock index id ⟨i, j, occurrences⟩) :
      Log course index (id :: rest) i j (.error fault) [⟨i, j, occurrences⟩]

variable {course}

/-- There is a block for every step of a program that was done. -/
theorem Log.length_of_ok {index i j : Nat} {ids : List Phrase} {blocks : List Block}
    (h : course.Log index ids i j (.ok ()) blocks) : blocks.length = ids.length := by
  generalize hended : (Except.ok () : Except Fault Unit) = ended at h
  induction h with
  | done => rfl
  | step _ _ _ ih => rw [List.length_cons, List.length_cons, ih hended]
  | broken => cases hended

/-- The last block of a program that raised a fault is that of the step that raised it. -/
theorem Log.last_of_error {index i j : Nat} {ids : List Phrase} {blocks : List Block}
    {fault : Fault} (h : course.Log index ids i j (.error fault) blocks) :
    ∃ position first id, blocks.length = position + 1 ∧ ids[position]? = some id ∧
      course.step (index + position) id first j (.error fault) := by
  generalize hended : (Except.error fault : Except Fault Unit) = ended at h
  induction h with
  | done => cases hended
  | @step index _ _ _ _ _ _ _ _ _ _ _ ih =>
      obtain ⟨position, first, id, hlength, hid, hstep⟩ := ih hended
      have hposition : index + 1 + position = index + (position + 1) := by omega
      rw [hposition] at hstep
      exact ⟨position + 1, first, id, congrArg (· + 1) hlength, hid, hstep⟩
  | broken hstep _ =>
      cases hended
      exact ⟨0, _, _, rfl, rfl, hstep⟩

/-- Between a moment and itself there are no strokes. -/
theorem between_self (i : Nat) : course.between i i = [] := by
  simp [between]

/-- The strokes between two moments are those up to a moment in between and those from it on. -/
theorem between_append {i j k : Nat} (hij : i ≤ j) (hjk : j ≤ k) :
    course.between i k = course.between i j ++ course.between j k := by
  obtain ⟨m, rfl⟩ := Nat.exists_eq_add_of_le hij
  obtain ⟨n, rfl⟩ := Nat.exists_eq_add_of_le hjk
  unfold between
  rw [Nat.add_sub_cancel_left, Nat.add_sub_cancel_left, Nat.add_assoc, Nat.add_sub_cancel_left,
    List.take_add, List.drop_drop]

/-- Between two moments next to each other there is one stroke. -/
theorem between_one {i : Nat} {stroke : Stroke} (h : course.strokes[i]? = some stroke) :
    course.between i (i + 1) = [stroke] := by
  unfold between
  rw [Nat.add_sub_cancel_left, List.take_one, List.head?_drop, h]
  rfl

end Course

/-! ## Courses -/

/-- A part says that another one takes place. -/
def Part.Within (whole part : Part) : Prop := ∀ i j ended, part i j ended → whole i j ended

namespace Part

variable {whole : Part}

/-- What holds along each of two parts holds along both. -/
theorem within_andThen {first second : Part}
    (htrans : ∀ {i k j ended}, whole i k (.ok ()) → whole k j ended → whole i j ended)
    (hfirst : whole.Within first) (hsecond : whole.Within second) :
    whole.Within (first.andThen second) := by
  rintro i j ended (⟨k, h, hrest⟩ | ⟨fault, rfl, h⟩)
  · exact htrans (hfirst _ _ _ h) (hsecond _ _ _ hrest)
  · exact hfirst _ _ _ h

/-- Parts one after the other lie within a whole that can be put together of parts within it. -/
theorem within_inTurn (hrefl : ∀ i, whole i i (.ok ()))
    (htrans : ∀ {i k j ended}, whole i k (.ok ()) → whole k j ended → whole i j ended)
    {parts : List Part} (h : ∀ part ∈ parts, whole.Within part) :
    whole.Within (inTurn parts) := by
  induction parts with
  | nil =>
      rintro i j ended ⟨rfl, rfl⟩
      exact hrefl _
  | cons part rest ih =>
      exact within_andThen htrans (h part List.mem_cons_self)
        (ih fun p hp => h p (List.mem_cons_of_mem _ hp))

end Part

/-- What holds of every stroke inside a step, and along parts in sequence, holds of commands. -/
theorem Course.within_command {course : Course} {whole : Part} (hrefl : ∀ i, whole i i (.ok ()))
    (htrans : ∀ {i k j ended}, whole i k (.ok ()) → whole k j ended → whole i j ended)
    (hone : ∀ stroke : Stroke, stroke.isInner = true → whole.Within (course.one stroke))
    (levels : Nat) (command : Command) : whole.Within (course.command levels command) := by
  induction levels generalizing command with
  | zero =>
      cases command with
      | basic b => exact hone (.action b) rfl
      | loop l => exact hone (.refused l.id) rfl
  | succ levels ih =>
      cases command with
      | basic b => exact hone (.action b) rfl
      | loop l =>
          refine Part.within_inTurn hrefl htrans fun part hpart => ?_
          rw [List.eq_of_mem_replicate hpart]
          intro i j ended hrepetition
          refine Part.within_inTurn hrefl htrans (fun visit hvisit => ?_) i j ended hrepetition
          obtain ⟨id, -, rfl⟩ := List.mem_map.mp hvisit
          intro i j ended hchild
          unfold Course.visit Course.child at hchild
          cases hnamed : (course.catalog i).named id with
          | none =>
              rw [hnamed] at hchild
              exact hone (.skipped id l.id) rfl i j ended hchild
          | some child =>
              rw [hnamed] at hchild
              exact ih child i j ended hchild

namespace Stage

open Routine

variable {σ : Type} {stage : Stage σ} {sleep : Pause → σ → Answer × σ} {strokes : List Stroke}
  {start : σ} {i : Nat} {stroke : Stroke}

/-- Strokes are carried out up to one that begins. -/
def Arrives (stage : Stage σ) (sleep : Pause → σ → Answer × σ) (strokes : List Stroke) (start : σ)
    (i : Nat) : Prop :=
  ((stage.recite (strokes.take i)).play sleep start).1 = .ok ()

/-- A stroke that begins is carried out from its moment. -/
theorem recite_of_arrives (h : stage.Arrives sleep strokes start i)
    (hstroke : strokes[i]? = some stroke) :
    (stage.recite (strokes.take (i + 1))).play sleep start =
      (stage.enact stroke).play sleep (stage.moment sleep strokes start i) := by
  have hone : stage.recite [stroke] = stage.enact stroke := Routine.bind_done _
  have hplay : (stage.recite (strokes.take i)).play sleep start =
      (.ok (), stage.moment sleep strokes start i) := Prod.ext h rfl
  rw [List.take_add_one, hstroke, Option.toList_some, recite_append, hone]
  show ((stage.recite (strokes.take i)).bind _).play sleep start = _
  rw [play_bind, hplay]

/-- After a stroke that raises nothing the next one begins. -/
theorem Arrives.next (h : stage.Arrives sleep strokes start i)
    (hstroke : strokes[i]? = some stroke)
    (hended : (stage.course sleep strokes start).outcome i = .ok ()) :
    stage.Arrives sleep strokes start (i + 1) := by
  unfold Arrives
  rw [recite_of_arrives h hstroke, ← outcome_course hstroke, hended]

end Stage

namespace Fleet

open Routine Stage

section Courses

variable (crowd : Crowd) (name : String) (sleep : Pause → Fleet → Answer × Fleet)
  (strokes : List Stroke) (start : Fleet)

/-- The ledger when a stroke begins. -/
def ledgerAt (i : Nat) : Ledger := ((stage crowd name).moment sleep strokes start i).ledger name

/-- Along a part that begins, what is added to the ledger tells the strokes of the part. -/
structure Told (i j : Nat) (ended : Except Fault Unit) : Prop where
  le : i ≤ j
  arrives : (stage crowd name).Arrives sleep strokes start i → ended = .ok () →
    (stage crowd name).Arrives sleep strokes start j
  tells : (stage crowd name).Arrives sleep strokes start i → ∃ occurrences,
    Tells (((stage crowd name).course sleep strokes start).between i j) occurrences ∧
      ledgerAt crowd name sleep strokes start j =
        (ledgerAt crowd name sleep strokes start i).after occurrences []

variable {crowd name sleep strokes start} {i j k : Nat} {ended : Except Fault Unit}

/-- Between a moment and itself nothing is told. -/
theorem Told.refl (i : Nat) : Told crowd name sleep strokes start i i (.ok ()) where
  le := Nat.le_refl i
  arrives h _ := h
  tells _ := ⟨[], by rw [Course.between_self]; exact .nil, (Ledger.after_nil _).symm⟩

/-- What is told up to a moment and from it on is told in all. -/
theorem Told.trans (h : Told crowd name sleep strokes start i k (.ok ()))
    (hrest : Told crowd name sleep strokes start k j ended) :
    Told crowd name sleep strokes start i j ended where
  le := Nat.le_trans h.le hrest.le
  arrives hi hended := hrest.arrives (h.arrives hi rfl) hended
  tells hi := by
    obtain ⟨first, hfirst, hk⟩ := h.tells hi
    obtain ⟨second, hsecond, hj⟩ := hrest.tells (h.arrives hi rfl)
    refine ⟨first ++ second, ?_, ?_⟩
    · rw [Course.between_append h.le hrest.le]
      exact hfirst.append hsecond
    · rw [hj, hk, Ledger.after_after]
      rfl

variable (hsleep : Discreet name sleep)

include hsleep

/-- A stroke that begins adds to the ledger what it says of itself. -/
theorem ledgerAt_next {stroke : Stroke} (hi : (stage crowd name).Arrives sleep strokes start i)
    (hstroke : strokes[i]? = some stroke) :
    ∃ occurrences, stroke.Notes occurrences ∧ ledgerAt crowd name sleep strokes start (i + 1) =
      (ledgerAt crowd name sleep strokes start i).after occurrences stroke.shows := by
  obtain ⟨occurrences, hnotes, hledger⟩ := enact_notes hsleep crowd stroke
    ((stage crowd name).moment sleep strokes start i)
  rw [← recite_of_arrives hi hstroke] at hledger
  exact ⟨occurrences, hnotes, hledger⟩

/-- A stroke inside a step tells itself. -/
theorem told_one {stroke : Stroke} (hinner : stroke.isInner = true) :
    Part.Within (Told crowd name sleep strokes start)
      (((stage crowd name).course sleep strokes start).one stroke) := by
  rintro i j ended ⟨hstroke, rfl, rfl⟩
  refine ⟨Nat.le_succ i, fun hi hended => hi.next hstroke hended, fun hi => ?_⟩
  obtain ⟨occurrences, hnotes, hledger⟩ := ledgerAt_next hsleep hi hstroke
  have hshows : stroke.shows = [] := by
    cases stroke <;> first | rfl | cases hinner
  rw [hshows] at hledger
  refine ⟨occurrences, ?_, hledger⟩
  rw [Course.between_one hstroke]
  exact .of_notes hinner hnotes

/-- A command tells itself. -/
theorem told_command (levels : Nat) (command : Command) :
    Part.Within (Told crowd name sleep strokes start)
      (((stage crowd name).course sleep strokes start).command levels command) :=
  Course.within_command Told.refl Told.trans (fun _ hinner => told_one hsleep hinner) levels command

/-- A stroke outside of deeds raises nothing: the next one begins, and the ledger says so. -/
theorem arrives_next {stroke : Stroke} (hi : (stage crowd name).Arrives sleep strokes start i)
    (hone : ((stage crowd name).course sleep strokes start).one stroke i j ended)
    {occurrences : List Occurrence} (hnotes : ∀ noted, stroke.Notes noted → noted = occurrences)
    (hsafe : ∀ f, (((stage crowd name).enact stroke).play sleep f).1 = .ok ()) :
    j = i + 1 ∧ ended = .ok () ∧ (stage crowd name).Arrives sleep strokes start j ∧
      ledgerAt crowd name sleep strokes start j =
        (ledgerAt crowd name sleep strokes start i).after occurrences stroke.shows := by
  obtain ⟨hstroke, rfl, rfl⟩ := hone
  change strokes[i]? = some stroke at hstroke
  have hended : ((stage crowd name).course sleep strokes start).outcome i = .ok () := by
    rw [outcome_course hstroke]
    exact hsafe _
  obtain ⟨noted, hnoted, hledger⟩ := ledgerAt_next hsleep hi hstroke
  rw [hnotes noted hnoted] at hledger
  exact ⟨rfl, hended, hi.next hstroke hended, hledger⟩

/-- A step of a program adds its block to the ledger, after its position was shown. -/
theorem step_log {index : Nat} {id : Phrase}
    (hi : (stage crowd name).Arrives sleep strokes start i)
    (hstep : ((stage crowd name).course sleep strokes start).step index id i j ended) :
    ∃ occurrences, ((stage crowd name).course sleep strokes start).IsBlock index id
        ⟨i, j, occurrences⟩ ∧
      ledgerAt crowd name sleep strokes start j =
        (ledgerAt crowd name sleep strokes start i).after occurrences
          [.index (Int.ofNat index)] ∧
      (ended = .ok () → (stage crowd name).Arrives sleep strokes start j) := by
  have hplay {act : Act Fleet Unit} (hact : ∀ f, (act f).1 = .ok ()) (f : Fleet) :
      ((ofAct act).play sleep f).1 = .ok () := by
    rw [play_ofAct]
    exact hact f
  have hpoint (f : Fleet) : (((stage crowd name).enact (.point index)).play sleep f).1 = .ok () :=
    hplay (fun f => congrArg Prod.fst (setIndex_eq crowd name f _)) f
  have hnotes {stroke : Stroke} {occurrences : List Occurrence}
      (h : stroke.Notes = fun noted => noted = occurrences) (noted : List Occurrence)
      (hnoted : stroke.Notes noted) : noted = occurrences := by
    rw [h] at hnoted
    exact hnoted
  rcases hstep with ⟨k, hone, htaken⟩ | ⟨fault, rfl, hone⟩
  · obtain ⟨rfl, -, hshown, hledger⟩ := arrives_next hsleep hi hone (hnotes rfl) hpoint
    unfold Course.taken at htaken
    unfold Course.IsBlock
    dsimp only
    cases hnamed : (((stage crowd name).course sleep strokes start).catalog (i + 1)).named id with
    | none =>
        rw [hnamed] at htaken
        obtain ⟨rfl, hended, hnext, hmissing⟩ := arrives_next hsleep hshown htaken (hnotes rfl)
          (hplay fun f => congrArg Prod.fst (record_eq crowd name f _))
        refine ⟨_, rfl, ?_, fun _ => hnext⟩
        rw [hmissing, hledger, Ledger.after_after]
        rfl
    | some command =>
        rw [hnamed] at htaken
        rcases htaken with ⟨k, hone, -, hcommand⟩ | ⟨fault, rfl, hone⟩
        · obtain ⟨rfl, -, hentered, hstarted⟩ := arrives_next hsleep hshown hone (hnotes rfl)
            (hplay fun f => congrArg Prod.fst (record_eq crowd name f _))
          have htold := told_command hsleep _ command _ _ _ hcommand
          obtain ⟨inner, htells, hinner⟩ := htold.tells hentered
          refine ⟨.stepStarted index id :: inner, ⟨inner, rfl, htells⟩, ?_, htold.arrives hentered⟩
          rw [hinner, hstarted, hledger, Ledger.after_after, Ledger.after_after]
          rfl
        · obtain ⟨-, hended, -, -⟩ := arrives_next hsleep hshown hone (hnotes rfl)
            (hplay fun f => congrArg Prod.fst (record_eq crowd name f _))
          cases hended
  · obtain ⟨-, hended, -, -⟩ := arrives_next hsleep hi hone (hnotes rfl) hpoint
    cases hended

/-- The steps of a program add their blocks to the ledger, and show their positions. -/
theorem steps_log {index : Nat} {ids : List Phrase}
    (hi : (stage crowd name).Arrives sleep strokes start i)
    (hsteps : Part.inTurn (((stage crowd name).course sleep strokes start).steps index ids) i j
      ended) :
    ∃ blocks, ((stage crowd name).course sleep strokes start).Log index ids i j ended blocks ∧
      ledgerAt crowd name sleep strokes start j =
        (ledgerAt crowd name sleep strokes start i).after (blocks.flatMap Block.occurrences)
          ((List.range' index blocks.length).map fun position => .index (Int.ofNat position)) := by
  -- On the program; a step that raises nothing leads to where the next one begins.
  induction ids generalizing index i with
  | nil =>
      obtain ⟨rfl, rfl⟩ := hsteps
      exact ⟨[], .done index _, (Ledger.after_nil _).symm⟩
  | cons id rest ih =>
      rcases hsteps with ⟨k, hstep, hrest⟩ | ⟨fault, rfl, hstep⟩
      · obtain ⟨occurrences, hblock, hledger, hnext⟩ := step_log hsleep hi hstep
        obtain ⟨blocks, hlog, hafter⟩ := ih (hnext rfl) hrest
        refine ⟨⟨i, k, occurrences⟩ :: blocks, .step hstep hblock hlog, ?_⟩
        rw [hafter, hledger, Ledger.after_after]
        rfl
      · obtain ⟨occurrences, hblock, hledger, -⟩ := step_log hsleep hi hstep
        refine ⟨[⟨i, j, occurrences⟩], .broken hstep hblock, ?_⟩
        rw [hledger, List.flatMap_singleton]
        rfl

end Courses

/-! ## Whole runs -/

section Runs

variable (f : Fleet) (name : String)

/-- A run that is begun has a ledger of its own, with its start as the only entry. -/
theorem ledger_begun (run : RunId) (ids : List Phrase) :
    (f.begun name run ids).ledger name =
      { f.ledger name with run := some run, entries := [(run, .runStarted ids)] } := by
  unfold ledger
  rw [begun, contexts_alter_self]
  rfl

/-- Clearing adds the idle position to the ledger. -/
theorem ledger_cleared :
    (f.cleared name).ledger name = (f.ledger name).after [] [.index idleIndex] := by
  have hidle (g : Fleet) : (g.alter name fun c => { c with phase := .idle }).ledger name =
      g.ledger name := by
    unfold ledger
    rw [contexts_alter_self]
    rfl
  rw [cleared, hidle, ledger_change, ledger_showIndex]

/-- Concluding adds the end of the run, and the ledger belongs to no run any more. -/
theorem ledger_concluded (outcome : Outcome) :
    (f.concluded name outcome).ledger name =
      { (f.ledger name).after
          [Stage.closing outcome (f.contexts name).actionsCompleted] [] with run := none } := by
  rw [concluded_eq, ← ledger_note]
  unfold ledger
  rw [contexts_alter_self]
  rfl

/-- The events of a result are those of the ledger that the run leaves. -/
theorem entries_concluded (run : RunId) (outcome : Outcome) :
    ((f.concluded name outcome).ledger name).entries =
      (f.resultOf name run outcome).events.map fun event => (event.run, event.occurrence) := by
  show ((f.concluded name outcome).contexts name).events.map _ = _
  rw [concluded, contexts_alter_self]
  rfl

/-- A program that has an outcome ended so. -/
theorem ended_of_outcomeOf {ended : Except Fault Unit} {outcome : Outcome}
    (h : Stage.outcomeOf ended = .ok outcome) : ended = outcome.ended := by
  cases ended with
  | ok u =>
      cases h
      rfl
  | error fault =>
      unfold Stage.outcomeOf at h
      dsimp only at h
      by_cases hordinary : fault.isOrdinary = true
      · rw [if_pos hordinary] at h
        cases h
        rfl
      · rw [if_neg hordinary] at h
        cases h

/-- Events that are all entered under one run are its events. -/
theorem events_of_entries {events : List Event} {run : RunId} {occurrences : List Occurrence}
    (h : events.map (fun event => (event.run, event.occurrence)) =
      occurrences.map fun occurrence => (run, occurrence)) :
    events.map Event.occurrence = occurrences ∧ ∀ event ∈ events, event.run = run := by
  constructor
  · have hsnd := congrArg (List.map Prod.snd) h
    simpa [List.map_map, Function.comp_def] using hsnd
  · intro event hevent
    have hentry : (event.run, event.occurrence) ∈
        occurrences.map fun occurrence => (run, occurrence) := by
      rw [← h]
      exact List.mem_map_of_mem hevent
    obtain ⟨_, _, heq⟩ := List.mem_map.mp hentry
    exact (congrArg Prod.fst heq).symm

/-- What happens at pauses is discreet, if it is only that they are answered and that the catalog
is edited. -/
theorem rested_discreet (interlude : Interlude) : Discreet name (rested interlude name) := by
  intro p f
  unfold ledger rested
  dsimp only
  rw [contexts_alter_self]
  rfl

end Runs

/-- The strokes of a program add the blocks of its steps to the ledger, and show their positions. -/
theorem program_log (crowd : Crowd) (name : String) {sleep : Pause → Fleet → Answer × Fleet}
    (hsleep : Discreet name sleep) (start : Fleet) (ids : List Phrase) :
    ∃ (strokes : List Stroke) (ended : Except Fault Unit) (blocks : List Block) (g : Fleet),
      ((stage crowd name).runProgram ids).play sleep start = (ended, g) ∧
        ((stage crowd name).recite strokes).play sleep start = (ended, g) ∧
        ((stage crowd name).course sleep strokes start).program ids 0 strokes.length ended ∧
        ((stage crowd name).course sleep strokes start).Log 0 ids 1 strokes.length ended blocks ∧
        g.ledger name = (start.ledger name).after (blocks.flatMap Block.occurrences)
          ((List.range blocks.length).map fun position => .index (Int.ofNat position)) := by
  have hplace : (stage crowd name).context.Lawful := place_lawful name
  obtain ⟨strokes, hplay, hpart⟩ := Stage.program_follows sleep hplace ids start
  have hprogram := hpart [] [] start rfl
  rw [List.nil_append, List.append_nil, List.length_nil, Nat.zero_add] at hprogram
  cases hplayed : ((stage crowd name).runProgram ids).play sleep start with
  | mk ended g =>
      rw [hplayed] at hplay hprogram
      have hend : ledgerAt crowd name sleep strokes start strokes.length = g.ledger name := by
        unfold ledgerAt Stage.moment
        rw [List.take_length, ← hplay]
      have hmove (f : Fleet) : (((stage crowd name).enact .moving).play sleep f).1 = .ok () :=
        congrArg Prod.fst (play_act_bind (updateActor_eq crowd name f _))
      have hbegins : (stage crowd name).Arrives sleep strokes start 0 := rfl
      rcases hprogram with ⟨k, hmoving, hsteps⟩ | ⟨fault, rfl, hmoving⟩
      · obtain ⟨rfl, -, hfirst, hmoved⟩ :=
          arrives_next hsleep hbegins hmoving (fun _ hnoted => hnoted) hmove
        obtain ⟨blocks, hlog, hledger⟩ := steps_log hsleep hfirst hsteps
        refine ⟨strokes, ended, blocks, g, rfl, hplay.symm, .inl ⟨1, hmoving, hsteps⟩, hlog, ?_⟩
        rw [← hend, hledger, hmoved, Ledger.after_after, List.range_eq_range']
        rfl
      · obtain ⟨-, hended, -, -⟩ :=
          arrives_next hsleep hbegins hmoving (fun _ hnoted => hnoted) hmove
        cases hended

/-- The log of a run is well formed, and tells the truth about the run.  In a discreet world, if a
run ends with a result, then its events are the start of the run, one block for each step that was
begun, and one end, all under the id of the run.  The blocks are those of all steps if the run was
completed, and else those up to the step that raised the fault; in a block a step is unknown, or it
is started, and then moves are blocked, and unknown children are skipped once for each visit to
them, in the order of the visits on the course of the run.  The positions of these steps are shown
to those who observe them, and after them that no step is active. -/
theorem execute_log (crowd : Crowd) (name : String) {sleep : Pause → Fleet → Answer × Fleet}
    (hsleep : Discreet name sleep) {f after : Fleet} {run : RunId} {ids : List Phrase}
    {result : RunResult}
    (hplayed : ((stage crowd name).execute run ids).play sleep f = (.ok result, after)) :
    ∃ (strokes : List Stroke) (blocks : List Block),
      let begun := f.begun name run ids
      let course := (stage crowd name).course sleep strokes begun
      ((stage crowd name).runProgram ids).play sleep begun =
          ((stage crowd name).recite strokes).play sleep begun ∧
        course.program ids 0 strokes.length result.outcome.ended ∧
        course.Log 0 ids 1 strokes.length result.outcome.ended blocks ∧
        (result.outcome = .completed → blocks.length = ids.length) ∧
        (∀ cause, result.outcome = .aborted cause → ∃ position first id,
          blocks.length = position + 1 ∧ ids[position]? = some id ∧
            course.step position id first strokes.length (.error cause)) ∧
        result.events.map Event.occurrence =
          .runStarted ids :: blocks.flatMap Block.occurrences ++
            [Stage.closing result.outcome result.stepsExecuted] ∧
        (∀ event ∈ result.events, event.run = result.run) ∧
        (after.ledger name).shown = (f.ledger name).shown ++
          ((List.range blocks.length).map (fun position => Position.index (Int.ofNat position)) ++
            [Position.index idleIndex]).flatMap fun position =>
              (f.contexts name).activeIndex.observers.map fun observer => (observer, position) := by
  have hidle : (f.contexts name).phase = .idle := by
    cases hphase : (f.contexts name).phase with
    | idle => rfl
    | running =>
        rw [execute_play_of_running crowd name f sleep run ids hphase] at hplayed
        cases hplayed
  rw [execute_play_of_idle crowd name f sleep run ids hidle] at hplayed
  obtain ⟨strokes, ended, blocks, g, hplay, hrecite, hprogram, hlog, hledger⟩ :=
    program_log crowd name hsleep (f.begun name run ids) ids
  rw [hplay] at hplayed
  unfold Fleet.finished at hplayed
  cases houtcome : Stage.outcomeOf ended with
  | error fault =>
      rw [houtcome] at hplayed
      cases hplayed
  | ok outcome =>
      rw [houtcome] at hplayed
      obtain ⟨hresult, hafter⟩ := Prod.mk.inj hplayed
      cases hresult
      subst hafter
      obtain rfl : ended = outcome.ended := ended_of_outcomeOf houtcome
      have hleft := ledger_concluded (g.cleared name) name outcome
      rw [ledger_cleared, hledger, ledger_begun, Ledger.after_after, Ledger.after_after] at hleft
      let steps := ((g.cleared name).contexts name).actionsCompleted
      have hentries : ((g.cleared name).resultOf name run outcome).events.map
            (fun event => (event.run, event.occurrence)) =
          (.runStarted ids :: blocks.flatMap Block.occurrences ++ [Stage.closing outcome steps]).map
            fun occurrence => (run, occurrence) := by
        rw [← entries_concluded, hleft]
        simp [Ledger.after, steps]
      obtain ⟨hevents, hruns⟩ := events_of_entries hentries
      refine ⟨strokes, blocks, hplay.trans hrecite.symm, hprogram, hlog, fun hcompleted => ?_,
        fun cause haborted => ?_, hevents, hruns, ?_⟩
      · obtain rfl : outcome = .completed := hcompleted
        exact hlog.length_of_ok
      · obtain rfl : outcome = .aborted cause := haborted
        obtain ⟨position, first, id, hlength, hid, hstep⟩ := hlog.last_of_error
        rw [Nat.zero_add] at hstep
        exact ⟨position, first, id, hlength, hid, hstep⟩
      · rw [hleft]
        simp [Ledger.after, ledger]

/-- A fleet with an actor at the edge, and a loop in it that goes to an unknown child and ahead. -/
def stumbling : Fleet where
  contexts _ :=
    { catalog := {
        commands := [
          .basic { id := "ahead", deed := .moveForward },
          .loop { id := "around", repeats := 2, children := ["ghost", "ahead"] }]
        distinct := by decide }
      actor := ⟨{ angle := 180 }, []⟩
      activeIndex := ⟨.index idleIndex, ["watcher"]⟩ }

/-- Every pause succeeds but the fourth one, and at each of them the loop is edited. -/
def tripping : Interlude where
  answer pauses _ := if pauses.length = 3 then .error (.raised .runtime none) else .ok ()
  edit _ _ catalog :=
    match catalog.updateLoop "around" { children := some ["ahead", "ghost"] } with
    | .ok (_, edited) => edited
    | .error _ => catalog

/-- A run that meets an unknown id, two unknown children and two blocked moves, and then a fault, as
its log tells.  The third step is not begun. -/
theorem execute_log_stumbling :
    ∃ (result : RunResult) (blocks : List Block),
      result.events.map (fun event => event.occurrence.type) =
        ["RUN_STARTED", "STEP_SKIPPED", "STEP_STARTED", "STEP_SKIPPED", "BOUNDS_HIT", "BOUNDS_HIT",
          "RUN_ABORTED"] ∧
      result.events.map Event.occurrence =
        .runStarted ["nobody", "around", "ahead"] :: blocks.flatMap Block.occurrences ++
          [Stage.closing result.outcome result.stepsExecuted] := by
  have htypes : (((stage .quiet "a").execute (.ofNat 0) ["nobody", "around", "ahead"]).play
      (rested tripping "a") stumbling).1.toOption.map
        (fun result => result.events.map fun event => event.occurrence.type) =
      some ["RUN_STARTED", "STEP_SKIPPED", "STEP_STARTED", "STEP_SKIPPED", "BOUNDS_HIT",
        "BOUNDS_HIT", "RUN_ABORTED"] := by
    decide +kernel
  cases hplayed : ((stage .quiet "a").execute (.ofNat 0) ["nobody", "around", "ahead"]).play
      (rested tripping "a") stumbling with
  | mk played after =>
      rw [hplayed] at htypes
      cases played with
      | error fault => cases htypes
      | ok result =>
          obtain ⟨_, blocks, -, -, -, -, -, hevents, -⟩ :=
            execute_log .quiet "a" (rested_discreet "a" tripping) hplayed
          exact ⟨result, blocks, Option.some.inj htypes, hevents⟩

end Fleet

end Gridwalk
