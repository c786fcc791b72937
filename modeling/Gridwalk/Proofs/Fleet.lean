import Gridwalk.Dispatch
import Mathlib.Logic.Function.Basic

/-!
# Fleets of contexts

A fleet is any number of contexts over one store, together with what can be seen of them from
outside: what their observers were told, and the pauses that were made.  A `Crowd` says how
observers react, possibly with ordinary faults, given everything that was told before.  A pause
is noted, and is answered at once (`Fleet.pace`), maybe while the catalog is edited
(`Fleet.rested`), or left open (`Fleet.suspend`).

On a stage of a fleet every act has one result, and it leaves a fleet that is written down
here without observers and faults; the lemmas that end in `_eq` say so.  The stages give no
meaning to custom deeds, which do nothing.
-/

set_option autoImplicit false

namespace Gridwalk

/-- The children that a loop has in a catalog: those of the catalog's loop of its id, or its own
if there is none. -/
def Catalog.childrenOf (catalog : Catalog) (l : Loop) : List Phrase :=
  match catalog.lookup l.id with
  | some (.loop current) => current.children
  | _ => l.children

/-- A loop of the catalog's has the children that it has in the catalog. -/
theorem Catalog.childrenOf_eq_of_lookup {catalog : Catalog} {l : Loop}
    (h : catalog.lookup l.id = some (.loop l)) : catalog.childrenOf l = l.children := by
  unfold childrenOf
  rw [h]

/-- Reading the children of a loop succeeds and changes nothing. -/
theorem Stage.childrenNow_eq {σ : Type} (stage : Stage σ) (l : Loop) (s : σ) :
    stage.childrenNow l s = (.ok ((stage.context.get s).catalog.childrenOf l), s) := by
  show (match (stage.context.get s).catalog.lookup l.id with
    | some (.loop current) => Act.pure current.children
    | _ => Act.pure l.children) s = _
  unfold Catalog.childrenOf
  cases (stage.context.get s).catalog.lookup l.id with
  | none => rfl
  | some command => cases command <;> rfl

/-- An observer of a context was told something. -/
structure Telling where
  context : String
  observer : String
  notice : Notice

/-- How observers react to what they are told, given what was told before; if they fail, then
with ordinary faults. -/
structure Crowd where
  react : List Telling → Telling → Except Fault Unit
  mild : ∀ earlier telling fault,
    react earlier telling = .error fault → fault.isOrdinary = true

/-- Observers that never fail. -/
def Crowd.quiet : Crowd where
  react _ _ := .ok ()
  mild := by
    intro earlier telling fault h
    cases h

/-- What happens while a run pauses, in view of the pauses before: how the pause is answered, and
how the catalog is edited meanwhile. -/
structure Interlude where
  answer : List Pause → Pause → Answer
  edit : List Pause → Pause → Catalog → Catalog := fun _ _ catalog => catalog

/-- Contexts by name over one store, and what was seen of them. -/
structure Fleet where
  contexts : String → Context
  store : Store := {}
  /-- What observers were told, the newest first. -/
  told : List Telling := []
  /-- The pauses that were made, the newest first. -/
  pauses : List Pause := []

namespace Fleet

/-- Where the context of a name is kept. -/
def place (name : String) : Place Fleet Context where
  get f := f.contexts name
  set c f := { f with contexts := Function.update f.contexts name c }

/-- Where the store is kept. -/
def storePlace : Place Fleet Store where
  get f := f.store
  set store f := { f with store }

/-- The stage of the context of a name. -/
def stage (crowd : Crowd) (name : String) : Stage Fleet where
  owner := name
  context := place name
  observe observer notice f :=
    (crowd.react f.told ⟨name, observer, notice⟩,
      { f with told := ⟨name, observer, notice⟩ :: f.told })
  custom _ := .done ()

/-- The fleet after a pause was made. -/
def noted (f : Fleet) (p : Pause) : Fleet :=
  { f with pauses := p :: f.pauses }

/-- Notes a pause and leaves it open. -/
def suspend (p : Pause) (f : Fleet) : Option Answer × Fleet :=
  (none, f.noted p)

/-- In the background every pause is left open. -/
theorem suspend_open (p : Pause) (f : Fleet) : (suspend p f).1 = none := rfl

/-- Notes a pause and answers it at once. -/
def pace (answers : List Pause → Pause → Answer) (p : Pause) (f : Fleet) : Answer × Fleet :=
  (answers f.pauses p, f.noted p)

/-- The fleet with one context changed. -/
def alter (f : Fleet) (name : String) (g : Context → Context) : Fleet :=
  { f with contexts := Function.update f.contexts name (g (f.contexts name)) }

/-- Notes a pause of a context and answers it at once, while the catalog is edited. -/
def rested (interlude : Interlude) (name : String) (p : Pause) (f : Fleet) : Answer × Fleet :=
  (interlude.answer f.pauses p,
    (f.noted p).alter name fun c => { c with catalog := interlude.edit f.pauses p c.catalog })

/-- The fleet after observers of a context were told something. -/
def tell (f : Fleet) (name : String) (notice : Notice) (observers : List String) : Fleet :=
  { f with told := (observers.map fun observer => ⟨name, observer, notice⟩).reverse ++ f.told }

/-- The fleet after a new actor of a context was set and told. -/
def showActor (f : Fleet) (name : String) (actor : Actor) : Fleet :=
  (f.alter name fun c => { c with actor := { c.actor with value := actor } }).tell name
    (.actor actor) (f.contexts name).actor.observers

/-- The fleet after the actor of a context was changed. -/
def change (f : Fleet) (name : String) (change : Actor.Change) : Fleet :=
  f.showActor name ((f.contexts name).actor.value.apply change)

/-- The fleet after a new active position of a context was set and told. -/
def showIndex (f : Fleet) (name : String) (position : Position) : Fleet :=
  (f.alter name fun c => { c with activeIndex := { c.activeIndex with value := position } }).tell
    name (.activeIndex position) (f.contexts name).activeIndex.observers

/-- The fleet after an occurrence in a context was recorded. -/
def note (f : Fleet) (name : String) (occurrence : Occurrence) : Fleet :=
  f.alter name fun c => c.record occurrence

/-! ## What these fleets consist of -/

section Views

variable (f : Fleet) (name other : String)

/-- Altering one context of a fleet leaves the others. -/
theorem contexts_alter (g : Context → Context) :
    (f.alter name g).contexts other =
      if other = name then g (f.contexts name) else f.contexts other := by
  by_cases h : other = name
  · subst h
    simp [alter]
  · simp [alter, h]

/-- A context that is altered is what it is altered to. -/
@[simp] theorem contexts_alter_self (g : Context → Context) :
    (f.alter name g).contexts name = g (f.contexts name) := by
  simp [alter]

/-- A context is left alone when another one is altered. -/
theorem contexts_alter_of_ne (g : Context → Context) (h : other ≠ name) :
    (f.alter name g).contexts other = f.contexts other := by
  simp [alter, h]

/-- Nobody is told anything when a context is altered. -/
@[simp] theorem told_alter (g : Context → Context) : (f.alter name g).told = f.told := rfl

/-- No pause is made when a context is altered. -/
@[simp] theorem pauses_alter (g : Context → Context) : (f.alter name g).pauses = f.pauses := rfl

/-- Showing an actor puts it in its context. -/
@[simp] theorem contexts_showActor_self (actor : Actor) :
    (f.showActor name actor).contexts name =
      { f.contexts name with actor := { (f.contexts name).actor with value := actor } } := by
  simp [showActor, tell]

/-- Showing an actor leaves the other contexts alone. -/
theorem contexts_showActor_of_ne (actor : Actor) (h : other ≠ name) :
    (f.showActor name actor).contexts other = f.contexts other := by
  simp [showActor, tell, contexts_alter_of_ne, h]

/-- Showing an actor makes no pause. -/
@[simp] theorem pauses_showActor (actor : Actor) :
    (f.showActor name actor).pauses = f.pauses := rfl

/-- Showing an actor tells it to its observers, the first one first. -/
@[simp] theorem told_showActor (actor : Actor) :
    (f.showActor name actor).told =
      ((f.contexts name).actor.observers.map fun observer =>
        ⟨name, observer, .actor actor⟩).reverse ++ f.told := rfl

/-- Showing a position puts it in its context. -/
@[simp] theorem contexts_showIndex_self (position : Position) :
    (f.showIndex name position).contexts name =
      { f.contexts name with
        activeIndex := { (f.contexts name).activeIndex with value := position } } := by
  simp [showIndex, tell]

/-- Showing a position leaves the other contexts alone. -/
theorem contexts_showIndex_of_ne (position : Position) (h : other ≠ name) :
    (f.showIndex name position).contexts other = f.contexts other := by
  simp [showIndex, tell, contexts_alter_of_ne, h]

/-- Showing a position makes no pause. -/
@[simp] theorem pauses_showIndex (position : Position) :
    (f.showIndex name position).pauses = f.pauses := rfl

/-- Showing a position tells it to its observers, the first one first. -/
@[simp] theorem told_showIndex (position : Position) :
    (f.showIndex name position).told =
      ((f.contexts name).activeIndex.observers.map fun observer =>
        ⟨name, observer, .activeIndex position⟩).reverse ++ f.told := rfl

/-- What is noted leaves the actor alone. -/
theorem actor_note (occurrence : Occurrence) :
    ((f.note name occurrence).contexts name).actor = (f.contexts name).actor := by
  rw [note, contexts_alter_self, Context.actor_record]

/-- Recording counts nothing. -/
theorem actionsCompleted_note (occurrence : Occurrence) :
    ((f.note name occurrence).contexts name).actionsCompleted =
      (f.contexts name).actionsCompleted := by
  rw [note, contexts_alter_self, Context.actionsCompleted_record]

end Views

/-- A change without foreign values leaves an actor without foreign values without any. -/
theorem foreign_change {f : Fleet} {name : String}
    (hforeign : (f.contexts name).actor.value.foreign = []) (change : Actor.Change)
    (hchange : change.foreign = []) :
    ((f.change name change).contexts name).actor.value.foreign = [] := by
  rw [Fleet.change, contexts_showActor_self]
  exact Actor.foreign_apply hforeign hchange

/-! ## Acts on a stage -/

section Acts

variable (crowd : Crowd) (name : String) (f : Fleet)

/-- Observers are all told, whatever they fail at. -/
theorem tell_eq {α : Type} (shown : α → Notice) (value : α) (observers : List String) :
    Observable.tell (fun observer a => (stage crowd name).observe observer (shown a)) value
      observers f = (.ok (), f.tell name (shown value) observers) := by
  induction observers generalizing f with
  | nil => rfl
  | cons observer rest ih =>
      have hfirst : Act.tolerate ((stage crowd name).observe observer (shown value)) f =
          (.ok (), f.tell name (shown value) [observer]) := by
        cases hreact : crowd.react f.told ⟨name, observer, shown value⟩ with
        | ok u => simp [Act.tolerate, stage, hreact, tell]
        | error fault => simp [Act.tolerate, stage, hreact, tell, crowd.mild _ _ _ hreact]
      show Act.bind (Act.tolerate ((stage crowd name).observe observer (shown value))) _ f = _
      simp only [Act.bind, hfirst]
      rw [ih]
      simp [tell]

/-- Setting an observable of a context succeeds and tells it to those who observe it. -/
theorem set_eq {α : Type} {part : Place Context (Observable α)} (hpart : part.Lawful)
    (shown : α → Notice) (value : α) :
    Observable.set ((place name).inside part)
        (fun observer a => (stage crowd name).observe observer (shown a)) value f =
      (.ok (), (f.alter name fun c => part.set { part.get c with value } c).tell name
        (shown value) (part.get (f.contexts name)).observers) := by
  let g := f.alter name fun c => part.set { part.get c with value } c
  have hobservers : (part.get (g.contexts name)).observers =
      (part.get (f.contexts name)).observers := by
    simp [g, hpart.get_set]
  have hset : Observable.set ((place name).inside part)
        (fun observer a => (stage crowd name).observe observer (shown a)) value f =
      Observable.tell (fun observer a => (stage crowd name).observe observer (shown a)) value
        (part.get (g.contexts name)).observers g := rfl
  rw [hset, tell_eq, hobservers]

/-- On a stage of a fleet replacing the actor shows it. -/
theorem setActor_eq (actor : Actor) :
    (stage crowd name).setActor actor f = (.ok (), f.showActor name actor) :=
  set_eq crowd name f ⟨fun _ _ => rfl, fun _ => rfl, fun _ _ _ => rfl⟩ Notice.actor actor

/-- Changing the actor succeeds and shows the changed actor to all observers. -/
theorem updateActor_eq (change : Actor.Change) :
    (stage crowd name).updateActor change f =
      (.ok ((f.contexts name).actor.value.apply change), f.change name change) := by
  have h := setActor_eq crowd name f ((f.contexts name).actor.value.apply change)
  show Act.bind ((stage crowd name).setActor ((f.contexts name).actor.value.apply change))
    (fun _ => Act.pure _) f = _
  simp only [Act.bind, h]
  rfl

/-- Replacing the active position shows it. -/
theorem setIndex_eq (position : Position) :
    (stage crowd name).setIndex position f = (.ok (), f.showIndex name position) :=
  set_eq crowd name f ⟨fun _ _ => rfl, fun _ => rfl, fun _ _ _ => rfl⟩ Notice.activeIndex
    position

/-- Recording notes. -/
theorem record_eq (occurrence : Occurrence) :
    (stage crowd name).record occurrence f = (.ok (), f.note name occurrence) := rfl

/-- Reading gives the context. -/
theorem read_eq : (stage crowd name).read f = (.ok (f.contexts name), f) := rfl

/-- Looking a phrase up reads the catalog of the context. -/
theorem named_eq (id : Phrase) :
    (stage crowd name).named id f = (.ok ((f.contexts name).catalog.named id), f) := rfl

/-- The children of a loop are those that the catalog of the context has for it. -/
theorem childrenNow_eq (l : Loop) :
    (stage crowd name).childrenNow l f = (.ok ((f.contexts name).catalog.childrenOf l), f) :=
  (stage crowd name).childrenNow_eq l f

/-- Counting an action adds one to the count of the context. -/
theorem countAction_eq :
    (stage crowd name).countAction f =
      (.ok (), f.alter name fun c => { c with actionsCompleted := c.actionsCompleted + 1 }) := rfl

end Acts

end Fleet

end Gridwalk
