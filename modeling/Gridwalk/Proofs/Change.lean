import Gridwalk.Actor

/-!
# What changes do to an actor

A change gives values to some fields of an actor, integers and truth values or foreign ones, and
leaves the others alone.  So a changed actor shows the given values in the fields that the change
names, and in all others what it showed before (`Actor.shown_apply_eq`).
-/

set_option autoImplicit false

namespace Gridwalk.Actor

variable {change : Change} {field : Field}

/-- The value that a change gives to a field, if it names it. -/
def Change.given? (change : Change) (field : Field) : Option Json :=
  match change.foreign.lookup field with
  | some value => some value
  | none =>
      match field with
      | .x => change.x.map .int
      | .y => change.y.map .int
      | .angle => change.angle.map .int
      | .isMoving => change.isMoving.map .bool
      | .isHittingBounds => change.isHittingBounds.map .bool

/-- A change gives values to the fields that it names. -/
theorem isSome_given? : (change.given? field).isSome = change.names field := by
  unfold Change.given? Change.names
  cases hlookup : change.foreign.lookup field with
  | some value => rfl
  | none => cases field <;> simp

/-- The foreign values of a changed actor are those of the change, and its own where the change
names nothing. -/
theorem lookup_foreign_apply (actor : Actor) :
    (actor.apply change).foreign.lookup field =
      (change.foreign.lookup field).or
        (if change.names field then none else actor.foreign.lookup field) := by
  have hkept : (actor.foreign.filter fun entry => !change.names entry.1).lookup field =
      if change.names field then none else actor.foreign.lookup field := by
    induction actor.foreign with
    | nil => simp
    | cons entry rest ih =>
        obtain ⟨other, value⟩ := entry
        rw [List.filter_cons]
        by_cases hother : field = other
        · subst hother
          cases hnames : change.names field <;> simp [hnames, ih]
        · have hne : (field == other) = false := beq_eq_false_iff_ne.mpr hother
          cases hnames : change.names other <;> simp [List.lookup_cons, hne, ih]
  show (change.foreign ++ _).lookup field = _
  rw [List.lookup_append, hkept]

/-- A changed actor shows what the change gives, and the rest as before. -/
theorem shown_apply_eq (actor : Actor) :
    (actor.apply change).shown field = (change.given? field).getD (actor.shown field) := by
  unfold shown Change.given?
  rw [lookup_foreign_apply]
  unfold Change.names
  cases hlookup : change.foreign.lookup field with
  | some value => rfl
  | none =>
      cases field with
      | x => cases hx : change.x <;> simp [apply, hx]
      | y => cases hy : change.y <;> simp [apply, hy]
      | angle => cases hangle : change.angle <;> simp [apply, hangle]
      | isMoving => cases hmoving : change.isMoving <;> simp [apply, hmoving]
      | isHittingBounds => cases hhitting : change.isHittingBounds <;> simp [apply, hhitting]

/-- A field that a change does not name is shown as before. -/
theorem shown_apply (h : change.names field = false) (actor : Actor) :
    (actor.apply change).shown field = actor.shown field := by
  have hnone : change.given? field = none := by
    rw [← Option.not_isSome_iff_eq_none, isSome_given?, h]
    exact Bool.false_ne_true
  rw [shown_apply_eq, hnone, Option.getD_none]

/-- A field that a change names is shown as the change says, whatever it was. -/
theorem shown_apply_of_names (h : change.names field = true) (actor other : Actor) :
    (actor.apply change).shown field = (other.apply change).shown field := by
  rw [← isSome_given?] at h
  obtain ⟨value, hvalue⟩ := Option.isSome_iff_exists.mp h
  rw [shown_apply_eq, shown_apply_eq, hvalue, Option.getD_some, Option.getD_some]

end Gridwalk.Actor
