import Gridwalk.Http.Service
import Gridwalk.Proofs.RoutineContracts

/-!
# What the body of a request gives

A body gives something if it is read as an object whose members are as they should be.  This is said
here without the checks of the service: `GivesEdit`, `GivesStart` and `GivesProgram` say what the
members of an object give for each of the routes that read a body, and the checks accept exactly
that (`loopEdit_eq_ok_iff`, `startCell_eq_ok_iff`, `program_eq_ok_iff`).

A body that gives nothing is refused, in one of three ways (`Refused`).  In an open session the
fields are checked before anything else is done (`answerRoute_of_bears`, `answerRoute_refused`).
-/

set_option autoImplicit false

namespace Gridwalk.Http

open Routine

/-! ## Members of an object -/

/-- A member of an object gives what is read from it, or a value in its place if it is missing. -/
def Gives {α : Type} (members : List (Phrase × Json)) (name : String) (reads : Json → α → Prop)
    (fallback a : α) : Prop :=
  Json.lookup members name = none ∧ a = fallback ∨
    ∃ value, Json.lookup members name = some value ∧ reads value a

/-- Nothing is read from null, and something from other values. -/
inductive OrNull {α : Type} (reads : Json → α → Prop) : Json → Option α → Prop
  | null : OrNull reads .null none
  | other {value : Json} {a : α} (hvalue : value ≠ .null) (h : reads value a) :
      OrNull reads value (some a)

/-- A value holds an integer. -/
def HoldsInteger (value : Json) (n : Int) : Prop := integer value = .ok n

/-- A value holds an integer that is not negative. -/
def HoldsNatural (value : Json) (n : Int) : Prop := integer value = .ok n ∧ 0 ≤ n

/-- A value is a list of texts. -/
def HoldsTexts (value : Json) (texts : List Phrase) : Prop := value = .texts texts

/-- The members of an object give an edit of a loop. -/
structure GivesEdit (members : List (Phrase × Json)) (edit : Loop.Edit) : Prop where
  repeats : Gives members "repeats" (OrNull HoldsNatural) none edit.repeats
  children : Gives members "children" (OrNull HoldsTexts) none edit.children

/-- The members of an object give a position and an angle. -/
structure GivesStart (members : List (Phrase × Json)) (start : Int × Int × Int) : Prop where
  x : Gives members "x" HoldsInteger 0 start.1
  y : Gives members "y" HoldsInteger 0 start.2.1
  angle : Gives members "angle" HoldsInteger 0 start.2.2

/-- The members of an object give a program. -/
def GivesProgram (members : List (Phrase × Json)) (ids : List Phrase) : Prop :=
  Gives members "command_ids" HoldsTexts [] ids

/-- No edit makes the number of repetitions negative. -/
theorem GivesEdit.repeats_nonneg {members : List (Phrase × Json)} {edit : Loop.Edit}
    (h : GivesEdit members edit) : ∀ n ∈ edit.repeats, 0 ≤ n := by
  intro n hn
  rcases h.repeats with ⟨-, hnone⟩ | ⟨value, -, hvalue⟩
  · rw [hnone] at hn
    cases hn
  · rw [Option.mem_def.mp hn] at hvalue
    cases hvalue with
    | other _ hnatural => exact hnatural.2

/-! ## What the checks accept -/

section Checks

variable {α : Type} (members : List (Phrase × Json)) (name : String)

/-- A field is accepted if its check accepts what the member holds. -/
theorem fieldOr_eq_ok_iff {check : Json → Checked α} {reads : Json → α → Prop}
    (hcheck : ∀ value a, check value = .ok a ↔ reads value a) (fallback a : α) :
    fieldOr members name fallback check = .ok a ↔ Gives members name reads fallback a := by
  unfold fieldOr Gives
  cases Json.lookup members name with
  | none => simp [eq_comm]
  | some value => simp [hcheck]

/-- The check of a field that may be null accepts null, and what the check of the field accepts. -/
theorem optionalField_eq_ok_iff {check : Json → Checked α} {reads : Json → α → Prop}
    (hcheck : ∀ value a, check value = .ok a ↔ reads value a) (a : Option α) :
    optionalField members name check = .ok a ↔ Gives members name (OrNull reads) none a := by
  refine fieldOr_eq_ok_iff members name (fun value a => ?_) none a
  split
  next =>
    constructor
    · rintro h
      cases h
      exact .null
    · rintro (_ | ⟨hvalue, -⟩)
      · rfl
      · exact absurd rfl hvalue
  next hvalue =>
    constructor
    · intro h
      cases hchecked : check value with
      | error complaints =>
          rw [hchecked] at h
          cases h
      | ok b =>
          rw [hchecked] at h
          cases h
          exact .other hvalue ((hcheck value b).mp hchecked)
    · rintro (_ | ⟨-, h⟩)
      · exact absurd rfl hvalue
      · rw [(hcheck value _).mpr h]
        rfl

/-- A check at a place accepts what it accepts anywhere. -/
theorem located_eq_ok_iff (location : List Step) (check : Json → Except Flaw α) (value : Json)
    (a : α) : located location check value = .ok a ↔ check value = .ok a := by
  unfold located
  cases check value with
  | ok b => constructor <;> intro h <;> cases h <;> rfl
  | error flaw => constructor <;> intro h <;> cases h

/-- A number of repeats is read if the value holds one. -/
theorem natural_eq_ok_iff (value : Json) (n : Int) :
    natural value = .ok n ↔ HoldsNatural value n := by
  unfold natural HoldsNatural
  cases integer value with
  | error flaw => simp [bind, Except.bind]
  | ok m =>
      by_cases hm : m < 0
      · simp only [bind, Except.bind, if_pos hm, Except.ok.injEq]
        refine ⟨nofun, ?_⟩
        rintro ⟨rfl, h⟩
        omega
      · simp only [bind, Except.bind, if_neg hm, Except.ok.injEq]
        refine ⟨?_, And.left⟩
        rintro rfl
        exact ⟨rfl, by omega⟩

/-- A list has no complaints exactly if its items are the texts that it is read as. -/
theorem nonTexts_eq_nil_iff (location : List Step) (items : List Json) :
    nonTexts location items = [] ↔ items = (textItems items).map .str := by
  unfold nonTexts
  rw [List.filterMap_eq_nil_iff]
  constructor
  · intro h
    have hall : ∀ item ∈ items, ∃ s, item = .str s := by
      intro item hitem
      obtain ⟨index, hindex⟩ := List.mem_iff_getElem?.mp hitem
      have hcomplaint := h (item, index) (List.mk_mem_zipIdx_iff_getElem?.mpr hindex)
      cases item with
      | str s => exact ⟨s, rfl⟩
      | null => cases hcomplaint
      | bool b => cases hcomplaint
      | int n => cases hcomplaint
      | real r => cases hcomplaint
      | arr items => cases hcomplaint
      | obj members => cases hcomplaint
    clear h
    induction items with
    | nil => rfl
    | cons item rest ih =>
        obtain ⟨s, rfl⟩ := hall item List.mem_cons_self
        have hrest := ih fun item hitem => hall item (List.mem_cons_of_mem _ hitem)
        exact congrArg (List.cons (Json.str s)) hrest
  · rintro h ⟨item, index⟩ hitem
    have hmem : item ∈ items :=
      List.mem_iff_getElem?.mpr ⟨index, List.mk_mem_zipIdx_iff_getElem?.mp hitem⟩
    rw [h] at hmem
    obtain ⟨s, -, rfl⟩ := List.mem_map.mp hmem
    rfl

/-- The texts of a list are its items. -/
theorem textItems_map_str (texts : List Phrase) : textItems (texts.map .str) = texts := by
  induction texts with
  | nil => rfl
  | cons s rest ih => exact congrArg (List.cons s) ih

/-- A value is accepted as a list of texts if it is one. -/
theorem textList_eq_ok_iff (location : List Step) (value : Json) (texts : List Phrase) :
    textList location value = .ok texts ↔ HoldsTexts value texts := by
  unfold HoldsTexts Json.texts
  cases value with
  | arr items =>
      have hempty := nonTexts_eq_nil_iff location items
      show (if (nonTexts location items).isEmpty then Except.ok (textItems items)
        else .error (nonTexts location items)) = .ok texts ↔ _
      rw [Json.arr.injEq]
      by_cases hnone : nonTexts location items = []
      · rw [if_pos (List.isEmpty_iff.mpr hnone), Except.ok.injEq]
        have hitems := hempty.mp hnone
        constructor
        · rintro rfl
          exact hitems
        · rintro rfl
          exact textItems_map_str texts
      · rw [if_neg (fun h => hnone (List.isEmpty_iff.mp h))]
        refine ⟨nofun, ?_⟩
        rintro rfl
        exact absurd (hempty.mpr (by rw [textItems_map_str])) hnone
  | _ => exact ⟨nofun, nofun⟩

/-- The check of a loop's edit accepts what gives an edit. -/
theorem loopEdit_eq_ok_iff (members : List (Phrase × Json)) (edit : Loop.Edit) :
    loopEdit members = .ok edit ↔ GivesEdit members edit := by
  have hrepeats := optionalField_eq_ok_iff members "repeats" fun value n =>
    (located_eq_ok_iff (bodyField "repeats") natural value n).trans (natural_eq_ok_iff value n)
  have hchildren := optionalField_eq_ok_iff members "children"
    (textList_eq_ok_iff (bodyField "children"))
  have hmap (both : Checked (Option Int × Option (List Phrase))) :
      (both.map fun pair => (⟨pair.1, pair.2⟩ : Loop.Edit)) = .ok edit ↔
        both = .ok (edit.repeats, edit.children) := by
    cases both with
    | error complaints => constructor <;> intro h <;> cases h
    | ok pair =>
        obtain ⟨repeats, children⟩ := pair
        cases edit
        simp [Except.map]
  refine (hmap _).trans (Checked.both_eq_ok_iff.trans ?_)
  rw [hrepeats, hchildren]
  exact ⟨fun h => ⟨h.1, h.2⟩, fun h => ⟨h.1, h.2⟩⟩

/-- The check of a start accepts what gives a position and an angle. -/
theorem startCell_eq_ok_iff (members : List (Phrase × Json)) (start : Int × Int × Int) :
    startCell members = .ok start ↔ GivesStart members start := by
  have hfield (name : String) (n : Int) :
      integerField members name = .ok n ↔ Gives members name HoldsInteger 0 n :=
    fieldOr_eq_ok_iff members name (located_eq_ok_iff (bodyField name) integer) 0 n
  obtain ⟨x, y, angle⟩ := start
  unfold startCell
  rw [Checked.both_eq_ok_iff, Checked.both_eq_ok_iff, hfield, hfield, hfield]
  exact ⟨fun h => ⟨h.1, h.2.1, h.2.2⟩, fun h => ⟨h.1, h.2, h.3⟩⟩

/-- The check of a program accepts what gives a program. -/
theorem program_eq_ok_iff (members : List (Phrase × Json)) (ids : List Phrase) :
    program members = .ok ids ↔ GivesProgram members ids :=
  fieldOr_eq_ok_iff members "command_ids" (textList_eq_ok_iff (bodyField "command_ids")) [] ids

end Checks

/-! ## Bodies -/

/-- The body of a request gives something: it is read as an object whose members do. -/
def Request.Bears {α : Type} (request : Request) (gives : List (Phrase × Json) → α → Prop)
    (a : α) : Prop :=
  ∃ members, readBody request.body = .ok (some (.obj members)) ∧ gives members a

section Bodies

variable {α : Type} (request : Request) (check : List (Phrase × Json) → Checked α)

/-- Whether a check accepts what the body of a request holds. -/
def Request.isTaken : Bool :=
  match readBody request.body with
  | .ok (some (.obj members)) => (check members).isOk
  | _ => false

/-- What is wrong with a body that is read, or that is no JSON text. -/
def Request.complaints : List Complaint :=
  match readBody request.body with
  | .error (.malformed position) => [⟨.malformed, [.name "body", .index position], .obj []⟩]
  | .error .unreadable => []
  | .ok value =>
      match objectBody value >>= check with
      | .ok _ => []
      | .error complaints => complaints

/-- How a request is refused for its body. -/
inductive Refused : Response → Prop
  /-- The body is no text, or asks for too much. -/
  | unreadable (hread : readBody request.body = .error .unreadable) :
      Refused (.detail 400 "There was an error parsing the body")
  /-- All that is wrong is told. -/
  | told (hread : readBody request.body ≠ .error .unreadable)
      (hall : ∀ complaint ∈ request.complaints check, Response.isTellable complaint = true) :
      Refused ⟨422, .json (.obj
        [("detail", .arr ((request.complaints check).map Complaint.view))])⟩
  /-- A complaint cannot be sent, since it takes the value along that it is about. -/
  | untold {complaint : Complaint} (hmem : complaint ∈ request.complaints check)
      (huntold : Response.isTellable complaint = false) : Refused .failure

variable {request check}

/-- A body is accepted exactly if it gives something. -/
theorem Request.isTaken_iff {gives : List (Phrase × Json) → α → Prop}
    (hcheck : ∀ members a, check members = .ok a ↔ gives members a) :
    request.isTaken check = true ↔ ∃ a, request.Bears gives a := by
  unfold isTaken Bears
  constructor
  · intro h
    split at h
    next members hread =>
      cases hchecked : check members with
      | ok a => exact ⟨a, members, hread, (hcheck members a).mp hchecked⟩
      | error complaints =>
          rw [hchecked] at h
          cases h
    next => cases h
  · rintro ⟨a, members, hread, hgives⟩
    rw [hread]
    simp only [(hcheck members a).mpr hgives, Except.isOk, Except.toBool]

/-- Complaints about what was read are told, or one of them is not told. -/
theorem refused_invalid (hread : readBody request.body ≠ .error .unreadable) :
    Refused request check (.invalid (request.complaints check)) := by
  unfold Response.invalid
  split
  next hall => exact .told hread (List.all_eq_true.mp hall)
  next hsome =>
    rw [Bool.not_eq_true, List.all_eq_false] at hsome
    obtain ⟨complaint, hmem, huntold⟩ := hsome
    exact .untold hmem (Bool.not_eq_true _ ▸ huntold)

end Bodies

/-! ## In an open session -/

section Open

variable {α : Type} {request : Request} {check : List (Phrase × Json) → Checked α}
  {gives : List (Phrase × Json) → α → Prop}
  (hcheck : ∀ members a, check members = .ok a ↔ gives members a)
  {route : Route} {fresh : Fresh} {session : Session} {k : α → Routine Site Response}
  (hreads : route.readsBody = true)
  (hanswer : ∀ body, answer Place.whole fresh session.id request body route =
    withChecked (objectBody body >>= check) k)
  {s : Site} (hopen : s.sessions.current = some session)

include hreads hanswer hopen

/-- What was read of a body is checked. -/
theorem answerRoute_reaches {body : Option Json} (hread : readBody request.body = .ok body) :
    Reaches (answerRoute Place.whole fresh request route) s
      (withChecked (objectBody body >>= check) k) s := by
  have hsite : Act.read (Place.whole : Place Site Site) s = (.ok s, s) := rfl
  unfold answerRoute
  simp only [hreads, if_true, hread]
  refine (reaches_act_bind hsite).trans ?_
  simp only [hopen, hanswer]
  exact .here _ _

include hcheck

/-- With what its body gives, a request is answered. -/
theorem answerRoute_of_bears {a : α} (h : request.Bears gives a) :
    Reaches (answerRoute Place.whole fresh request route) s (k a) s := by
  obtain ⟨members, hread, hgives⟩ := h
  have hchecked : (objectBody (some (.obj members)) >>= check) = .ok a :=
    (hcheck members a).mpr hgives
  have hreaches := answerRoute_reaches hreads hanswer hopen hread
  rw [hchecked] at hreaches
  exact hreaches

/-- A request whose body gives nothing is refused, and changes nothing. -/
theorem answerRoute_refused (h : ∀ a, ¬request.Bears gives a) :
    ∃ response, Refused request check response ∧
      Reaches (answerRoute Place.whole fresh request route) s (.done response) s := by
  cases hread : readBody request.body with
  | error why =>
      have hunread : answerRoute Place.whole fresh request route = .done (.unread why) := by
        unfold answerRoute
        simp only [hreads, if_true, hread]
        rfl
      rw [hunread]
      refine ⟨_, ?_, .here _ _⟩
      cases why with
      | unreadable => exact .unreadable hread
      | malformed position =>
          have hcomplaints : request.complaints check =
              [⟨.malformed, [.name "body", .index position], .obj []⟩] := by
            unfold Request.complaints
            rw [hread]
          rw [show Response.unread (.malformed position) = .invalid (request.complaints check) by
            rw [hcomplaints]; rfl]
          exact refused_invalid (by rw [hread]; nofun)
  | ok body =>
      have hreaches := answerRoute_reaches hreads hanswer hopen hread
      cases hchecked : objectBody body >>= check with
      | error complaints =>
          have hcomplaints : request.complaints check = complaints := by
            unfold Request.complaints
            simp only [hread, hchecked]
          rw [hchecked] at hreaches
          refine ⟨.invalid complaints, ?_, hreaches⟩
          rw [← hcomplaints]
          exact refused_invalid (by rw [hread]; nofun)
      | ok a =>
          cases body with
          | none => cases hchecked
          | some value =>
              cases value with
              | obj members => exact absurd ⟨members, hread, (hcheck members a).mp hchecked⟩ (h a)
              | _ => cases hchecked

end Open

end Gridwalk.Http
