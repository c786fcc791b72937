import Gridwalk.Actor
import Gridwalk.Json.Reader
import Gridwalk.Text.Encoding
import Gridwalk.Text.Lenient

/-!
# Checking what a request holds

The fields of a request's body and of its query are checked one by one; all complaints are
collected, in the order of the fields.  An integer may be given as a JSON integer, a truth
value, a number without fraction, or a text with a numeral in it, which may end in a point
and zeros.  A truth value may also be given as zero or one or as a word.  Fields that are
not asked for are ignored.
-/

set_option autoImplicit false

namespace Gridwalk.Http

/-- What is wrong with a value. -/
inductive Flaw where
  | missing
  | malformed
  | notAnObject
  | notAnInteger
  | unreadableInteger
  | fraction
  | notFinite
  | tooLarge
  | negative
  | notAList
  | notAText
  | notATruth
  | unreadableTruth
  deriving DecidableEq, Repr

/-- The name of a flaw. -/
def Flaw.type : Flaw → String
  | .missing => "missing"
  | .malformed => "json_invalid"
  | .notAnObject => "model_attributes_type"
  | .notAnInteger => "int_type"
  | .unreadableInteger => "int_parsing"
  | .fraction => "int_from_float"
  | .notFinite => "finite_number"
  | .tooLarge => "int_parsing_size"
  | .negative => "greater_than_equal"
  | .notAList => "list_type"
  | .notAText => "string_type"
  | .notATruth => "bool_type"
  | .unreadableTruth => "bool_parsing"

/-- What is told about a flaw. -/
def Flaw.message : Flaw → String
  | .missing => "Field required"
  | .malformed => "JSON decode error"
  | .notAnObject => "Input should be a valid dictionary or object to extract fields from"
  | .notAnInteger => "Input should be a valid integer"
  | .unreadableInteger =>
      "Input should be a valid integer, unable to parse string as an integer"
  | .fraction => "Input should be a valid integer, got a number with a fractional part"
  | .notFinite => "Input should be a finite number"
  | .tooLarge => "Unable to parse input string as an integer, exceeded maximum size"
  | .negative => "Input should be greater than or equal to 0"
  | .notAList => "Input should be a valid list"
  | .notAText => "Input should be a valid string"
  | .notATruth => "Input should be a valid boolean"
  | .unreadableTruth => "Input should be a valid boolean, unable to interpret input"

/-- A step on the way to a value. -/
inductive Step where
  | name (key : String)
  | index (position : Nat)
  deriving DecidableEq, Repr

/-- The written form of a step. -/
def Step.view : Step → Json
  | .name key => .text key
  | .index position => .int (Int.ofNat position)

/-- A flaw, where it is, and the value that has it. -/
structure Complaint where
  flaw : Flaw
  location : List Step
  given : Json
  deriving DecidableEq, Repr

/-- The written form of a complaint, without the value. -/
def Complaint.view (c : Complaint) : Json :=
  .obj [("type", .text c.flaw.type), ("loc", .arr (c.location.map Step.view)),
    ("msg", .text c.flaw.message)]

/-- A value that was checked, or what is wrong with it. -/
abbrev Checked (α : Type) : Type := Except (List Complaint) α

/-- Two values that were checked, the complaints of both together. -/
def Checked.both {α β : Type} : Checked α → Checked β → Checked (α × β)
  | .ok a, .ok b => .ok (a, b)
  | .error c, .ok _ => .error c
  | .ok _, .error d => .error d
  | .error c, .error d => .error (c ++ d)

/-- The integer that a value holds. -/
def integer : Json → Except Flaw Int
  | .int n => .ok n
  | .bool b => .ok (if b then 1 else 0)
  | .real r =>
      match r.whole with
      | .ok n => .ok n
      | .error .fraction => .error .fraction
      | .error .notFinite => .error .notFinite
      | .error .tooLarge => .error .tooLarge
  | .text s =>
      match Text.Lenient.integer s with
      | .ok n => .ok n
      | .error .unreadable => .error .unreadableInteger
      | .error .tooLong => .error .tooLarge
  | .str (.torn _) => .error .unreadableInteger
  | _ => .error .notAnInteger

/-- The integer that a value holds, if it is not negative. -/
def natural (value : Json) : Except Flaw Int := do
  let n ← integer value
  if n < 0 then .error .negative else .ok n

/-- The words for a truth value, in lower case. -/
def truthWords : List (String × Bool) :=
  [("1", true), ("t", true), ("true", true), ("y", true), ("yes", true), ("on", true),
    ("0", false), ("f", false), ("false", false), ("n", false), ("no", false), ("off", false)]

/-- The truth value that a value holds: itself, a number that is zero or one, or a word. -/
def truth : Json → Except Flaw Bool
  | .bool b => .ok b
  | .text s =>
      match truthWords.lookup (s.map Char.toLower) with
      | some b => .ok b
      | none => .error .unreadableTruth
  | .str (.torn _) => .error .unreadableTruth
  | .null => .error .notATruth
  | .arr _ => .error .notATruth
  | .obj _ => .error .notATruth
  | number =>
      match integer number with
      | .ok 0 => .ok false
      | .ok 1 => .ok true
      | _ => .error .unreadableTruth

/-- Complaints about the items of a list that are no texts. -/
def nonTexts (location : List Step) (items : List Json) : List Complaint :=
  items.zipIdx.filterMap fun (item, index) =>
    match item with
    | .str _ => none
    | _ => some ⟨.notAText, location ++ [.index index], item⟩

/-- The items of a list that are texts. -/
def textItems (items : List Json) : List Phrase :=
  items.filterMap fun
    | .str s => some s
    | _ => none

/-- The list of texts that a value is. -/
def textList (location : List Step) : Json → Checked (List Phrase)
  | .arr items =>
      let complaints := nonTexts location items
      if complaints.isEmpty then .ok (textItems items) else .error complaints
  | value => .error [⟨.notAList, location, value⟩]

/-- Where a field of a body is. -/
def bodyField (name : String) : List Step := [.name "body", .name name]

/-- A field of an object, or a value in its place if the object has none. -/
def fieldOr {α : Type} (members : List (Phrase × Json)) (name : String) (fallback : α)
    (check : Json → Checked α) : Checked α :=
  match Json.lookup members name with
  | none => .ok fallback
  | some value => check value

/-- A field of an object that may also be null, which counts as missing. -/
def optionalField {α : Type} (members : List (Phrase × Json)) (name : String)
    (check : Json → Checked α) : Checked (Option α) :=
  fieldOr members name none fun
    | .null => .ok none
    | value => (check value).map some

/-- A check of a value at a place. -/
def located {α : Type} (location : List Step) (check : Json → Except Flaw α) (value : Json) :
    Checked α :=
  (check value).mapError fun flaw => [⟨flaw, location, value⟩]

/-- Why the body of a request is not read. -/
inductive Unread where
  /-- It is no JSON text; reading stopped at a position. -/
  | malformed (position : Nat)
  /-- It is no text at all, or asks for too much. -/
  | unreadable
  deriving DecidableEq, Repr

/-- How deep a body may be nested. -/
def deepestBody : Nat := 959

/-- What the reader of a body keeps to. -/
def bodyLimits : Json.Limits where
  levels := some deepestBody
  digits := some Text.Numeral.mostDigits

/-- The letters of a body, whose encoding shows in its first bytes.  A byte order mark in front
of UTF-8 is overlooked. -/
def bodyLetters? (text : String) : Option (List Text.Letter) :=
  let cs := text.toList
  match Text.Encoding.ofBytes ((cs.take 4).flatMap Text.Utf8.encode) with
  | .utf8 => some ((if cs.head? == some '\uFEFF' then cs.tail else cs).map .char)
  | encoding => encoding.decode? (cs.flatMap Text.Utf8.encode)

/-- Why a text is not read that the reader of bodies refuses. -/
def Unread.ofRefusal : Json.Refusal → Unread
  | .malformed position => .malformed position
  | .excess => .unreadable

/-- The JSON value of a body; nothing if the body is missing or empty. -/
def readBody (body : Option String) : Except Unread (Option Json) :=
  match body with
  | none => .ok none
  | some text =>
      if text.isEmpty then .ok none
      else
        match bodyLetters? text with
        | none => .error .unreadable
        | some cs => ((Json.readLetters bodyLimits cs).mapError Unread.ofRefusal).map some

/-- The members of the object that a body is. -/
def objectBody : Option Json → Checked (List (Phrase × Json))
  | none => .error [⟨.missing, [.name "body"], .null⟩]
  | some (.obj members) => .ok members
  | some value => .error [⟨.notAnObject, [.name "body"], value⟩]

/-- A field of an actor, or a value in its place if it is missing. -/
def actorField {α : Type} (members : List (Phrase × Json)) (field : Actor.Field) (fallback : α)
    (check : Json → Except Flaw α) : Checked α :=
  fieldOr members field.name fallback (located [.name field.name] check)

/-- The actor whose fields the members of an object give. -/
def actorOf (members : List (Phrase × Json)) : Checked Actor := do
  let position :=
    (actorField members .x 0 integer).both
      ((actorField members .y 0 integer).both (actorField members .angle 0 integer))
  let flags :=
    (actorField members .isMoving false truth).both
      (actorField members .isHittingBounds false truth)
  let ((x, y, angle), isMoving, isHittingBounds) ← position.both flags
  pure { x, y, angle, isMoving, isHittingBounds }

/-- Complaints about both values are complaints about the pair, and there are no others. -/
theorem Checked.both_eq_ok_iff {α β : Type} {a : Checked α} {b : Checked β} {x : α} {y : β} :
    Checked.both a b = .ok (x, y) ↔ a = .ok x ∧ b = .ok y := by
  cases a <;> cases b <;> simp [Checked.both]

end Gridwalk.Http
