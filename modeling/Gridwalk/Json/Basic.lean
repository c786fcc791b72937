import Gridwalk.Json.Real
import Gridwalk.Phrase
import Gridwalk.Text.Numeral

/-!
# JSON values

A value is null, a truth value, an integer of any size, another number, a text, a list of
values, or an object: a list of members in the order in which their keys were first given.
`Json.insert` gives an object a member, replacing the value of a key that it already has.
-/

set_option autoImplicit false

namespace Gridwalk

/-- A JSON value. -/
inductive Json where
  | null
  | bool (b : Bool)
  | int (n : Int)
  | real (r : Real)
  | str (s : Phrase)
  | arr (items : List Json)
  | obj (members : List (Phrase × Json))
  deriving Inhabited, Repr

namespace Json

/-- A text of characters. -/
@[match_pattern] abbrev text (s : String) : Json := .str (.whole s)

mutual

/-- Decides whether two values are the same, members and all. -/
def decEq : (a b : Json) → Decidable (a = b)
  | .null, .null => .isTrue rfl
  | .bool a, .bool b => decidable_of_iff (a = b) (by simp)
  | .int a, .int b => decidable_of_iff (a = b) (by simp)
  | .real a, .real b => decidable_of_iff (a = b) (by simp)
  | .str a, .str b => decidable_of_iff (a = b) (by simp)
  | .arr a, .arr b => @decidable_of_iff _ (a = b) (by simp) (decEqItems a b)
  | .obj a, .obj b => @decidable_of_iff _ (a = b) (by simp) (decEqMembers a b)
  | .null, .bool _ | .null, .int _ | .null, .real _ | .null, .str _ | .null, .arr _
  | .null, .obj _ => .isFalse nofun
  | .bool _, .null | .bool _, .int _ | .bool _, .real _ | .bool _, .str _ | .bool _, .arr _
  | .bool _, .obj _ => .isFalse nofun
  | .int _, .null | .int _, .bool _ | .int _, .real _ | .int _, .str _ | .int _, .arr _
  | .int _, .obj _ => .isFalse nofun
  | .real _, .null | .real _, .bool _ | .real _, .int _ | .real _, .str _ | .real _, .arr _
  | .real _, .obj _ => .isFalse nofun
  | .str _, .null | .str _, .bool _ | .str _, .int _ | .str _, .real _ | .str _, .arr _
  | .str _, .obj _ => .isFalse nofun
  | .arr _, .null | .arr _, .bool _ | .arr _, .int _ | .arr _, .real _ | .arr _, .str _
  | .arr _, .obj _ => .isFalse nofun
  | .obj _, .null | .obj _, .bool _ | .obj _, .int _ | .obj _, .real _ | .obj _, .str _
  | .obj _, .arr _ => .isFalse nofun

/-- Decides whether two lists hold the same items. -/
def decEqItems : (a b : List Json) → Decidable (a = b)
  | [], [] => .isTrue rfl
  | [], _ :: _ => .isFalse nofun
  | _ :: _, [] => .isFalse nofun
  | a :: as, b :: bs =>
      match decEq a b, decEqItems as bs with
      | .isTrue h, .isTrue hs => .isTrue (by rw [h, hs])
      | .isFalse h, _ => .isFalse fun e => h (List.cons.inj e).1
      | _, .isFalse hs => .isFalse fun e => hs (List.cons.inj e).2

/-- Decides whether two lists hold the same members. -/
def decEqMembers : (a b : List (Phrase × Json)) → Decidable (a = b)
  | [], [] => .isTrue rfl
  | [], _ :: _ => .isFalse nofun
  | _ :: _, [] => .isFalse nofun
  | (k, a) :: as, (l, b) :: bs =>
      match (inferInstance : Decidable (k = l)), decEq a b, decEqMembers as bs with
      | .isTrue hk, .isTrue h, .isTrue hs => .isTrue (by rw [hk, h, hs])
      | .isFalse hk, _, _ => .isFalse fun e => hk (Prod.mk.inj (List.cons.inj e).1).1
      | _, .isFalse h, _ => .isFalse fun e => h (Prod.mk.inj (List.cons.inj e).1).2
      | _, _, .isFalse hs => .isFalse fun e => hs (List.cons.inj e).2

end

instance : DecidableEq Json := decEq

/-- The members of an object with one more, or with a new value for a key that is there. -/
def insert (members : List (Phrase × Json)) (key : Phrase) (value : Json) :
    List (Phrase × Json) :=
  match members with
  | [] => [(key, value)]
  | (k, v) :: rest => if k = key then (k, value) :: rest else (k, v) :: insert rest key value

/-- The value of a key among the members of an object. -/
def lookup (members : List (Phrase × Json)) (key : Phrase) : Option Json :=
  (members.find? fun member => member.1 = key).map Prod.snd

/-- The value of a key, if the value is an object that has it. -/
def get? : Json → Phrase → Option Json
  | .obj members, key => lookup members key
  | _, _ => none

/-- A list of phrases. -/
def texts (phrases : List Phrase) : Json :=
  .arr (phrases.map .str)

/-- A text, or null. -/
def text? (s : Option String) : Json :=
  (s.map Json.text).getD .null

mutual

/-- Whether a text, a number, a word or a key somewhere in a value passes a test. -/
def any (test : Json → Bool) : Json → Bool
  | .arr items => anyItem test items
  | .obj members => anyMember test members
  | leaf => test leaf

/-- Whether something in a list of values passes a test. -/
def anyItem (test : Json → Bool) : List Json → Bool
  | [] => false
  | item :: rest => any test item || anyItem test rest

/-- Whether something in a list of members passes a test. -/
def anyMember (test : Json → Bool) : List (Phrase × Json) → Bool
  | [] => false
  | (key, value) :: rest => test (.str key) || any test value || anyMember test rest

end

/-- Whether a torn phrase stands somewhere in a value. -/
def isTorn (value : Json) : Bool :=
  value.any fun
    | .str s => s.isTorn
    | _ => false

/-- Whether an integer with too many digits stands somewhere in a value. -/
def isVast (value : Json) : Bool :=
  value.any fun
    | .int n => Text.Numeral.isVast n
    | _ => false

/-- Whether all numbers in a value are finite. -/
def isFinite (value : Json) : Bool :=
  !value.any fun
    | .real r => !r.isFinite
    | _ => false

mutual

/-- A value with null in place of every number that is infinite or undefined. -/
def finitePart : Json → Json
  | .real r => if r.isFinite then .real r else .null
  | .arr items => .arr (finiteItems items)
  | .obj members => .obj (finiteMembers members)
  | leaf => leaf

/-- Items with null in place of every number that is infinite or undefined. -/
def finiteItems : List Json → List Json
  | [] => []
  | item :: rest => finitePart item :: finiteItems rest

/-- Members with null in place of every number that is infinite or undefined. -/
def finiteMembers : List (Phrase × Json) → List (Phrase × Json)
  | [] => []
  | (key, value) :: rest => (key, finitePart value) :: finiteMembers rest

end

mutual

/-- How many values stand inside each other at the deepest place of a value. -/
def depth : Json → Nat
  | .arr items => 1 + depthOfItems items
  | .obj members => 1 + depthOfMembers members
  | _ => 1

/-- The depth of the deepest item. -/
def depthOfItems : List Json → Nat
  | [] => 0
  | item :: rest => max (depth item) (depthOfItems rest)

/-- The depth of the deepest member. -/
def depthOfMembers : List (Phrase × Json) → Nat
  | [] => 0
  | (_, value) :: rest => max (depth value) (depthOfMembers rest)

end

mutual

/-- How many lists and objects stand inside each other at the deepest place of a value. -/
def nesting : Json → Nat
  | .arr items => 1 + nestingOfItems items
  | .obj members => 1 + nestingOfMembers members
  | _ => 0

/-- The nesting of the items of a list. -/
def nestingOfItems : List Json → Nat
  | [] => 0
  | item :: rest => max (nesting item) (nestingOfItems rest)

/-- The nesting of the members of an object. -/
def nestingOfMembers : List (Phrase × Json) → Nat
  | [] => 0
  | (_, value) :: rest => max (nesting value) (nestingOfMembers rest)

end

end Json

end Gridwalk
