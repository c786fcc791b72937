import Gridwalk.Json.Basic
import Gridwalk.Json.Shortest
import Gridwalk.Text.Digit

/-!
# The canonical text of a JSON value

`Json.render` writes a value with the members of every object in the order of their keys
by code point, a comma and a space between two items, a colon and a space after a key, and
every character outside U+0020 to U+007E behind a backslash: by a letter where JSON has
one, otherwise by the four hexadecimal digits of each of its UTF-16 units.  A real number
is written with the fewest digits that read back as it, and always with a point or an
exponent.  The text depends neither on the order in which keys were given nor on anything
else but the value.

Not every value can be written: lists and objects must not be nested too deep, and integers
must not have too many digits.  `Json.obstacle?` tells what a writer meets first.
-/

set_option autoImplicit false

namespace Gridwalk.Json

open Gridwalk.Text

/-- A UTF-16 unit behind a backslash. -/
def encodeUnit (n : Nat) : List Char :=
  ['\\', 'u'] ++ hexDigits 4 n

/-- A code point as it stands in a text between double quotes. -/
def encodeCode (n : Nat) : List Char :=
  if n = 0x22 then ['\\', '"']
  else if n = 0x5C then ['\\', '\\']
  else if n = 0x0A then ['\\', 'n']
  else if n = 0x0D then ['\\', 'r']
  else if n = 0x09 then ['\\', 't']
  else if n = 0x08 then ['\\', 'b']
  else if n = 0x0C then ['\\', 'f']
  else if 0x20 ≤ n && n ≤ 0x7E then [Char.ofNat n]
  else if n < 0x10000 then encodeUnit n
  else
    encodeUnit (0xD800 + (n - 0x10000) / 0x400) ++ encodeUnit (0xDC00 + (n - 0x10000) % 0x400)

/-- A phrase between double quotes. -/
def encodeText (s : Phrase) : List Char :=
  '"' :: s.codes.flatMap encodeCode ++ ['"']

/-- A number of zeros. -/
def zeros (count : Nat) : List Char :=
  List.replicate count '0'

/-- Digits with a point behind the first `point` of them, zeros added where there are none. -/
def encodePlaces (digits : List Char) (point : Int) : List Char :=
  if point ≤ 0 then '0' :: '.' :: zeros (-point).toNat ++ digits
  else if digits.length ≤ point.toNat then
    digits ++ zeros (point.toNat - digits.length) ++ ['.', '0']
  else digits.take point.toNat ++ '.' :: digits.drop point.toNat

/-- The exponent of a number: its sign, and two digits at least. -/
def encodeExponent (exponent : Int) : List Char :=
  let digits := decimalDigits exponent.natAbs
  (if exponent < 0 then '-' else '+') :: zeros (2 - digits.length) ++ digits

/-- Digits with a point behind the first of them, and an exponent. -/
def encodeScientific (digits : List Char) (exponent : Int) : List Char :=
  digits.take 1 ++ (if digits.length ≤ 1 then [] else '.' :: digits.drop 1) ++
    'e' :: encodeExponent exponent

/-- The decimal `digits · 10 ^ exponent`; numbers below `10 ^ (-4)` and from `10 ^ 16` on have
an exponent. -/
def encodeDecimal (digits : Nat) (exponent : Int) : List Char :=
  let cs := decimalDigits digits
  let point := Int.ofNat cs.length + exponent
  if -4 < point && point ≤ 16 then encodePlaces cs point else encodeScientific cs (point - 1)

/-- A real number: its shortest decimal, or one of the words for what is beyond every number,
with a minus sign on the negative side, and for no number at all. -/
def encodeRealWith (infinity undefined : String) : Real → List Char
  | .decimal negative digits exponent =>
      let size :=
        match Real.round? digits exponent with
        | none => infinity.toList
        | some (0, _) => "0.0".toList
        | some (k, power) =>
            match Real.shortest k power with
            | (digits, exponent) => encodeDecimal digits exponent
      if negative then '-' :: size else size
  | .infinite true => '-' :: infinity.toList
  | .infinite false => infinity.toList
  | .undefined => undefined.toList

/-- A real number as it is written in JSON. -/
def encodeReal : Real → List Char :=
  encodeRealWith "Infinity" "NaN"

/-- Pieces with a comma and a space between two of them. -/
def commaSeparated : List (List Char) → List Char
  | [] => []
  | [piece] => piece
  | piece :: next :: rest => piece ++ ',' :: ' ' :: commaSeparated (next :: rest)

/-- Puts a member into a list of members that ascends by key, behind equal keys. -/
def placeMember {α : Type} (key : Phrase) (piece : α) : List (Phrase × α) → List (Phrase × α)
  | [] => [(key, piece)]
  | (k, p) :: rest =>
      if key.codes < k.codes then (key, piece) :: (k, p) :: rest
      else (k, p) :: placeMember key piece rest

/-- Members in ascending order of their keys. -/
def ascending {α : Type} (members : List (Phrase × α)) : List (Phrase × α) :=
  members.foldl (fun placed member => placeMember member.1 member.2 placed) []

mutual

/-- The characters of the canonical text. -/
def encode : Json → List Char
  | .null => "null".toList
  | .bool true => "true".toList
  | .bool false => "false".toList
  | .int n => decimal n
  | .real r => encodeReal r
  | .str s => encodeText s
  | .arr items => '[' :: commaSeparated (encodeItems items) ++ [']']
  | .obj members =>
      '{' :: commaSeparated ((ascending (encodeMembers members)).map Prod.snd) ++ ['}']

/-- The canonical texts of the items of a list. -/
def encodeItems : List Json → List (List Char)
  | [] => []
  | item :: rest => encode item :: encodeItems rest

/-- The members of an object, each with its key and its written form. -/
def encodeMembers : List (Phrase × Json) → List (Phrase × List Char)
  | [] => []
  | (key, value) :: rest =>
      (key, encodeText key ++ ':' :: ' ' :: encode value) :: encodeMembers rest

end

/-- The canonical text of a value. -/
def render (value : Json) : String :=
  String.ofList value.encode

/-- What keeps a value from being written. -/
inductive Obstacle where
  /-- An integer has too many digits. -/
  | digits
  /-- Lists and objects are nested too deep. -/
  | nesting
  deriving DecidableEq, Repr

mutual

/-- What is met first that keeps a value from being written, if no more than `levels` lists and
objects may stand inside each other.  Members are met in ascending order of their keys. -/
def obstacle? : (levels : Nat) → Json → Option Obstacle
  | _, .int n => if Text.Numeral.isVast n then some .digits else none
  | 0, .arr _ => some .nesting
  | levels + 1, .arr items => itemObstacle? levels items
  | 0, .obj _ => some .nesting
  | levels + 1, .obj members =>
      (ascending (memberObstacles levels members)).findSome? Prod.snd
  | _, _ => none

/-- What is met first in a list of items. -/
def itemObstacle? (levels : Nat) : List Json → Option Obstacle
  | [] => none
  | item :: rest => (obstacle? levels item).or (itemObstacle? levels rest)

/-- The keys of members, each with what is met first in the value under it. -/
def memberObstacles (levels : Nat) :
    List (Phrase × Json) → List (Phrase × Option Obstacle)
  | [] => []
  | (key, value) :: rest => (key, obstacle? levels value) :: memberObstacles levels rest

end

end Gridwalk.Json
