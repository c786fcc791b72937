import Gridwalk.Json.Printer

/-!
# The compact text of a JSON value

The compact text of a value has no blanks, and the members of an object stand in the order in
which they were given.  Of the characters only the quote, the backslash and those below the
space are written behind a backslash.
-/

set_option autoImplicit false

namespace Gridwalk.Json

open Gridwalk.Text

/-- A code point as it stands in a compact text. -/
def compactCode (n : Nat) : List Char :=
  if n < 0x7F then encodeCode n else [Char.ofNat n]

/-- A phrase between double quotes. -/
def compactText (s : Phrase) : List Char :=
  '"' :: s.codes.flatMap compactCode ++ ['"']

mutual

/-- The characters of the compact text. -/
def compactChars : Json → List Char
  | .arr items => '[' :: [','].intercalate (compactItems items) ++ [']']
  | .obj members => '\x7b' :: [','].intercalate (compactMembers members) ++ ['\x7d']
  | .str s => compactText s
  | leaf => leaf.encode

/-- The compact texts of the items of a list. -/
def compactItems : List Json → List (List Char)
  | [] => []
  | item :: rest => compactChars item :: compactItems rest

/-- The compact texts of the members of an object. -/
def compactMembers : List (Phrase × Json) → List (List Char)
  | [] => []
  | (key, value) :: rest =>
      (compactText key ++ ':' :: compactChars value) :: compactMembers rest

end

/-- The compact text of a value. -/
def compact (value : Json) : String :=
  String.ofList value.compactChars

end Gridwalk.Json
