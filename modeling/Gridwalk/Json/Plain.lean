import Gridwalk.Json.Printer
import Gridwalk.Text.Quoted

/-!
# The plain text of a value

Where a value is shown as a text, a text is itself.  Every other value is written in the
plain form: the words `None`, `True`, `False`, `inf` and `nan`, integers and real numbers in
decimal, and lists and objects in brackets and braces, with the texts inside them between
quotes.
-/

set_option autoImplicit false

namespace Gridwalk.Json

mutual

/-- A value inside a list or an object. -/
def quoted : Json → List Char
  | .null => "None".toList
  | .bool true => "True".toList
  | .bool false => "False".toList
  | .str s => (Text.Quoted.encode s.mended).toList
  | .int n => Text.decimal n
  | .real r => encodeRealWith "inf" "nan" r
  | .arr items => '[' :: commaSeparated (quotedItems items) ++ [']']
  | .obj members => '\x7b' :: commaSeparated (quotedMembers members) ++ ['\x7d']

/-- The items of a list. -/
def quotedItems : List Json → List (List Char)
  | [] => []
  | item :: rest => quoted item :: quotedItems rest

/-- The members of an object, each with its key and its value. -/
def quotedMembers : List (Phrase × Json) → List (List Char)
  | [] => []
  | (key, value) :: rest =>
      ((Text.Quoted.encode key.mended).toList ++ ':' :: ' ' :: quoted value) :: quotedMembers rest

end

/-- The plain text of a value. -/
def plain : Json → String
  | .str s => s.mended
  | value => String.ofList (quoted value)

end Gridwalk.Json
