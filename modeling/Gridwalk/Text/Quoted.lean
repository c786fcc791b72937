import Gridwalk.Text.Digit
import Gridwalk.Text.Printable

/-!
# Quoted texts

Error messages show a text between quotes.  Single quotes are used unless the text
holds a single quote and no double quote.  Backslash and the quote in use are written
behind a backslash, as are line feed, carriage return and tab by their letters; any other
character that is not printable is written by its code point in two, four or eight
hexadecimal digits, whichever is the shortest that fits.
-/

set_option autoImplicit false

namespace Gridwalk.Text.Quoted

/-- The quote that encloses a text. -/
def mark (cs : List Char) : Char :=
  if cs.contains '\'' && !cs.contains '"' then '"' else '\''

/-- One character of a text enclosed in `quote`. -/
def encodeChar (quote c : Char) : List Char :=
  if c == '\\' || c == quote then ['\\', c]
  else if c == '\n' then ['\\', 'n']
  else if c == '\r' then ['\\', 'r']
  else if c == '\t' then ['\\', 't']
  else if isPrintable c then [c]
  else if c.toNat < 0x100 then ['\\', 'x'] ++ hexDigits 2 c.toNat
  else if c.toNat < 0x10000 then ['\\', 'u'] ++ hexDigits 4 c.toNat
  else ['\\', 'U'] ++ hexDigits 8 c.toNat

/-- A text between quotes. -/
def encode (s : String) : String :=
  let cs := s.toList
  let quote := mark cs
  String.ofList (quote :: cs.flatMap (encodeChar quote) ++ [quote])

end Gridwalk.Text.Quoted
