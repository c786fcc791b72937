/-!
# Blank characters

Two sets of characters count as blank in this library.  `isBlank` is the Unicode
property White_Space.  `isSpacing` adds the four information separators U+001C to
U+001F, which end a line or a field in some texts but are no white space.  `trim`
removes the characters of such a set from both ends of a text and from nowhere else.
-/

set_option autoImplicit false

namespace Gridwalk.Text

/-- The characters with the Unicode property White_Space. -/
def isBlank (c : Char) : Bool :=
  let n := c.toNat
  (0x09 ≤ n && n ≤ 0x0D) || n == 0x20 || n == 0x85 || n == 0xA0 || n == 0x1680 ||
    (0x2000 ≤ n && n ≤ 0x200A) || n == 0x2028 || n == 0x2029 || n == 0x202F ||
    n == 0x205F || n == 0x3000

/-- White space and the information separators U+001C to U+001F. -/
def isSpacing (c : Char) : Bool :=
  isBlank c || (0x1C ≤ c.toNat && c.toNat ≤ 0x1F)

/-- A text without the characters of `drop` at its two ends. -/
def trim (drop : Char → Bool) (cs : List Char) : List Char :=
  ((cs.dropWhile drop).reverse.dropWhile drop).reverse

end Gridwalk.Text
