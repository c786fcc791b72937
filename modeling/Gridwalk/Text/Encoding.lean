import Gridwalk.Text.Letter
import Gridwalk.Text.Utf8

/-!
# Encodings of JSON texts

A JSON text begins with an ASCII character, so the zeros among its first bytes tell in
which of the Unicode encodings it was written: `Encoding.ofBytes`.  `Encoding.decode?`
reads the bytes.  UTF-16 joins the two halves of a surrogate pair and UTF-32 joins none; a
half that stays alone is a letter of the text.
-/

set_option autoImplicit false

namespace Gridwalk.Text

/-- The encodings of a JSON text; `bigEndian` says that the high bytes come first. -/
inductive Encoding where
  | utf8
  | utf16 (bigEndian : Bool)
  | utf32 (bigEndian : Bool)
  deriving DecidableEq, Repr

namespace Encoding

/-- The encoding of a text that begins with these bytes. -/
def ofBytes : List Nat → Encoding
  | [0, _] => .utf16 true
  | [_, 0] => .utf16 false
  | 0 :: b :: _ :: _ :: _ => if b = 0 then .utf32 true else .utf16 true
  | _ :: 0 :: c :: d :: _ => if c = 0 && d = 0 then .utf32 false else .utf16 false
  | _ => .utf8

/-- The numbers of two bytes each; nothing if a byte is left. -/
def pairs? (bigEndian : Bool) : List Nat → Option (List Nat)
  | [] => some []
  | a :: b :: rest => do
      let ns ← pairs? bigEndian rest
      pure ((if bigEndian then a * 0x100 + b else b * 0x100 + a) :: ns)
  | _ => none

/-- The numbers of four bytes each; nothing if bytes are left. -/
def quads? (bigEndian : Bool) (bytes : List Nat) : Option (List Nat) := do
  let halves ← pairs? bigEndian bytes
  quadsOf halves
where
  /-- The numbers of two halves each. -/
  quadsOf : List Nat → Option (List Nat)
    | [] => some []
    | a :: b :: rest => do
        let ns ← quadsOf rest
        pure ((if bigEndian then a * 0x10000 + b else b * 0x10000 + a) :: ns)
    | _ => none

/-- The letters of a text; nothing if the bytes are no text in this encoding. -/
def decode? : Encoding → List Nat → Option (List Letter)
  | .utf8, bytes => some ((Utf8.decode bytes).map .char)
  | .utf16 bigEndian, bytes =>
      (pairs? bigEndian bytes).map fun units => (Letter.joinHalves units).map Letter.ofCode
  | .utf32 bigEndian, bytes => do
      let codes ← quads? bigEndian bytes
      if codes.all (· ≤ 0x10FFFF) then pure (codes.map Letter.ofCode) else none

end Encoding

end Gridwalk.Text
