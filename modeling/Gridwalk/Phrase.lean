import Gridwalk.Text.Letter

/-!
# Phrases

A phrase is a text as a client may write it.  Clients can name single UTF-16 units, and so
a phrase can hold half of a surrogate pair, even one half beside the other.  Such a phrase
is torn: it can be kept, compared and stored in escaped form, but it is no text that could
be sent.  `Phrase.ofCodes` tears a phrase only if it holds a half.
-/

set_option autoImplicit false

namespace Gridwalk

/-- A text as a client may write it. -/
inductive Phrase where
  /-- Characters. -/
  | whole (text : String)
  /-- Code points, some of which are halves of a surrogate pair. -/
  | torn (codes : List Nat)
  deriving DecidableEq, Repr, Inhabited

namespace Phrase

open Gridwalk.Text.Letter

instance : Coe String Phrase := ⟨.whole⟩

/-- The phrase of some code points. -/
def ofCodes (codes : List Nat) : Phrase :=
  if codes.any isHalf then .torn codes else .whole (String.ofList (codes.map Char.ofNat))

/-- The code points of a phrase. -/
def codes : Phrase → List Nat
  | .whole text => text.toList.map Char.toNat
  | .torn codes => codes

/-- Whether a phrase is torn. -/
def isTorn : Phrase → Bool
  | .whole _ => false
  | .torn _ => true

/-- The character of a code point; half of a surrogate pair is replaced by U+FFFD. -/
def charOf (code : Nat) : Char :=
  if isHalf code then '\uFFFD' else Char.ofNat code

/-- A phrase with a replacement character for every half that stands alone. -/
def mended : Phrase → String
  | .whole text => text
  | .torn codes => String.ofList (codes.map charOf)

/-- The characters of a text are the phrase of that text. -/
theorem ofCodes_codes_whole (text : String) : ofCodes (codes (.whole text)) = .whole text := by
  have hnone : (text.toList.map Char.toNat).any isHalf = false := by
    simp [List.any_eq_false, isHalf_toNat]
  have hback : text.toList.map (Char.ofNat ∘ Char.toNat) = text.toList := by
    simp [Function.comp_def, Char.ofNat_toNat]
  simp [ofCodes, codes, hnone, hback]

end Phrase

end Gridwalk
