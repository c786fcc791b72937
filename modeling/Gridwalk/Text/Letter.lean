/-!
# Letters

UTF-16 writes a code point beyond U+FFFF as a pair of units, the surrogates.  Half of such
a pair that stands alone is no character, but texts can hold it.  A letter is either: a
character, or half of a pair.
-/

set_option autoImplicit false

namespace Gridwalk.Text

/-- A letter of a text. -/
inductive Letter where
  | char (c : Char)
  /-- Half of a surrogate pair that stands alone. -/
  | half (code : Nat)
  deriving DecidableEq, Repr, Inhabited

namespace Letter

/-- Whether a code point is the first half of a surrogate pair. -/
def isHighHalf (code : Nat) : Bool := 0xD800 ≤ code && code < 0xDC00

/-- Whether a code point is the second half of a surrogate pair. -/
def isLowHalf (code : Nat) : Bool := 0xDC00 ≤ code && code < 0xE000

/-- Whether a code point is half of a surrogate pair. -/
def isHalf (code : Nat) : Bool := isHighHalf code || isLowHalf code

/-- The code point that two halves stand for. -/
def joined (high low : Nat) : Nat :=
  0x10000 + (high - 0xD800) * 0x400 + (low - 0xDC00)

/-- The code points of UTF-16 units: every first half is joined to a second half that follows
it. -/
def joinHalves : List Nat → List Nat
  | [] => []
  | [unit] => [unit]
  | high :: low :: rest =>
      if isHighHalf high && isLowHalf low then joined high low :: joinHalves rest
      else high :: joinHalves (low :: rest)

/-- The letter of a code point. -/
def ofCode (code : Nat) : Letter :=
  if isHalf code then .half code else .char (Char.ofNat code)

/-- The code point of a letter. -/
def code : Letter → Nat
  | .char c => c.toNat
  | .half code => code

/-- The letters of a text of characters. -/
def ofString (s : String) : List Letter :=
  s.toList.map .char

/-- No character is half of a surrogate pair. -/
theorem isHalf_toNat (c : Char) : isHalf c.toNat = false := by
  have hvalid := c.valid
  have hlt : c.toNat < 0xD800 ∨ 0xDFFF < c.toNat := by
    rcases hvalid with h | ⟨h, _⟩
    · exact .inl h
    · exact .inr h
  simp only [isHalf, isHighHalf, isLowHalf, Bool.or_eq_false_iff, Bool.and_eq_false_iff,
    decide_eq_false_iff_not]
  omega

end Letter

end Gridwalk.Text
