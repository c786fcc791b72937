import Gridwalk.Json.Real

/-!
# Calculating with real numbers

To calculate with real numbers means to calculate exactly with the binary numbers that they
stand for, as rational numbers, and to take the binary number next to the result (ties go
to the even significand).  `Binary.ofRat` finds that number; it is infinite if there is
none in range.  Zero has no sign here, since no calculation of this library shows one.
-/

set_option autoImplicit false

namespace Gridwalk

/-- A binary floating-point number of 64 bits. -/
inductive Binary where
  | finite (value : Rat)
  /-- Beyond every number, on the negative or the positive side. -/
  | infinite (negative : Bool)
  /-- No number at all. -/
  | undefined
  deriving DecidableEq, Repr

namespace Binary

/-- The rational number `k · 2 ^ power`. -/
def scaled (k power : Int) : Rat :=
  mkRat (k * Int.pow 2 power.toNat) (Nat.pow 2 (-power).toNat)

/-- The binary number next to a rational number. -/
def ofRat (q : Rat) : Binary :=
  let (k, power) := Real.nearestBinary q.num.natAbs q.den
  if 0 ≤ power && Nat.pow 2 1024 ≤ k * Nat.pow 2 power.toNat then .infinite (decide (q < 0))
  else .finite (scaled (Real.signed (decide (q < 0)) k) power)

/-- The binary number that a real number stands for. -/
def ofReal : Real → Binary
  | .decimal negative digits exponent =>
      match Real.round? digits exponent with
      | some (k, power) => .finite (scaled (Real.signed negative k) power)
      | none => .infinite negative
  | .infinite negative => .infinite negative
  | .undefined => .undefined

/-- A binary number written out as a decimal. -/
def toReal : Binary → Real
  | .finite q =>
      let places := q.den.log2
      .decimal (decide (q < 0)) (q.num.natAbs * Nat.pow 5 places) (-Int.ofNat places)
  | .infinite negative => .infinite negative
  | .undefined => .undefined

/-- The value of the binary number next to an integer; nothing if it is out of range. -/
def ofInt? (n : Int) : Option Rat :=
  match ofRat n with
  | .finite q => some q
  | _ => none

/-- A binary number and a rational number added. -/
def add : Binary → Rat → Binary
  | .finite p, q => ofRat (p + q)
  | sum, _ => sum

/-- What is left of a binary number beyond the largest multiple of `q` below it. -/
def modulo : Binary → Rat → Binary
  | .finite p, q => ofRat (p - q * (p / q).floor)
  | _, _ => .undefined

/-- Whether a binary number is less than an integer. -/
def isBelow : Binary → Int → Bool
  | .finite q, n => decide (q < n)
  | .infinite negative, _ => negative
  | .undefined, _ => false

/-- Whether a binary number is greater than an integer. -/
def exceeds : Binary → Int → Bool
  | .finite q, n => decide ((n : Rat) < q)
  | .infinite negative, _ => !negative
  | .undefined, _ => false

end Binary

end Gridwalk
