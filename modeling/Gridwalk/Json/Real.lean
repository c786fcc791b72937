/-!
# Real numbers in JSON texts

A number written with a point or an exponent stands for the binary floating-point number
of 64 bits next to it (ties go to the even significand); two words stand for the
infinities and one for an undefined number.  `Real.round?` finds that binary number
exactly, as a significand and a power of two, and `Real.whole` says which integer it is,
if it is one that fits into 64 bits with sign.
-/

set_option autoImplicit false

namespace Gridwalk

/-- A number that is not written as an integer. -/
inductive Real where
  /-- `digits · 10 ^ exponent` with a sign; zero has two signs as well. -/
  | decimal (negative : Bool) (digits : Nat) (exponent : Int)
  /-- Beyond every number, on the negative or the positive side. -/
  | infinite (negative : Bool)
  /-- No number at all. -/
  | undefined
  deriving DecidableEq, Repr

namespace Real

/-- Why a real number is not taken as an integer. -/
inductive NotWhole where
  /-- It is infinite or undefined. -/
  | notFinite
  /-- It has a fractional part. -/
  | fraction
  /-- It is whole, but too large. -/
  | tooLarge
  deriving DecidableEq, Repr

/-- The integer next to `num / den`; of two, the even one. -/
def roundQuotient (num den : Nat) : Nat :=
  let below := num / den
  let twice := 2 * (num % den)
  if twice < den then below
  else if den < twice then below + 1
  else if below % 2 = 0 then below else below + 1

/-- The significand and the power of two of the binary number next to `num / den`. -/
def nearestBinary (num den : Nat) : Nat × Int :=
  let scale : Int := Int.ofNat num.log2 - Int.ofNat den.log2
  let atLeast : Bool :=
    if 0 ≤ scale then den * Nat.pow 2 scale.toNat ≤ num
    else den ≤ num * Nat.pow 2 (-scale).toNat
  let power := max (-1074) (if atLeast then scale - 52 else scale - 53)
  if 0 ≤ power then (roundQuotient num (den * Nat.pow 2 power.toNat), power)
  else (roundQuotient (num * Nat.pow 2 (-power).toNat) den, power)

/-- The binary number next to `digits · 10 ^ exponent`; nothing if it is out of range. -/
def round? (digits : Nat) (exponent : Int) : Option (Nat × Int) :=
  let places := Int.ofNat (Nat.toDigits 10 digits).length
  if digits = 0 || places + exponent < -400 then some (0, 0)
  else if 400 < places + exponent then none
  else
    let (k, power) :=
      if 0 ≤ exponent then nearestBinary (digits * Nat.pow 10 exponent.toNat) 1
      else nearestBinary digits (Nat.pow 10 (-exponent).toNat)
    if 0 ≤ power && Nat.pow 2 1024 ≤ k * Nat.pow 2 power.toNat then none else some (k, power)

/-- Whether a real number is a number in range. -/
def isFinite : Real → Bool
  | .decimal _ digits exponent => (round? digits exponent).isSome
  | _ => false

/-- A natural number with a sign. -/
def signed (negative : Bool) (n : Nat) : Int :=
  if negative then -Int.ofNat n else Int.ofNat n

/-- The integer that a real number is. -/
def whole : Real → Except NotWhole Int
  | .infinite _ => .error .notFinite
  | .undefined => .error .notFinite
  | .decimal negative digits exponent =>
      match round? digits exponent with
      | none => .error .notFinite
      | some (k, power) =>
          if power < 0 && k % Nat.pow 2 (-power).toNat != 0 then .error .fraction
          else
            let size :=
              if power < 0 then k / Nat.pow 2 (-power).toNat else k * Nat.pow 2 power.toNat
            if size < Nat.pow 2 63 then .ok (signed negative size) else .error .tooLarge

end Real

end Gridwalk
