import Gridwalk.Json.Real

/-!
# The shortest decimal of a binary number

A binary floating-point number is next to every number of an interval around it, whose
ends lie halfway to its neighbours and belong to it if its significand is even.  Of the
decimals in that interval those with the fewest digits are the shortest, and of those the
one next to the number (of two, the even one) is `Real.shortest`.  To find it, the two
decimals around the number are tested with one digit, with two, and so on; seventeen
always suffice.  All arithmetic is exact.
-/

set_option autoImplicit false

namespace Gridwalk.Real

/-- `a · 10 ^ e` and `b · 2 ^ q`, both multiplied by the same power of ten and of two. -/
def comparable (a : Nat) (e : Int) (b : Nat) (q : Int) : Nat × Nat :=
  (a * Nat.pow 10 e.toNat * Nat.pow 2 (-q).toNat, b * Nat.pow 2 q.toNat * Nat.pow 10 (-e).toNat)

/-- A binary number other than zero, counted in quarters of its last place: its own count,
the counts of the two ends of its interval, and whether the ends belong to it. -/
structure Interval where
  unit : Int
  least : Nat
  count : Nat
  greatest : Nat
  closed : Bool
  deriving DecidableEq, Repr

/-- The interval of `k · 2 ^ power`.  Below a power of two the neighbours are half as far
away, unless there are none that are closer. -/
def Interval.of (k : Nat) (power : Int) : Interval :=
  let (k, power) := if k = Nat.pow 2 53 then (Nat.pow 2 52, power + 1) else (k, power)
  let gap := if k = Nat.pow 2 52 && -1074 < power then 1 else 2
  { unit := power - 2, least := 4 * k - gap, count := 4 * k, greatest := 4 * k + 2,
    closed := k % 2 == 0 }

/-- Whether `m · 10 ^ e` lies in an interval. -/
def Interval.holds (i : Interval) (m : Nat) (e : Int) : Bool :=
  let below := comparable m e i.least i.unit
  let above := comparable m e i.greatest i.unit
  if i.closed then below.2 ≤ below.1 && above.1 ≤ above.2
  else below.2 < below.1 && above.1 < above.2

/-- The multiples of `10 ^ e` on both sides of the number of an interval, the nearer one
first; of two that are equally near, the even one. -/
def Interval.around (i : Interval) (e : Int) : List Nat :=
  let (place, value) := comparable 1 e i.count i.unit
  let below := value / place
  let twice := 2 * (value % place)
  if twice < place || (twice == place && below % 2 == 0) then [below, below + 1]
  else [below + 1, below]

/-- The exponent of ten of the first digit of the number of an interval. -/
def Interval.magnitude (i : Interval) : Int :=
  let num := i.count * Nat.pow 2 i.unit.toNat
  let den := Nat.pow 2 (-i.unit).toNat
  let guess :=
    Int.ofNat (Nat.toDigits 10 num).length - Int.ofNat (Nat.toDigits 10 den).length
  let (power, value) := comparable 1 guess i.count i.unit
  if power ≤ value then guess else guess - 1

/-- A number without the zeros at its end, and how many there were. -/
def dropZeros : (fuel : Nat) → Nat → Nat × Nat
  | 0, m => (m, 0)
  | fuel + 1, m =>
      if m % 10 = 0 then
        match dropZeros fuel (m / 10) with
        | (m, zeros) => (m, zeros + 1)
      else (m, 0)

/-- The digits and the exponent of the shortest decimal of `k · 2 ^ power`, which is not
zero. -/
def shortest (k : Nat) (power : Int) : Nat × Int :=
  let i := Interval.of k power
  let first := i.magnitude
  let found := (List.range 17).findSome? fun n =>
    let e := first - Int.ofNat n
    ((i.around e).find? fun m => i.holds m e).map fun m => (m, e)
  let (m, e) := found.getD (k, power)
  let (digits, zeros) := dropZeros 17 m
  (digits, e + Int.ofNat zeros)

end Gridwalk.Real
