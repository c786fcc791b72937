import Gridwalk.Json.Basic
import Gridwalk.Json.Binary
import Gridwalk.Timestamp

/-!
# Moments as numbers

A moment may be given as a number: the seconds since the first moment of 1970 in universal
time, or the milliseconds, if the number is farther from zero than twenty thousand million.
A number with a fraction is a binary number, and so is the fraction that is left of it
beyond the integer below it.
`Timestamp.civil` finds the day of the calendar from the number of days.  It counts years
from March, so that the day of a leap year is the last of its year, in eras of 400 years,
which all have the same number of days.
-/

set_option autoImplicit false

namespace Gridwalk.Timestamp

open Gridwalk.Text

/-- The days from the first of March of the year 0 to the first day of 1970. -/
def epoch : Int := 719468

/-- The days of 400 years. -/
def daysOfEra : Int := 146097

/-- The year, counted from March, and the day in it of a day of an era. -/
def yearOfEra (day : Nat) : Nat × Nat :=
  let year := (day - day / 1460 + day / 36524 - day / 146096) / 365
  (year, day - (365 * year + year / 4 - year / 100))

/-- The month, March being the first, and the day in it of a day of a year. -/
def monthOfYear (day : Nat) : Nat × Nat :=
  let month := (5 * day + 2) / 153
  (month, day - (153 * month + 2) / 5)

/-- The year, the month and the day of the month of a day, counted from the first day of
1970. -/
def civil (days : Int) : Nat × Nat × Nat :=
  let day := days + epoch
  let era := day / daysOfEra
  let (year, dayOfYear) := yearOfEra (day % daysOfEra).toNat
  let (month, dayOfMonth) := monthOfYear dayOfYear
  let january := if month < 10 then 0 else 1
  ((Int.ofNat year + era * 400 + january).toNat,
    (if month < 10 then month + 3 else month - 9), dayOfMonth + 1)

/-- The moment some seconds and microseconds after the first moment of 1970. -/
def ofUnix (seconds : Int) (microseconds : Nat) : Timestamp :=
  let seconds := seconds + Int.ofNat (microseconds / 1000000)
  let (year, month, day) := civil (seconds / 86400)
  let time := (seconds % 86400).toNat
  { year, month, day, hour := time / 3600, minute := time / 60 % 60, second := time % 60,
    microsecond := microseconds % 1000000 }

/-- The largest number of seconds; numbers farther from zero count milliseconds. -/
def mostSeconds : Nat := 20000000000

/-- The moment that an integer stands for. -/
def ofInt (n : Int) : Timestamp :=
  if n.natAbs ≤ mostSeconds then ofUnix n 0 else ofUnix (n / 1000) ((n % 1000).toNat * 1000)

/-- A fraction of a unit in parts of which the unit has `parts`, calculated in binary; a half
goes up. -/
def partsOf (fraction : Rat) (parts : Nat) : Nat :=
  match Binary.ofRat fraction with
  | .finite fraction =>
      match Binary.ofRat (fraction * parts) with
      | .finite count => (count + 1 / 2).floor.toNat
      | _ => 0
  | _ => 0

/-- The moment that a rational number stands for: that of the integer below it, later by the
fraction that is left. -/
def ofRat (q : Rat) : Timestamp :=
  let whole := q.floor
  if q < -(mostSeconds : Rat) || (mostSeconds : Rat) < q then
    ofUnix (whole / 1000) ((whole % 1000).toNat * 1000 + partsOf (q - whole) 1000)
  else ofUnix whole (partsOf (q - whole) 1000000)

/-- The moment that a real number stands for, if it is finite. -/
def ofReal? (r : Real) : Option Timestamp :=
  match Binary.ofReal r with
  | .finite q => some (ofRat q)
  | _ => none

/-- The integer of digits behind a sign or none. -/
def exponent? : List Char → Option Int
  | '-' :: digits => (number? digits).map fun n => -Int.ofNat n
  | '+' :: digits => (number? digits).map Int.ofNat
  | digits => (number? digits).map Int.ofNat

/-- The places behind a point, and the exponent behind them if there is one. -/
def places? (cs : List Char) : Option (List Char × Int) :=
  let places := cs.takeWhile Char.isDigit
  match cs.dropWhile Char.isDigit with
  | [] => some (places, 0)
  | mark :: rest =>
      if mark == 'e' || mark == 'E' then (exponent? rest).map fun e => (places, e) else none

/-- The moment that a numeral stands for: digits, with a sign or without, and perhaps a point
with places and an exponent.  With a point the digits in front of it may be missing, or those
behind it. -/
def ofNumeral? (text : String) : Option Timestamp := do
  let (negative, unsigned) :=
    match text.toList with
    | '-' :: rest => (true, rest)
    | '+' :: rest => (false, rest)
    | rest => (false, rest)
  let whole := unsigned.takeWhile Char.isDigit
  match unsigned.dropWhile Char.isDigit with
  | [] => pure (ofInt (Real.signed negative (← number? whole)))
  | '.' :: rest =>
      let (places, exponent) ← places? rest
      let digits ← number? (whole ++ places)
      ofReal? (.decimal negative digits (exponent - Int.ofNat places.length))
  | _ => none

/-- The moment that a value stands for: a number, or a text. -/
def ofJson? : Json → Option Timestamp
  | .int n => some (ofInt n)
  | .real r => ofReal? r
  | .text s => (ofText? s).orElse fun _ => ofNumeral? s
  | _ => none

end Gridwalk.Timestamp
