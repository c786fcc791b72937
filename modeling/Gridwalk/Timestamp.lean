import Gridwalk.Text.Digit
import Gridwalk.Text.Numeral

/-!
# Timestamps

A moment is a calendar day, a time of day to the microsecond, and possibly an offset from
universal time in minutes.  It is written as `YYYY-MM-DDTHH:MM:SS`, then six digits of the
second if they are not all zero, then the offset with its sign if there is one.
-/

set_option autoImplicit false

namespace Gridwalk

/-- A moment on the calendar. -/
structure Timestamp where
  year : Nat := 1970
  month : Nat := 1
  day : Nat := 1
  hour : Nat := 0
  minute : Nat := 0
  second : Nat := 0
  microsecond : Nat := 0
  offset : Option Int := some 0
  deriving DecidableEq, Repr, Inhabited

namespace Timestamp

open Gridwalk.Text

/-- The last `width` decimal digits of a number, zeros in front. -/
def padded : (width : Nat) → Nat → List Char
  | 0, _ => []
  | width + 1, n => padded width (n / 10) ++ [Char.ofNat (0x30 + n % 10)]

/-- The written form of an offset. -/
def encodeOffset (minutes : Int) : List Char :=
  let size := minutes.natAbs
  (if minutes < 0 then '-' else '+') :: padded 2 (size / 60) ++ ':' :: padded 2 (size % 60)

/-- The written form of a moment. -/
def encode (t : Timestamp) : String :=
  String.ofList <|
    padded 4 t.year ++ '-' :: padded 2 t.month ++ '-' :: padded 2 t.day ++
    'T' :: padded 2 t.hour ++ ':' :: padded 2 t.minute ++ ':' :: padded 2 t.second ++
    (if t.microsecond = 0 then [] else '.' :: padded 6 t.microsecond) ++
    (t.offset.map encodeOffset).getD []

/-- The number that a row of digits stands for. -/
def number? (cs : List Char) : Option Nat :=
  if cs.isEmpty then none else (cs.mapM asciiDigit?).map Numeral.ofDigits

/-- Reads an offset: nothing, the letter for universal time, or a sign, which may be the
mathematical minus, with hours and minutes. -/
def offset? (cs : List Char) : Option (Option Int) :=
  match cs with
  | [] => some none
  | ['Z'] => some (some 0)
  | ['z'] => some (some 0)
  | sign :: h₁ :: h₂ :: rest => do
      let hours ← number? [h₁, h₂]
      let minutes ←
        match rest with
        | [] => some 0
        | [':', m₁, m₂] => number? [m₁, m₂]
        | [m₁, m₂] => number? [m₁, m₂]
        | _ => none
      let size := Int.ofNat (hours * 60 + minutes)
      if sign == '+' then pure (some size)
      else if sign == '-' || sign == '\u2212' then pure (some (-size))
      else none
  | _ => none

/-- Reads the part after the minutes: seconds with their fraction, then the offset. -/
def seconds? (cs : List Char) : Option (Nat × Nat × Option Int) :=
  match cs with
  | ':' :: s₁ :: s₂ :: rest => do
      let second ← number? [s₁, s₂]
      match rest with
      | mark :: rest' =>
          if mark == '.' || mark == ',' then
            let places := rest'.takeWhile Char.isDigit
            let microsecond ← number? ((places ++ ['0', '0', '0', '0', '0', '0']).take 6)
            let offset ← offset? (rest'.dropWhile Char.isDigit)
            if places.isEmpty then none else pure (second, microsecond, offset)
          else do
            let offset ← offset? rest
            pure (second, 0, offset)
      | [] => pure (second, 0, none)
  | rest => do
      let offset ← offset? rest
      pure (0, 0, offset)

/-- Reads a moment: a day, then perhaps a letter or a space and a time of day.  A day alone
is its first moment. -/
def ofText? (text : String) : Option Timestamp :=
  match text.toList with
  | [y₁, y₂, y₃, y₄, '-', m₁, m₂, '-', d₁, d₂] => do
      let year ← number? [y₁, y₂, y₃, y₄]
      let month ← number? [m₁, m₂]
      let day ← number? [d₁, d₂]
      pure { year, month, day, offset := none }
  | y₁ :: y₂ :: y₃ :: y₄ :: '-' :: m₁ :: m₂ :: '-' :: d₁ :: d₂ :: mark :: h₁ :: h₂ :: ':' ::
      n₁ :: n₂ :: rest =>
      if mark == 'T' || mark == 't' || mark == ' ' || mark == '_' then do
        let year ← number? [y₁, y₂, y₃, y₄]
        let month ← number? [m₁, m₂]
        let day ← number? [d₁, d₂]
        let hour ← number? [h₁, h₂]
        let minute ← number? [n₁, n₂]
        let (second, microsecond, offset) ← seconds? rest
        pure { year, month, day, hour, minute, second, microsecond, offset }
      else none
  | _ => none

end Timestamp

end Gridwalk
