import Gridwalk.Text.Blank
import Gridwalk.Text.Numeral

/-!
# Integers in a text

A text may be given where an integer is meant.  It then holds a plain numeral, digits that do
not begin with zero behind at most a minus sign, or something that is one once it has been put
in order: white space around it, a plus sign, zeros in front, underscores between two digits,
and a point with zeros at the end are overlooked.  A plain numeral may have too many digits;
nothing else is told apart from a text that holds no integer.
-/

set_option autoImplicit false

namespace Gridwalk.Text.Lenient

/-- Why a text is not read as an integer. -/
inductive Refusal where
  | unreadable
  | tooLong
  deriving DecidableEq, Repr

/-- A list of characters from its first digit other than zero or its first minus sign on,
where `last` stands in front of it; zeros and underscores before that are dropped.  A point
keeps the character in front of it, and so does the end. -/
def afterZeros (last : Char) : List Char → Option (List Char)
  | [] => some [last]
  | c :: rest =>
      if c == '0' || c == '_' then afterZeros c rest
      else if c.isDigit || c == '-' then some (c :: rest)
      else if c == '.' then some (last :: c :: rest)
      else none

/-- A numeral without a sign in front, its leading zeros dropped. -/
def withoutZeros : List Char → Option (List Char)
  | [] => none
  | c :: rest =>
      if c == '0' then afterZeros c rest
      else if c.isDigit || c == '-' then some (c :: rest)
      else none

/-- A numeral without the plus sign and the zeros in front of its digits.  Behind zeros a
minus sign is as good as in front of them, but there is only one. -/
def normalized : List Char → Option (List Char)
  | '+' :: rest => if rest.head? == some '-' then none else withoutZeros rest
  | '-' :: rest => do
      let cs ← withoutZeros rest
      if cs.head? == some '-' then none else pure ('-' :: cs)
  | cs => withoutZeros cs

/-- A numeral without a point and zeros at its end; nothing if anything else is behind the
point. -/
def withoutPlaces (cs : List Char) : Option (List Char) :=
  match cs.dropWhile (· != '.') with
  | [] => some cs
  | _ :: places =>
      if !places.isEmpty && places.all (· == '0') then some (cs.takeWhile (· != '.')) else none

/-- Whether two underscores stand side by side. -/
def hasGap : List Char → Bool
  | '_' :: '_' :: _ => true
  | _ :: rest => hasGap rest
  | [] => false

/-- A numeral without its underscores, which may stand alone and inside only. -/
def withoutUnderscores (cs : List Char) : Option (List Char) :=
  if cs.head? == some '_' || cs.getLast? == some '_' || hasGap cs then none
  else some (cs.filter (· != '_'))

/-- The number of digits that do not begin with zero, unless it is all.  Too many digits are
too many whatever is behind them. -/
def natural (cs : List Char) : Except Refusal Nat :=
  let digits := cs.takeWhile Char.isDigit
  if digits.head? == some '0' then (if cs.length == 1 then .ok 0 else .error .unreadable)
  else if Numeral.mostDigits < digits.length then .error .tooLong
  else if digits.isEmpty || cs.length != digits.length then .error .unreadable
  else .ok (Numeral.ofDigits (digits.filterMap asciiDigit?))

/-- The integer that a plain numeral stands for. -/
def plain : List Char → Except Refusal Int
  | '-' :: rest => (natural rest).map fun n => -Int.ofNat n
  | cs => (natural cs).map Int.ofNat

/-- A text as a plain numeral, if it is one once put in order. -/
def ordered (cs : List Char) : Option (List Char) := do
  withoutUnderscores (← withoutPlaces (← normalized (trim isBlank cs)))

/-- The integer that a text holds. -/
def integer (text : String) : Except Refusal Int :=
  let cs := text.toList
  match plain cs with
  | .ok n => .ok n
  | .error .tooLong => .error .tooLong
  | .error .unreadable =>
      match (ordered cs).map plain with
      | some (.ok n) => .ok n
      | _ => .error .unreadable

/-- A plain numeral is read as it stands. -/
theorem integer_of_plain {text : String} {n : Int} (h : plain text.toList = .ok n) :
    integer text = .ok n := by
  simp [integer, h]

end Gridwalk.Text.Lenient
