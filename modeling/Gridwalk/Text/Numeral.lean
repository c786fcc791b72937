import Gridwalk.Text.Blank
import Gridwalk.Text.Digit

/-!
# Integer numerals

An integer numeral is an optional sign followed by digits, between any two of which
one underscore may stand.  Which characters are digits is a parameter `value?`: digits of
every script (`Gridwalk.Text.digit?`), say, or ASCII digits alone
(`Gridwalk.Text.asciiDigit?`).  Leading zeros are allowed.
-/

set_option autoImplicit false

namespace Gridwalk.Text.Numeral

/-- The values of a nonempty row of digits in which an underscore may stand between two. -/
def digits? (value? : Char → Option Nat) : List Char → Option (List Nat)
  | [] => none
  | [c] => (value? c).map fun d => [d]
  | c :: '_' :: rest => do
      let d ← value? c
      let ds ← digits? value? rest
      pure (d :: ds)
  | c :: next :: rest => do
      let d ← value? c
      let ds ← digits? value? (next :: rest)
      pure (d :: ds)

/-- The number with the given decimal digits, the most significant first. -/
def ofDigits (ds : List Nat) : Nat :=
  ds.foldl (fun n d => 10 * n + d) 0

/-- How many digits an integer may be given with. -/
def mostDigits : Nat := 4300

/-- Whether an integer has more digits than it may be given with. -/
def isVast (n : Int) : Bool :=
  mostDigits < (decimalDigits n.natAbs).length

/-- The integer that a numeral stands for. -/
def int? (value? : Char → Option Nat) : List Char → Option Int
  | '+' :: rest => (digits? value? rest).map fun ds => Int.ofNat (ofDigits ds)
  | '-' :: rest => (digits? value? rest).map fun ds => -Int.ofNat (ofDigits ds)
  | cs => (digits? value? cs).map fun ds => Int.ofNat (ofDigits ds)

/-- The integer that a text stands for: a numeral with digits of any script, not too many of
them, and with white space around it. -/
def ofText? (text : String) : Option Int :=
  let numeral := trim isBlank text.toList
  if mostDigits < numeral.countP fun c => (digit? c).isSome then none
  else int? digit? numeral

end Gridwalk.Text.Numeral
