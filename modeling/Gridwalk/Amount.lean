import Gridwalk.Fault
import Gridwalk.Json.Binary

/-!
# Amounts

An amount is a number that can be calculated with: an integer, or a real number, which stands
for a binary number.  Integers are added exactly; an integer that is added to a real number
is first taken as the binary number next to it.  Comparisons are exact.

Every value can be asked to take part in a calculation.  A truth value counts as one or
zero, and any other value that is no number is a fault.  The remainder of a text is a text
again: the number is filled into it.
-/

set_option autoImplicit false

namespace Gridwalk

/-- A number that can be calculated with. -/
inductive Amount where
  | whole (n : Int)
  | real (r : Real)
  deriving DecidableEq, Repr

namespace Amount

instance : Coe Int Amount := ⟨.whole⟩

/-- An amount as it is shown. -/
def view : Amount → Json
  | .whole n => .int n
  | .real r => .real r

/-- The value of the binary number next to an integer. -/
def binary (n : Int) : Except Fault Rat :=
  match Binary.ofInt? n with
  | some q => .ok q
  | none => .error .beyondReals

/-- An amount and an integer added. -/
def plus : Amount → Int → Except Fault Amount
  | .whole m, n => .ok (.whole (m + n))
  | .real r, n => do pure (.real ((Binary.ofReal r).add (← binary n)).toReal)

/-- What is left of an amount beyond the largest multiple of an integer below it. -/
def modulo : Amount → Int → Except Fault Amount
  | .whole m, n => if n = 0 then .error .zeroCellSize else .ok (.whole (m.fmod n))
  | .real r, n => do
      let q ← binary n
      if q = 0 then .error .zeroDivisor else pure (.real ((Binary.ofReal r).modulo q).toReal)

/-- Whether an amount is less than an integer. -/
def isBelow : Amount → Int → Bool
  | .whole m, n => m < n
  | .real r, n => (Binary.ofReal r).isBelow n

/-- Whether an amount is greater than an integer. -/
def exceeds : Amount → Int → Bool
  | .whole m, n => n < m
  | .real r, n => (Binary.ofReal r).exceeds n

/-- The number that an amount is, where an integer is itself. -/
def exact : Amount → Binary
  | .whole m => .finite m
  | .real r => .ofReal r

/-- Whether two amounts are the same number; an undefined number is none. -/
def equals (a b : Amount) : Bool :=
  a.exact = b.exact && a.exact ≠ .undefined

/-- Whether an amount is zero. -/
def isZero : Amount → Bool
  | .whole m => m = 0
  | .real r => Binary.ofReal r = .finite 0

/-- How often an integer goes into an amount. -/
def quotient : Amount → Int → Except Fault Int
  | .whole m, n => .ok (m / n)
  | .real r, n =>
      match Binary.ofReal r with
      | .finite q => .ok (q / n).floor
      | _ => .error .undefinedNumber

/-- The amount that a value is, or what it is instead. -/
def ofJson : Json → Except NonNumber Amount
  | .int n => .ok (.whole n)
  | .bool b => .ok (.whole (if b then 1 else 0))
  | .real r => .ok (.real r)
  | .null => .error .nothing
  | .str _ => .error .text
  | .arr _ => .error .list
  | .obj _ => .error .object

end Amount

namespace Json

/-- A value as an amount in a calculation. -/
def amount (calculation : Calculation) (value : Json) : Except Fault Amount :=
  (Amount.ofJson value).mapError (.notANumber calculation)

/-- A value and an integer added. -/
def plus (value : Json) (n : Int) : Except Fault Amount := do
  (← value.amount .sum).plus n

/-- A value less an integer. -/
def minus (value : Json) (n : Int) : Except Fault Amount := do
  (← value.amount .difference).plus (-n)

/-- The remainder of a value and an integer; nothing if it is a text. -/
def modulo (value : Json) (n : Int) : Except Fault (Option Amount) :=
  match value with
  | .str s => do
      (Text.Template.fill n s.mended.toList).mapError .unfitTemplate
      pure none
  | value => do pure (some (← (← value.amount .remainder).modulo n))

/-- Whether a value is a multiple of an integer. -/
def isMultiple (value : Json) (n : Int) : Except Fault Bool := do
  pure ((← value.modulo n).any Amount.isZero)

/-- Whether a value is less than zero or greater than a limit. -/
def isBeyond (value : Json) (limit : Int) : Except Fault Bool := do
  let amount ← (Amount.ofJson value).mapError .notComparable
  pure (amount.isBelow 0 || amount.exceeds limit)

mutual

/-- Whether two values are equal, where truth values count as numbers and all numbers are
compared as numbers. -/
def same : Json → Json → Bool
  | .null, .null => true
  | .str a, .str b => a == b
  | .arr items, .arr others => sameItems items others
  | .obj members, .obj others => members.length == others.length && sameMembers members others
  | a, b =>
      match Amount.ofJson a, Amount.ofJson b with
      | .ok a, .ok b => a.equals b
      | _, _ => false

/-- Whether two lists hold equal values in the same order. -/
def sameItems : List Json → List Json → Bool
  | [], [] => true
  | a :: items, b :: others => same a b && sameItems items others
  | _, _ => false

/-- Whether every member of a list has an equal value in another one. -/
def sameMembers : List (Phrase × Json) → List (Phrase × Json) → Bool
  | [], _ => true
  | (key, a) :: members, others =>
      (match lookup others key with
        | some b => same a b
        | none => false) && sameMembers members others

end

/-- Integers are added as they are. -/
theorem plus_int (m n : Int) : (Json.int m).plus n = .ok (.whole (m + n)) := rfl

/-- Integers are taken away as they are. -/
theorem minus_int (m n : Int) : (Json.int m).minus n = .ok (.whole (m - n)) := rfl

/-- An integer is beyond a limit as integers are. -/
theorem isBeyond_int (m limit : Int) :
    (Json.int m).isBeyond limit = .ok (decide (m < 0) || decide (limit < m)) := rfl

end Json

end Gridwalk
