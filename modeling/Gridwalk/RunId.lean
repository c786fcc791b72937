import Gridwalk.Text.Digit
import Gridwalk.Text.Numeral

/-!
# Run ids

Every run has an id, a number of 128 bits.  It is written with 32 lower-case hexadecimal
digits in five groups.
-/

set_option autoImplicit false

namespace Gridwalk

/-- The id of a run. -/
structure RunId where
  bits : BitVec 128
  deriving DecidableEq, Repr

namespace RunId

open Gridwalk.Text

/-- The id with a given number. -/
def ofNat (n : Nat) : RunId := ⟨BitVec.ofNat 128 n⟩

/-- Hexadecimal digits in groups of 8, 4, 4, 4 and the rest. -/
def grouped (ds : List Char) : List Char :=
  ds.take 8 ++ '-' :: (ds.drop 8).take 4 ++ '-' :: (ds.drop 12).take 4 ++
    '-' :: (ds.drop 16).take 4 ++ '-' :: ds.drop 20

/-- The written form of an id. -/
def encode (id : RunId) : String :=
  String.ofList (grouped (hexDigits 32 id.bits.toNat))

/-- What may stand in front of a written id. -/
def scheme : List Char := "urn:uuid:".toList

/-- A written id without the scheme in front of it, if it has one. -/
def dropScheme (cs : List Char) : List Char :=
  if scheme.isPrefixOf cs then cs.drop scheme.length else cs

/-- Whether a character of a written id is one of its digits, and no dash or brace. -/
def isSignificant (c : Char) : Bool :=
  c != '-' && c != '\x7b' && c != '\x7d'

/-- Reads 32 hexadecimal digits in either case, wherever dashes stand between them, also in
braces or after the scheme. -/
def ofText? (text : String) : Option RunId := do
  let digits ← ((dropScheme text.toList).filter isSignificant).mapM hexDigit?
  if digits.length = 32 then pure (ofNat (digits.foldl (fun n d => 16 * n + d) 0)) else none

end RunId

end Gridwalk
