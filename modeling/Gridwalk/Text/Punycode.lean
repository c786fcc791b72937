/-!
# Punycode

Punycode writes a text of any characters with ASCII letters, digits and hyphens.  The ASCII
characters come first, as they are.  Every other character is then put in at its place, in
ascending order: what is written is how many places, counted over all characters and positions
from the last one put in, lie between.  Such a number has digits of base 36, the least
significant first, and the digit below its threshold is the last; thresholds follow a bias that
adapts to the size of the numbers.
-/

set_option autoImplicit false

namespace Gridwalk.Text.Punycode

/-- The digit of a value below 36. -/
def digit (d : Nat) : Char :=
  if d < 26 then Char.ofNat (0x61 + d) else Char.ofNat (0x30 + (d - 26))

/-- The threshold of the digit at a position, which is a multiple of 36. -/
def threshold (bias position : Nat) : Nat :=
  max 1 (min 26 (position - bias))

/-- A threshold lies between one and 26. -/
theorem threshold_bounds (bias position : Nat) :
    1 ≤ threshold bias position ∧ threshold bias position ≤ 26 := by
  unfold threshold
  omega

/-- The digits of a number from a position on. -/
def digits (bias position n : Nat) : List Char :=
  let t := threshold bias position
  if n < t then [digit n]
  else digit (t + (n - t) % (36 - t)) :: digits bias (position + 36) ((n - t) / (36 - t))
termination_by n
decreasing_by
  have ht := threshold_bounds bias position
  have hdiv := Nat.div_le_self (n - threshold bias position) (36 - threshold bias position)
  omega

/-- How often a number is divided by 35 until it is at most 455, times 36, and what is left. -/
def reduced (n : Nat) : Nat × Nat :=
  if 455 < n then
    match reduced (n / 35) with
    | (position, rest) => (position + 36, rest)
  else (0, n)
termination_by n
decreasing_by omega

/-- The bias after a number was written, where `count` characters are in their places. -/
def adapted (n count : Nat) (isFirst : Bool) : Nat :=
  let n := if isFirst then n / 700 else n / 2
  match reduced (n + n / count) with
  | (position, rest) => position + 36 * rest / (rest + 38)

/-- What has been written of a text. -/
structure Progress where
  written : List Char
  /-- How many places have been passed since the last character was put in. -/
  passed : Nat := 0
  bias : Nat := 72
  /-- How many characters are in their places. -/
  count : Nat

/-- Passes a character of the text, or puts it in if it is the one whose turn it is. -/
def visit (basic code : Nat) (progress : Progress) (c : Nat) : Progress :=
  if c < code then { progress with passed := progress.passed + 1 }
  else if c == code then
    { written := progress.written ++ digits progress.bias 36 progress.passed
      bias := adapted progress.passed (progress.count + 1) (progress.count == basic)
      count := progress.count + 1 }
  else progress

/-- Puts in every place of the code points `codes`, in ascending order, where those below `next`
are in their places. -/
def insertAll (text : List Nat) (basic : Nat) : (next : Nat) → List Nat → Progress → Progress
  | _, [], progress => progress
  | next, code :: codes, progress =>
      let passed := progress.passed + (code - next) * (progress.count + 1)
      let after := text.foldl (visit basic code) { progress with passed }
      insertAll text basic (code + 1) codes { after with passed := after.passed + 1 }

/-- The Punycode of a text. -/
def encode (cs : List Char) : List Char :=
  let basic := cs.filter fun c => c.toNat < 0x80
  let others := (cs.map Char.toNat).filter fun n => 0x80 ≤ n
  let codes := (others.mergeSort fun a b => decide (a ≤ b)).eraseDups
  let start := if basic.isEmpty then [] else basic ++ ['-']
  (insertAll (cs.map Char.toNat) basic.length 0x80 codes
    { written := start, count := basic.length }).written

end Gridwalk.Text.Punycode
