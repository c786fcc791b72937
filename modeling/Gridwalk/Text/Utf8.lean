import Gridwalk.Text.Digit

/-!
# UTF-8

`Utf8.encode` writes a character as one to four bytes.  `Utf8.decode` reads bytes and
never fails: bytes that begin a character but do not end it, taken as far as they could
still have been one, and bytes that begin none are each read as the replacement character
U+FFFD.
-/

set_option autoImplicit false

namespace Gridwalk.Text.Utf8

/-- The bytes of a character. -/
def encode (c : Char) : List Nat :=
  let n := c.toNat
  if n < 0x80 then [n]
  else if n < 0x800 then [0xC0 + n / 0x40, 0x80 + n % 0x40]
  else if n < 0x10000 then [0xE0 + n / 0x1000, 0x80 + n / 0x40 % 0x40, 0x80 + n % 0x40]
  else
    [0xF0 + n / 0x40000, 0x80 + n / 0x1000 % 0x40, 0x80 + n / 0x40 % 0x40, 0x80 + n % 0x40]

/-- A character of which some bytes were read: their value, how many more are to come, and
the range in which the next one must lie. -/
structure Partial where
  value : Nat
  missing : Nat
  least : Nat
  greatest : Nat
  deriving DecidableEq, Repr

/-- What the first byte of a character of several bytes announces. -/
def lead? (b : Nat) : Option Partial :=
  if 0xC2 ≤ b && b ≤ 0xDF then some ⟨b - 0xC0, 1, 0x80, 0xBF⟩
  else if b == 0xE0 then some ⟨0, 2, 0xA0, 0xBF⟩
  else if b == 0xED then some ⟨0xD, 2, 0x80, 0x9F⟩
  else if 0xE1 ≤ b && b ≤ 0xEF then some ⟨b - 0xE0, 2, 0x80, 0xBF⟩
  else if b == 0xF0 then some ⟨0, 3, 0x90, 0xBF⟩
  else if 0xF1 ≤ b && b ≤ 0xF3 then some ⟨b - 0xF0, 3, 0x80, 0xBF⟩
  else if b == 0xF4 then some ⟨4, 3, 0x80, 0x8F⟩
  else none

/-- The character that stands for bytes that are none. -/
def replacement : Char := '\uFFFD'

/-- What a byte that continues nothing gives: a finished character or the beginning of one. -/
def start (b : Nat) : List Char × Option Partial :=
  if b < 0x80 then ([Char.ofNat b], none)
  else
    match lead? b with
    | some p => ([], some p)
    | none => ([replacement], none)

/-- Reads one more byte. -/
def feed (p : Option Partial) (b : Nat) : List Char × Option Partial :=
  match p with
  | none => start b
  | some p =>
      if p.least ≤ b && b ≤ p.greatest then
        let value := p.value * 0x40 + b % 0x40
        if p.missing ≤ 1 then ([Char.ofNat value], none)
        else ([], some ⟨value, p.missing - 1, 0x80, 0xBF⟩)
      else
        let (cs, next) := start b
        (replacement :: cs, next)

/-- Reads bytes after a beginning. -/
def decodeFrom (p : Option Partial) : List Nat → List Char
  | [] => if p.isSome then [replacement] else []
  | b :: rest =>
      let (cs, next) := feed p b
      cs ++ decodeFrom next rest

/-- Reads bytes. -/
def decode (bytes : List Nat) : List Char := decodeFrom none bytes

end Gridwalk.Text.Utf8
