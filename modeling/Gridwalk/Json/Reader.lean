import Gridwalk.Json.Basic
import Gridwalk.Text.Digit
import Gridwalk.Text.Numeral

/-!
# Reading JSON

`Json.read` reads a whole text as one value.  Blanks (space, tab, line feed, carriage
return) may stand around every value and mark.  Of two members with one key the later
value counts.  A text that is no JSON value is refused with the position at which reading
stopped: where a value, a mark or the quote of a key was expected, at the first character
after the value, at a control character or a bad escape inside a text, or at the opening
quote of a text that does not end.  `Json.readLetters` also keeps to limits on the depth of
lists and objects and on the digits of integers; at the first place that passes a limit the
text is refused as excessive, whatever comes after it.

The readers below take the text from some position on and hand back what is left of it;
when they stop at a letter, they hand back the text from that letter on.
-/

set_option autoImplicit false

namespace Gridwalk.Json

open Gridwalk.Text
open Gridwalk.Text.Numeral (ofDigits)

/-- What a reader keeps to. -/
structure Limits where
  /-- How deep lists and objects may be nested. -/
  levels : Option Nat := none
  /-- How many digits an integer may have. -/
  digits : Option Nat := none
  deriving DecidableEq, Repr

/-- Why reading stopped. -/
inductive Stop where
  /-- No JSON text goes on with the letters that are left. -/
  | malformed (rest : List Letter)
  /-- A limit was passed. -/
  | excess
  deriving DecidableEq, Repr

/-- A value and the text after it, or why reading stopped. -/
abbrev Reading (α : Type) : Type := Except Stop (α × List Letter)

/-- Whether a letter may stand between values and marks. -/
def isGap : Letter → Bool
  | .char c => c == ' ' || c == '\t' || c == '\n' || c == '\r'
  | .half _ => false

/-- A text without the gap at its start. -/
def skipGap (cs : List Letter) : List Letter :=
  cs.dropWhile isGap

/-- The value of a hexadecimal digit. -/
def hexValue? : Letter → Option Nat
  | .char c => hexDigit? c
  | .half _ => none

/-- The UTF-16 unit that four hexadecimal digits stand for. -/
def unit? (a b c d : Letter) : Option Nat := do
  let a ← hexValue? a
  let b ← hexValue? b
  let c ← hexValue? c
  let d ← hexValue? d
  pure (((a * 16 + b) * 16 + c) * 16 + d)

/-- The character that a letter after a backslash stands for. -/
def shortEscape? : Letter → Option Char
  | .half _ => none
  | .char c =>
      if c == '"' || c == '\\' || c == '/' then some c
      else if c == 'b' then some (Char.ofNat 0x08)
      else if c == 'f' then some (Char.ofNat 0x0C)
      else if c == 'n' then some '\n'
      else if c == 'r' then some '\r'
      else if c == 't' then some '\t'
      else none

/-- A piece of a text between quotes. -/
inductive Piece where
  /-- A letter, as itself or behind a backslash. -/
  | code (code : Nat)
  /-- A UTF-16 unit, named by its number. -/
  | unit (unit : Nat)
  deriving DecidableEq, Repr

/-- The code points of a text in pieces.  Two units side by side that are the halves of a pair
are joined; a half that stands there as a letter is joined to nothing. -/
def codesOf : List Piece → List Nat
  | [] => []
  | .code code :: rest => code :: codesOf rest
  | .unit high :: .unit low :: rest =>
      if Letter.isHighHalf high && Letter.isLowHalf low then
        Letter.joined high low :: codesOf rest
      else high :: codesOf (.unit low :: rest)
  | .unit unit :: rest => unit :: codesOf rest

/-- Puts a piece in front of those that were read. -/
def Reading.cons (piece : Piece) (reading : Reading (List Piece)) : Reading (List Piece) :=
  reading.map fun (pieces, rest) => (piece :: pieces, rest)

/-- Reads a text behind its opening quote up to its closing quote; `start` is the text from
the opening quote on. -/
def pieces (start : List Letter) : List Letter → Reading (List Piece)
  | [] => .error (.malformed start)
  | .char '"' :: rest => .ok ([], rest)
  | [.char '\\'] => .error (.malformed start)
  | .char '\\' :: .char 'u' :: a :: b :: c :: d :: rest =>
      match rest.isEmpty, unit? a b c d with
      | false, some n => (pieces start rest).cons (.unit n)
      | _, _ => .error (.malformed (.char 'u' :: a :: b :: c :: d :: rest))
  | .char '\\' :: c :: rest =>
      if c = .char 'u' then .error (.malformed (c :: rest))
      else
        match shortEscape? c with
        | none => .error (.malformed (.char '\\' :: c :: rest))
        | some x => (pieces start rest).cons (.code x.toNat)
  | c :: rest =>
      if c.code < 0x20 then .error (.malformed (c :: rest))
      else (pieces start rest).cons (.code c.code)
termination_by structural cs => cs

/-- Reads a text behind its opening quote up to its closing quote. -/
def textRest (start cs : List Letter) : Reading Phrase :=
  (pieces start cs).map fun (ps, rest) => (Phrase.ofCodes (codesOf ps), rest)

/-- The value of a decimal digit. -/
def decimalValue? : Letter → Option Nat
  | .char c => asciiDigit? c
  | .half _ => none

/-- Whether a letter is a decimal digit. -/
def isDecimal (letter : Letter) : Bool :=
  (decimalValue? letter).isSome

/-- The values of the digits at the start of a text, and the text after them. -/
def digitRun (cs : List Letter) : List Nat × List Letter :=
  ((cs.takeWhile isDecimal).filterMap decimalValue?, cs.dropWhile isDecimal)

/-- The digits before the point: a zero alone, or a row that does not start with zero. -/
def wholePart? : List Letter → Option (List Nat × List Letter)
  | .char '0' :: rest => some ([0], rest)
  | cs =>
      match digitRun cs with
      | ([], _) => none
      | (ds, rest) => some (ds, rest)

/-- The digits after a point, if a point with digits comes next. -/
def fractionPart : List Letter → Option (List Nat) × List Letter
  | .char '.' :: rest =>
      match digitRun rest with
      | ([], _) => (none, .char '.' :: rest)
      | (ds, rest) => (some ds, rest)
  | cs => (none, cs)

/-- The exponent, if the letter for one comes next with digits behind it. -/
def exponentPart (cs : List Letter) : Option Int × List Letter :=
  match cs with
  | [] => (none, cs)
  | mark :: rest =>
      if mark = .char 'e' || mark = .char 'E' then
        let (negative, digits) :=
          match rest with
          | .char '-' :: digits => (true, digits)
          | .char '+' :: digits => (false, digits)
          | digits => (false, digits)
        match digitRun digits with
        | ([], _) => (none, cs)
        | (ds, rest) => (some (Real.signed negative (ofDigits ds)), rest)
      else (none, cs)

/-- Whether a limit admits a number. -/
def admits (limit : Option Nat) (n : Nat) : Bool :=
  limit.all (n ≤ ·)

/-- Reads a number. -/
def number (limits : Limits) (cs : List Letter) : Reading Json :=
  let (negative, unsigned) :=
    match cs with
    | .char '-' :: rest => (true, rest)
    | rest => (false, rest)
  match wholePart? unsigned with
  | none => .error (.malformed cs)
  | some (ds, rest) =>
      match fractionPart rest with
      | (fraction, rest) =>
          match exponentPart rest with
          | (exponent, rest) =>
              match fraction, exponent with
              | none, none =>
                  if admits limits.digits ds.length then
                    .ok (.int (Real.signed negative (ofDigits ds)), rest)
                  else .error .excess
              | _, _ =>
                  let places := fraction.getD []
                  .ok (.real (.decimal negative (ofDigits (ds ++ places))
                    (exponent.getD 0 - Int.ofNat places.length)), rest)

/-- Reads a text that begins with a fixed word, as the value that the word stands for. -/
def word? (cs : List Letter) : Option (Json × List Letter) :=
  match cs with
  | .char 'n' :: .char 'u' :: .char 'l' :: .char 'l' :: rest => some (.null, rest)
  | .char 't' :: .char 'r' :: .char 'u' :: .char 'e' :: rest => some (.bool true, rest)
  | .char 'f' :: .char 'a' :: .char 'l' :: .char 's' :: .char 'e' :: rest =>
      some (.bool false, rest)
  | .char 'N' :: .char 'a' :: .char 'N' :: rest => some (.real .undefined, rest)
  | .char 'I' :: .char 'n' :: .char 'f' :: .char 'i' :: .char 'n' :: .char 'i' :: .char 't' ::
      .char 'y' :: rest => some (.real (.infinite false), rest)
  | .char '-' :: .char 'I' :: .char 'n' :: .char 'f' :: .char 'i' :: .char 'n' :: .char 'i' ::
      .char 't' :: .char 'y' :: rest => some (.real (.infinite true), rest)
  | _ => none

mutual

/-- Reads a value inside `level` lists and objects; `fuel` bounds the number of nested
readers. -/
def value (limits : Limits) : (fuel level : Nat) → List Letter → Reading Json
  | 0, _, cs => .error (.malformed cs)
  | fuel + 1, level, cs =>
      match cs with
      | .char '"' :: rest => (textRest cs rest).map fun (s, rest) => (.str s, rest)
      | .char '{' :: rest =>
          if admits limits.levels (level + 1) then
            match skipGap rest with
            | .char '}' :: rest => .ok (.obj [], rest)
            | rest => objectRest limits fuel (level + 1) [] rest
          else .error .excess
      | .char '[' :: rest =>
          if admits limits.levels (level + 1) then
            match skipGap rest with
            | .char ']' :: rest => .ok (.arr [], rest)
            | rest => arrayRest limits fuel (level + 1) rest
          else .error .excess
      | cs =>
          match word? cs with
          | some (result, rest) => .ok (result, rest)
          | none => number limits cs

/-- Reads the items of a list up to its closing bracket. -/
def arrayRest (limits : Limits) : (fuel level : Nat) → List Letter → Reading Json
  | 0, _, cs => .error (.malformed cs)
  | fuel + 1, level, cs =>
      match value limits fuel level cs with
      | .error stop => .error stop
      | .ok (item, rest) =>
          match skipGap rest with
          | .char ']' :: rest => .ok (.arr [item], rest)
          | .char ',' :: rest =>
              match arrayRest limits fuel level (skipGap rest) with
              | .ok (.arr items, rest) => .ok (.arr (item :: items), rest)
              | other => other
          | rest => .error (.malformed rest)

/-- Reads the members of an object up to its closing brace, after those read before. -/
def objectRest (limits : Limits) :
    (fuel level : Nat) → List (Phrase × Json) → List Letter → Reading Json
  | 0, _, _, cs => .error (.malformed cs)
  | fuel + 1, level, members, cs =>
      match cs with
      | .char '"' :: rest =>
          match textRest cs rest with
          | .error stop => .error stop
          | .ok (key, rest) =>
              match skipGap rest with
              | .char ':' :: rest =>
                  match value limits fuel level (skipGap rest) with
                  | .error stop => .error stop
                  | .ok (item, rest) =>
                      let members := insert members key item
                      match skipGap rest with
                      | .char '}' :: rest => .ok (.obj members, rest)
                      | .char ',' :: rest => objectRest limits fuel level members (skipGap rest)
                      | rest => .error (.malformed rest)
              | rest => .error (.malformed rest)
      | rest => .error (.malformed rest)

end

/-- Why a text is refused. -/
inductive Refusal where
  /-- It is no JSON value; reading stopped at a position. -/
  | malformed (position : Nat)
  /-- It passes a limit. -/
  | excess
  deriving DecidableEq, Repr

/-- The refusal of a text whose reading stopped. -/
def Stop.refusal (cs : List Letter) : Stop → Refusal
  | .malformed rest => .malformed (cs.length - rest.length)
  | .excess => .excess

/-- Reads a whole text as one value, within limits. -/
def readLetters (limits : Limits) (cs : List Letter) : Except Refusal Json :=
  match value limits (2 * cs.length + 2) 0 (skipGap cs) with
  | .error stop => .error (stop.refusal cs)
  | .ok (result, rest) =>
      match skipGap rest with
      | [] => .ok result
      | rest => .error (Stop.refusal cs (.malformed rest))

/-- Reads a whole text as one JSON value. -/
def read (s : String) : Except Refusal Json :=
  readLetters {} (Letter.ofString s)

end Gridwalk.Json
