import Gridwalk.Text.Digit

/-!
# Templates

A template is a text with places for values.  A place is a percent sign, then perhaps flags,
a width, a point with a precision, one letter that says nothing, and at last the letter of
a conversion.  A star for the width or the precision asks for a value of its own.  Two
percent signs are no place but a percent sign.  `Template.fill` says whether one integer
fits into a template, and why it does not; the text that this makes is of no use here.  A place
may ask for the integer as a character or as a real number, which not every integer is.
-/

set_option autoImplicit false

namespace Gridwalk.Text.Template

/-- Why an integer does not fit into a template. -/
inductive Flaw where
  /-- The text ends inside a place. -/
  | incomplete
  /-- No conversion has this letter. -/
  | unknownConversion (letter : Char) (position : Nat)
  | widthTooBig
  | precisionTooBig
  | precisionTooLarge
  | noCharacter
  | beyondReals
  /-- The text that is asked for is too long to be made. -/
  | outOfSpace
  /-- A place asks for a value by its name. -/
  | namedPlace
  | tooManyPlaces
  | noPlace
  deriving DecidableEq, Repr

/-- A letter in a message; one that is no printable ASCII character is not shown. -/
def Flaw.shown (letter : Char) : Char :=
  if 0x1F ≤ letter.toNat && letter.toNat < 0x7F then letter else '?'

/-- The shortest row of hexadecimal digits for a number. -/
def Flaw.hexadecimal (n : Nat) : List Char :=
  Nat.toDigits 16 n

/-- What is told about a flaw. -/
def Flaw.message : Flaw → String
  | .incomplete => "incomplete format"
  | .unknownConversion letter position =>
      "unsupported format character '" ++ (Flaw.shown letter).toString ++ "' (0x" ++
        String.ofList (Flaw.hexadecimal letter.toNat) ++ ") at index " ++
        String.ofList (decimalDigits position)
  | .widthTooBig => "width too big"
  | .precisionTooBig => "precision too big"
  | .precisionTooLarge => "precision too large"
  | .noCharacter => "%c arg not in range(0x110000)"
  | .beyondReals => "int too large to convert to float"
  | .outOfSpace => ""
  | .namedPlace => "format requires a mapping"
  | .tooManyPlaces => "not enough arguments for format string"
  | .noPlace => "not all arguments converted during string formatting"

/-- Where a character of a template stands. -/
inductive Phase where
  /-- Outside places. -/
  | text
  /-- Behind the percent sign. -/
  | opened
  /-- Behind flags. -/
  | flags
  /-- Behind digits of the width. -/
  | width (n : Nat)
  /-- Behind the width. -/
  | sized
  /-- Behind the point. -/
  | point
  /-- Behind digits of the precision. -/
  | precision (n : Nat)
  /-- Behind the precision. -/
  | precise (precision : Nat)
  /-- Behind a letter that says nothing. -/
  | marked (precision : Nat)
  deriving DecidableEq, Repr

/-- What is known of a template up to some character. -/
structure Progress where
  phase : Phase := .text
  /-- The width of the place. -/
  width : Nat := 0
  /-- Whether the integer has been used. -/
  used : Bool := false
  deriving DecidableEq, Repr

/-- The largest width. -/
def greatestWidth : Nat := Nat.pow 2 63 - 1

/-- The largest width for which there is space. -/
def greatestSpace : Nat := Nat.pow 2 36

/-- The largest precision. -/
def greatestPrecision : Nat := Nat.pow 2 31 - 1

/-- The largest precision with which an integer is written. -/
def greatestDigits : Nat := Nat.pow 2 31 - 4

/-- Uses the integer and goes on in a phase. -/
def use (progress : Progress) (phase : Phase) : Except Flaw Progress :=
  if progress.used then .error .tooManyPlaces else .ok { phase, used := true }

/-- The integers below this one are next to a real number on either side of zero. -/
def leastBeyondReals : Nat := Nat.pow 2 1024 - Nat.pow 2 970

/-- Why an integer cannot be converted as a letter says. -/
def mismatch? (n : Int) (precision : Nat) (c : Char) (position : Nat) : Option Flaw :=
  if "diuoxX".toList.contains c then
    if greatestDigits < precision then some .precisionTooLarge else none
  else if "eEfFgG".toList.contains c then
    if leastBeyondReals ≤ n.natAbs then some .beyondReals else none
  else if c == 'c' then
    if n < 0 || 0x110000 ≤ n then some .noCharacter else none
  else if "sra".toList.contains c then none
  else some (.unknownConversion c position)

/-- Reads the letter of a conversion. -/
def convert (n : Int) (progress : Progress) (precision : Nat) (c : Char) (position : Nat) :
    Except Flaw Progress := do
  let made ← use progress .text
  match mismatch? n precision c position with
  | some flaw => throw flaw
  | none => if greatestSpace < progress.width then throw .outOfSpace else pure made

/-- Reads a character behind the precision of a place. -/
def behindPrecision (n : Int) (progress : Progress) (precision : Nat) (c : Char) (position : Nat) :
    Except Flaw Progress :=
  if c == 'h' || c == 'l' || c == 'L' then .ok { progress with phase := .marked precision }
  else convert n progress precision c position

/-- Reads a character behind the width of a place. -/
def behindWidth (n : Int) (progress : Progress) (c : Char) (position : Nat) :
    Except Flaw Progress :=
  if c == '.' then .ok { progress with phase := .point }
  else behindPrecision n progress 0 c position

/-- Reads a character behind the flags of a place. -/
def behindFlags (n : Int) (progress : Progress) (c : Char) (position : Nat) :
    Except Flaw Progress :=
  if "-+ #0".toList.contains c then .ok { progress with phase := .flags }
  else if c == '*' then use progress .sized
  else
    match asciiDigit? c with
    | some d => .ok { progress with phase := .width d, width := d }
    | none => behindWidth n progress c position

/-- Reads one more character of a template. -/
def step (n : Int) (progress : Progress) (c : Char) (position : Nat) : Except Flaw Progress :=
  match progress.phase with
  | .text => .ok (if c == '%' then { progress with phase := .opened, width := 0 } else progress)
  | .opened =>
      if c == '%' then .ok { progress with phase := .text }
      else if c == '(' then .error .namedPlace
      else behindFlags n progress c position
  | .flags => behindFlags n progress c position
  | .width width =>
      match asciiDigit? c with
      | none => behindWidth n progress c position
      | some d =>
          let width := 10 * width + d
          if greatestWidth < width then .error .widthTooBig
          else .ok { progress with phase := .width width, width }
  | .sized => behindWidth n progress c position
  | .point =>
      if c == '*' then use progress (.precise 0)
      else
        match asciiDigit? c with
        | some d => .ok { progress with phase := .precision d }
        | none => behindPrecision n progress 0 c position
  | .precision precision =>
      match asciiDigit? c with
      | none => behindPrecision n progress precision c position
      | some d =>
          let precision := 10 * precision + d
          if greatestPrecision < precision then .error .precisionTooBig
          else .ok { progress with phase := .precision precision }
  | .precise precision => behindPrecision n progress precision c position
  | .marked precision => convert n progress precision c position

/-- Reads a template from a position on. -/
def run (n : Int) (progress : Progress) (position : Nat) : List Char → Except Flaw Progress
  | [] => .ok progress
  | c :: rest => do run n (← step n progress c position) (position + 1) rest

/-- Whether an integer fits into a template. -/
def fill (n : Int) (template : List Char) : Except Flaw Unit := do
  let progress ← run n {} 0 template
  if progress.phase ≠ .text then .error .incomplete
  else if progress.used then pure ()
  else .error .noPlace

end Gridwalk.Text.Template
