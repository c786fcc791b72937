import Gridwalk.Http.Path
import Gridwalk.Text.Mark
import Gridwalk.Text.Numeral
import Gridwalk.Text.Punycode
import Gridwalk.Text.Quoted

/-!
# Hosts

A host is named by the four numbers of an address of version 4, by the groups of an address of
version 6 between brackets, or by a name.  Names of ASCII characters are taken as they are.  A
name with other characters is a row of labels with dots between them, which must be labels of an
internationalized domain name: composed, without hyphens at their ends, of letters of names,
all written in one direction, and short enough once written in ASCII characters.
-/

set_option autoImplicit false

namespace Gridwalk.Http.Host

/-- Why a host is refused. -/
inductive Flaw where
  | fourNumbers
  | groups
  | name
  deriving DecidableEq, Repr

/-- The kind of host that was refused. -/
def Flaw.subject : Flaw → String
  | .fourNumbers => "IPv4 address"
  | .groups => "IPv6 address"
  | .name => "IDNA hostname"

/-- The places behind one character in a pattern of four rows of digits with one character of
any kind between two of them.  Place `2 * k` is in front of row `k`, and `2 * k + 1` is in it. -/
def advance (c : Char) (place : Nat) : List Nat :=
  (if c.isDigit then [place ||| 1] else []) ++
    (if place % 2 == 1 && place < 7 then [place + 1] else [])

/-- Whether a host looks like four numbers: rows of digits with one character between two. -/
def isFourNumbers (cs : List Char) : Bool :=
  (cs.foldl (fun places c => (places.flatMap (advance c)).eraseDups) [0]).contains 7

/-- Whether digits are a number below 256 without zeros in front. -/
def isOctet (cs : List Char) : Bool :=
  !cs.isEmpty && cs.length ≤ 3 && cs.all Char.isDigit &&
    (cs.length == 1 || cs.head? != some '0') &&
    Text.Numeral.ofDigits (cs.filterMap Text.asciiDigit?) < 256

/-- Whether a host is an address of version 4. -/
def isVersion4 (cs : List Char) : Bool :=
  let octets := parts '.' cs
  octets.length == 4 && octets.all isOctet

/-- Whether a part of an address of version 6 is a group. -/
def isGroup (cs : List Char) : Bool :=
  !cs.isEmpty && cs.length ≤ 4 && cs.all fun c => (Text.hexDigit? c).isSome

/-- The parts of an address of version 6, where an address of version 4 at its end counts as two
groups. -/
def groups? (cs : List Char) : Option (List (List Char)) :=
  let all := parts ':' cs
  if all.length < 3 then none
  else
    let last := all.getLastD []
    if last.contains '.' then
      if isVersion4 last then some (all.dropLast ++ [['0'], ['0']]) else none
    else some all

/-- The groups in front of a gap and behind it, if there is one: an empty part that is neither
the first nor the last. -/
def splitGap? (groups : List (List Char)) : Option (List (List Char) × List (List Char)) :=
  match groups with
  | [] => none
  | first :: rest =>
      let front := rest.dropLast.takeWhile fun group => !group.isEmpty
      if front.length == rest.dropLast.length then none
      else some (first :: front, rest.drop (front.length + 1))

/-- Groups on one side of a gap; one empty part means none. -/
def besideGap (groups : List (List Char)) : List (List Char) :=
  if groups == [[]] then [] else groups

/-- Whether parts are eight groups, or fewer with one gap between them. -/
def areGroups (groups : List (List Char)) : Bool :=
  match splitGap? groups with
  | none => groups.length == 8 && groups.all isGroup
  | some (front, behind) =>
      let given := besideGap front ++ besideGap behind
      given.length ≤ 7 && given.all isGroup

/-- Whether a text is an address of version 6, perhaps with a zone behind a percent sign. -/
def isVersion6 (cs : List Char) : Bool :=
  let hasZone :=
    match cs.dropWhile (· != '%') with
    | [] => true
    | _ :: zone => !zone.isEmpty && !zone.contains '%'
  hasZone && (groups? (cs.takeWhile (· != '%'))).any areGroups

/-- Whether a character is a digit of the Arabic numerals of the Arabic script. -/
def isArabicNumber (c : Char) : Bool :=
  (0x660 ≤ c.toNat && c.toNat ≤ 0x669) || (0x10D30 ≤ c.toNat && c.toNat ≤ 0x10D39)

/-- Whether a character is a digit of the numerals of Europe or of Persian. -/
def isEuropeanNumber (c : Char) : Bool :=
  c.isDigit || (0x6F0 ≤ c.toNat && c.toNat ≤ 0x6F9)

/-- Whether a letter in front joins the next one over the marks between them; characters are
given from the last to the first. -/
def joinsBehind (before : List Char) : Bool :=
  (before.dropWhile Text.isMark).head?.any Text.joinsNext

/-- Whether a letter behind joins the one in front of it over the marks between them. -/
def joinsAhead (after : List Char) : Bool :=
  (after.dropWhile Text.isMark).head?.any Text.joinsPrevious

/-- Whether a character of a label fits where it stands; those in front of it are given from
the last to the first. -/
def fits (label before after : List Char) (c : Char) : Bool :=
  let n := c.toNat
  if Text.isNameLetter c then true
  else if n == 0x200D then before.head?.any Text.isVirama
  else if n == 0x200C then
    before.head?.any Text.isVirama || (joinsBehind before && joinsAhead after)
  else if n == 0xB7 then before.head? == some 'l' && after.head? == some 'l'
  else if n == 0x375 then after.head?.any Text.isGreek
  else if n == 0x5F3 || n == 0x5F4 then before.head?.any Text.isHebrew
  else if n == 0x30FB then label.any fun x => x != c && Text.isJapanese x
  else if 0x660 ≤ n && n ≤ 0x669 then
    label.all fun x => !(0x6F0 ≤ x.toNat && x.toNat ≤ 0x6F9)
  else if 0x6F0 ≤ n && n ≤ 0x6F9 then
    label.all fun x => !(0x660 ≤ x.toNat && x.toNat ≤ 0x669)
  else false

/-- Whether all characters of the rest of a label fit. -/
def allFit (label : List Char) : (before rest : List Char) → Bool
  | _, [] => true
  | before, c :: rest => fits label before rest c && allFit label (c :: before) rest

/-- Whether a character has no direction of its own. -/
def isNeutral (c : Char) : Bool :=
  Text.isMark c || !Text.isNameLetter c || c == '-'

/-- Whether a label is written in one direction: if anything in it is written from right to
left, so is its first character, and all others but numbers of one kind and neutral ones. -/
def isDirected (label : List Char) : Bool :=
  let isNumber (c : Char) : Bool := isArabicNumber c || isEuropeanNumber c
  if label.any fun c => Text.isRightToLeft c || isArabicNumber c then
    label.head?.any Text.isRightToLeft &&
      (label.all fun c => Text.isRightToLeft c || isNumber c || isNeutral c) &&
      ((label.reverse.dropWhile Text.isMark).head?.any fun c =>
        Text.isRightToLeft c || isNumber c) &&
      !(label.any isArabicNumber && label.any isEuropeanNumber)
  else true

/-- Whether the hyphens of a label stand where they may. -/
def isHyphenated (label : List Char) : Bool :=
  label.head? != some '-' && label.getLast? != some '-' && (label.drop 2).take 2 != ['-', '-']

/-- The mark in front of a label that is written in Punycode. -/
def encodedMark : List Char := ['x', 'n', '-', '-']

/-- A label in ASCII characters. -/
def encodeLabel (label : List Char) : List Char :=
  if label.all fun c => c.toNat < 0x80 then label else encodedMark ++ Text.Punycode.encode label

/-- Whether characters in lower case are a label of a name. -/
def isLabel (label : List Char) : Bool :=
  !label.isEmpty && Text.isComposed label && isHyphenated label &&
    !label.head?.any Text.isMark && allFit label [] label && isDirected label

/-- Whether characters are a label that is already written in Punycode; what it stands for is
not asked. -/
def isEncodedLabel (label : List Char) : Bool :=
  encodedMark.isPrefixOf label && 4 < label.length && label.getLast? != some '-' &&
    label.all fun c => c.toNat < 0x80

/-- The labels of a name, all dots counted as one; a dot at the very end makes no label. -/
def labels (cs : List Char) : List (List Char) :=
  let isDot (c : Char) : Bool := c == '.' || c == '\u3002' || c == '\uFF0E' || c == '\uFF61'
  let all := parts '.' (cs.map fun c => if isDot c then '.' else c.toLower)
  if all.getLast? == some [] then all.dropLast else all

/-- How many characters a label may have in ASCII. -/
def longestLabel : Nat := 63

/-- How many characters a name may have in ASCII. -/
def longestName : Nat := 253

/-- Whether characters are a name of labels. -/
def isName (cs : List Char) : Bool :=
  let labels := labels cs
  let lengths := labels.map fun label => (encodeLabel label).length
  !labels.isEmpty && (labels.all fun label => isLabel label || isEncodedLabel label) &&
    (lengths.all (· ≤ longestLabel)) && lengths.foldr (· + ·) 0 + (labels.length - 1) ≤ longestName

/-- Whether a host is given between brackets. -/
def isBracketed (cs : List Char) : Bool :=
  2 ≤ cs.length && cs.head? == some '[' && cs.getLast? == some ']'

/-- Why a host is refused, if it is. -/
def flaw? (cs : List Char) : Option Flaw :=
  if cs.isEmpty then none
  else if isFourNumbers cs then if isVersion4 cs then none else some .fourNumbers
  else if isBracketed cs then if isVersion6 cs.tail.dropLast then none else some .groups
  else if cs.all fun c => c.toNat < 0x80 then none
  else if isName cs then none
  else some .name

end Gridwalk.Http.Host
