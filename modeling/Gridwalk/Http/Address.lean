import Gridwalk.Fault
import Gridwalk.Http.Host

/-!
# Addresses

A client says what it asks for by an address: perhaps a scheme with a colon behind it,
perhaps an authority behind two slashes, then a path, perhaps a query behind a question
mark, and perhaps a fragment behind a number sign.  Here only the path and the query count,
though the rest must be as it should be.
Segments of the path that are dots are steps on the way: a single dot stays where it is, two
dots go back.  `Address.ofText?` takes an address apart and says why it cannot, and
`Address.parameters` are the names and values of its query.
-/

set_option autoImplicit false

namespace Gridwalk.Http

/-- What is asked for, its percent signs not resolved. -/
structure Address where
  /-- The path, which begins with a slash. -/
  path : List Char
  query : Option (List Char)
  deriving DecidableEq, Repr

namespace Address

/-- What is wrong with an address. -/
inductive Flaw where
  | tooLong
  | unprintable (c : Char) (position : Nat)
  | badHost (flaw : Host.Flaw) (host : String)
  | badPort (port : String)
  | emptyAuthority
  | emptyScheme
  deriving DecidableEq, Repr

/-- What is told about a flaw. -/
def Flaw.message : Flaw → String
  | .tooLong => "URL too long"
  | .unprintable c position =>
      "Invalid non-printable ASCII character in URL, " ++ Text.Quoted.encode c.toString ++
        " at position " ++ String.ofList (Text.decimalDigits position) ++ "."
  | .badHost flaw host => "Invalid " ++ flaw.subject ++ ": " ++ Text.Quoted.encode host
  | .badPort port => "Invalid port: " ++ Text.Quoted.encode port
  | .emptyAuthority => "Relative URLs cannot have a path starting with '//'"
  | .emptyScheme => "Relative URLs cannot have a path starting with ':'"

/-- A flaw as it is reported. -/
def Flaw.fault (flaw : Flaw) : Fault :=
  .raised (.other "InvalidURL") (some flaw.message)

/-- How many characters an address may have. -/
def longest : Nat := 65536

/-- Whether a character is an ASCII control character. -/
def isControl (c : Char) : Bool :=
  c.toNat < 0x20 || c.toNat == 0x7F

/-- Whether a character may stand in a scheme behind its first letter. -/
def isSchemeChar (c : Char) : Bool :=
  c.isAlphanum || c == '+' || c == '.' || c == '-'

/-- The scheme in front of a text, and the text behind its colon. -/
def splitScheme (cs : List Char) : List Char × List Char :=
  let scheme := cs.takeWhile isSchemeChar
  match cs.dropWhile isSchemeChar with
  | ':' :: rest => if scheme.head?.all Char.isAlpha then (scheme, rest) else ([], cs)
  | _ => ([], cs)

/-- The authority in front of a text, and the text behind it. -/
def splitAuthority (cs : List Char) : List Char × List Char :=
  let isInside (c : Char) : Bool := c != '/' && c != '?' && c != '#'
  match cs with
  | '/' :: '/' :: rest => (rest.takeWhile isInside, rest.dropWhile isInside)
  | _ => ([], cs)

/-- What an authority names. -/
structure Authority where
  /-- Who asks, in front of the last at sign. -/
  user : List Char := []
  host : List Char := []
  port : Option Int := none
  deriving DecidableEq, Repr

/-- Whether an authority names nothing at all. -/
def Authority.isEmpty (authority : Authority) : Bool :=
  authority.user.isEmpty && authority.host.isEmpty && authority.port.isNone

/-- The host in front of a text, and the text behind it.  In brackets a host may hold colons. -/
def splitHost (cs : List Char) : List Char × List Char :=
  let behind := cs.reverse.takeWhile (· != ']')
  if cs.head? == some '[' && behind.length < cs.length then
    (cs.take (cs.length - behind.length), behind.reverse)
  else (cs.takeWhile (· != ':'), cs.dropWhile (· != ':'))

/-- The port that characters are; there may be none. -/
def port? (cs : List Char) : Except Flaw (Option Int) :=
  let text := String.ofList cs
  if cs.isEmpty then .ok none
  else
    match Text.Numeral.ofText? text with
    | some port => .ok (some port)
    | none => .error (.badPort text)

/-- The authority that characters are. -/
def Authority.ofChars? (cs : List Char) : Except Flaw Authority := do
  let behind := (cs.reverse.takeWhile (· != '@')).reverse
  let (host, rest) := splitHost behind
  match Host.flaw? host with
  | some flaw => throw (.badHost flaw (String.ofList host))
  | none => do
      let port ← port? (if rest.head? == some ':' then rest.tail else rest)
      pure { user := cs.take (cs.length - behind.length - 1), host, port }

/-- The path in front of a text, and the query behind it. -/
def splitQuery (cs : List Char) : List Char × Option (List Char) :=
  let isInside (c : Char) : Bool := c != '?' && c != '#'
  let query :=
    match cs.dropWhile isInside with
    | '?' :: rest => some (rest.takeWhile (· != '#'))
    | _ => none
  (cs.takeWhile isInside, query)

/-- One more segment behind those of a path, the last of which is in front.  Two dots go back
one segment, but not before the first slash. -/
def walk (behind : List (List Char)) (segment : List Char) : List (List Char) :=
  if segment == ['.'] then behind
  else if segment == ['.', '.'] then
    match behind with
    | [] => []
    | [[]] => [[]]
    | _ :: rest => rest
  else segment :: behind

/-- A path without segments that are dots. -/
def withoutDots (path : List Char) : List Char :=
  ['/'].intercalate ((segments path).foldl walk []).reverse

/-- A path as it is asked for: it is a slash at least. -/
def orRoot (path : List Char) : List Char :=
  if path.isEmpty then ['/'] else path

/-- A path on the site itself, with one slash in front of it. -/
def onSite (path : List Char) : List Char :=
  orRoot (withoutDots ('/' :: path.dropWhile (· == '/')))

/-- The path of an address that names a scheme, an authority, both, or none. -/
def resolve (scheme : List Char) (authority : Authority) (path : List Char) :
    Except Flaw (List Char) :=
  if scheme.isEmpty && authority.isEmpty then
    if ['/', '/'].isPrefixOf path then .error .emptyAuthority
    else if [':'].isPrefixOf path then .error .emptyScheme
    else .ok (onSite path)
  else if scheme.isEmpty || authority.host.isEmpty then .ok (onSite (withoutDots path))
  else .ok (orRoot (withoutDots path))

/-- The address that a text is. -/
def ofText? (text : String) : Except Flaw Address :=
  let cs := text.toList
  if longest < cs.length then .error .tooLong
  else
    match cs.zipIdx.find? fun (c, _) => isControl c with
    | some (c, position) => .error (.unprintable c position)
    | none =>
        let (scheme, rest) := splitScheme cs
        let (authority, rest) := splitAuthority rest
        let (path, query) := splitQuery rest
        do
          let authority ← Authority.ofChars? authority
          let path ← resolve scheme authority path
          pure { path, query }

/-- A name or a value of a query, decoded; a plus sign stands for a space. -/
def decodeWord (cs : List Char) : String :=
  String.ofList (Text.Utf8.decode (pathBytes (cs.map fun c => if c == '+' then ' ' else c)))

/-- The name and the value of one part of a query. -/
def parameter (cs : List Char) : String × String :=
  (decodeWord (cs.takeWhile (· != '=')), decodeWord ((cs.dropWhile (· != '=')).drop 1))

/-- The names and values of the query. -/
def parameters (address : Address) : List (String × String) :=
  ((parts '&' (address.query.getD [])).filter fun part => !part.isEmpty).map parameter

end Address

end Gridwalk.Http
