import Gridwalk.Text.Utf8

/-!
# Paths and routes

The path of a request is decoded before it is looked at: a percent sign with two
hexadecimal digits stands for a byte, and the bytes are read as UTF-8.  The decoded path is
split at its slashes and compared with the routes; a line feed at its very end is
overlooked where a route ends with a fixed word.  A path that is no route, but would be one
without the slashes at its end, is moved.
-/

set_option autoImplicit false

namespace Gridwalk.Http

/-- The bytes of a path, percent signs resolved. -/
def pathBytes : List Char → List Nat
  | '%' :: a :: b :: rest =>
      match Text.hexDigit? a, Text.hexDigit? b with
      | some high, some low => (16 * high + low) :: pathBytes rest
      | _, _ => Text.Utf8.encode '%' ++ pathBytes (a :: b :: rest)
  | c :: rest => Text.Utf8.encode c ++ pathBytes rest
  | [] => []

/-- The decoded form of a path. -/
def decodePath (path : String) : List Char :=
  Text.Utf8.decode (pathBytes path.toList)

/-- The parts of a text between the places of a mark; one more than there are marks. -/
def parts (mark : Char) : List Char → List (List Char)
  | [] => [[]]
  | c :: rest =>
      if c == mark then [] :: parts mark rest
      else
        match parts mark rest with
        | first :: others => (c :: first) :: others
        | [] => [[c]]

/-- The parts between the slashes of a path. -/
def segments (path : List Char) : List (List Char) :=
  parts '/' path

/-- What can be asked for. -/
inductive Route where
  | health
  | info
  | config
  | commands
  | command (id : String)
  | loop (id : String)
  | actor
  | reset
  | run
  | events
  deriving DecidableEq, Repr

/-- The method with which a route is asked for. -/
def Route.method : Route → String
  | .loop _ => "PUT"
  | .reset => "POST"
  | .run => "POST"
  | _ => "GET"

/-- Whether the last part of a path is a word, a line feed at its end overlooked. -/
def isWord (word : String) (segment : List Char) : Bool :=
  segment == word.toList || segment == word.toList ++ ['\n']

/-- The route of a decoded path. -/
def Route.ofPath? (path : List Char) : Option Route :=
  match segments path with
  | [[], last] =>
      if isWord "healthcheck" last then some .health
      else if isWord "info" last then some .info
      else if isWord "config" last then some .config
      else if isWord "commands" last then some .commands
      else if isWord "actor" last then some .actor
      else if isWord "run" last then some .run
      else none
  | [[], first, last] =>
      if first == "commands".toList then
        if last.isEmpty then none else some (.command (String.ofList last))
      else if first == "actor".toList && isWord "reset" last then some .reset
      else if first == "runs".toList && isWord "events" last then some .events
      else none
  | [[], first, id, last] =>
      if first == "commands".toList && !id.isEmpty && isWord "loop" last then
        some (.loop (String.ofList id))
      else none
  | _ => none

/-- Where a request leads. -/
inductive Target where
  | route (route : Route)
  | wrongMethod
  | moved
  | missing
  deriving DecidableEq, Repr

/-- A path without the slashes at its end. -/
def dropSlashes (path : List Char) : List Char :=
  (path.reverse.dropWhile (· == '/')).reverse

/-- Where a request with a method and a decoded path leads. -/
def Target.find (method : String) (path : List Char) : Target :=
  match Route.ofPath? path with
  | some asked => if method == asked.method then .route asked else .wrongMethod
  | none =>
      if (path.getLast? == some '/') && (Route.ofPath? (dropSlashes path)).isSome then .moved
      else .missing

end Gridwalk.Http
