import Gridwalk.Http.Address
import Gridwalk.Http.Check
import Gridwalk.Json.Compact
import Gridwalk.Http.Path
import Gridwalk.Site
import Gridwalk.View

/-!
# The service

`Http.serve` answers requests to a site.  A request is answered in this order: its path
and method are looked up, its body is read as JSON, the session is asked for, the fields
are checked, and only then anything is done.  What a run or an edit is refused for is told
with its status; any other fault is answered with status 500, and so is a request whose
answer cannot be sent, whatever it has done.
-/

set_option autoImplicit false

namespace Gridwalk.Http

/-- A request; the query is decoded, the path is not. -/
structure Request where
  method : String
  path : String
  query : List (String × String) := []
  body : Option String := none
  deriving Repr

/-- A request for what an address names; a query that is given takes the place of its own. -/
def Request.ofAddress (method : String) (address : Address)
    (query : Option (List (String × String))) (body : Option String) : Request where
  method
  path := String.ofList address.path
  query := query.getD address.parameters
  body

/-- What a response holds. -/
inductive Content where
  | json (value : Json)
  | text (text : String)
  deriving Repr

/-- The response to a request. -/
structure Response where
  status : Nat
  content : Content
  deriving Repr

namespace Response

/-- The response to a request that met an unforeseen fault. -/
def failure : Response := ⟨500, .text "Internal Server Error"⟩

/-- A response that went well; a value with a torn phrase in it cannot be sent.  No client reads
an integer of too many digits, so that a value that holds one is no more than a text. -/
def ok (value : Json) : Response :=
  if value.isTorn then failure
  else if value.isVast then ⟨200, .text value.compact⟩
  else ⟨200, .json value⟩

/-- A response that tells something. -/
def detail (status : Nat) (text : String) : Response :=
  ⟨status, .json (.obj [("detail", .text text)])⟩

/-- How deep the value of a complaint may be nested. -/
def deepestGiven : Nat := 954

/-- Whether a complaint can be sent: it takes the value along that it is about. -/
def isTellable (complaint : Complaint) : Bool :=
  complaint.given.isFinite && !complaint.given.isTorn && complaint.given.depth ≤ deepestGiven

/-- The response to a request whose fields are not as they should be. -/
def invalid (complaints : List Complaint) : Response :=
  if complaints.all isTellable then
    ⟨422, .json (.obj [("detail", .arr (complaints.map Complaint.view))])⟩
  else failure

/-- The response to a request whose body is not read. -/
def unread : Unread → Response
  | .malformed position =>
      invalid [⟨.malformed, [.name "body", .index position], .obj []⟩]
  | .unreadable => detail 400 "There was an error parsing the body"

/-- Nothing is known under the path. -/
def notFound : Response := detail 404 "Not Found"

/-- The path is known, but not with this method. -/
def wrongMethod : Response := detail 405 "Method Not Allowed"

/-- The path is known without the slash at its end. -/
def moved : Response := ⟨307, .text ""⟩

/-- No command has the id that was asked for. -/
def unknownCommand : Response := detail 404 "Command not found"

/-- The response as it goes out to a method; one method is answered without content. -/
def outgoing (method : String) (response : Response) : Response :=
  if method == "HEAD" then { response with content := .text "" } else response

end Response

/-- The name of the program. -/
def programName : String := "blockbot"

/-- The version of the program. -/
def programVersion : String := "0.1.0"

/-- How a fault of an edit is told. -/
def editRefusal (fault : Fault) : Response :=
  match fault with
  | .unknownCommand _ => .unknownCommand
  | fault =>
      match fault.kind with
      | .runInProgress => .detail 409 fault.message
      | .value => .detail 422 fault.message
      | _ => .failure

/-- How a fault of a reset is told. -/
def resetRefusal (fault : Fault) : Response :=
  match fault.kind with
  | .runInProgress => .detail 409 fault.message
  | .value => .detail 422 fault.message
  | _ => .failure

/-- How a fault of a run is told. -/
def runRefusal (fault : Fault) : Response :=
  match fault.kind with
  | .runInProgress => .detail 409 fault.message
  | _ => .failure

/-- The edit of a loop that a body asks for. -/
def loopEdit (members : List (Phrase × Json)) : Checked Loop.Edit :=
  let repeats := optionalField members "repeats" (located (bodyField "repeats") natural)
  let children := optionalField members "children" (textList (bodyField "children"))
  (repeats.both children).map fun (repeats, children) => { repeats, children }

/-- An integer field of a body, zero if it is missing. -/
def integerField (members : List (Phrase × Json)) (name : String) : Checked Int :=
  fieldOr members name 0 (located (bodyField name) integer)

/-- The position and the angle that a body asks for. -/
def startCell (members : List (Phrase × Json)) : Checked (Int × Int × Int) :=
  (integerField members "x").both
    ((integerField members "y").both (integerField members "angle"))

/-- The program that a body asks for. -/
def program (members : List (Phrase × Json)) : Checked (List Phrase) :=
  fieldOr members "command_ids" [] (textList (bodyField "command_ids"))

/-- How many events are shown unless the query says otherwise. -/
def defaultCount : Int := 50

/-- How many events at most are shown. -/
def largestCount : Int := 500

/-- How many events a query asks for; the last of several parameters counts. -/
def eventCount (query : List (String × String)) : Checked Int :=
  match query.reverse.lookup "count" with
  | none => .ok defaultCount
  | some text => located [.name "query", .name "count"] integer (.text text)

/-- How deep a stored payload may be nested to be shown. -/
def deepestPayload : Nat := 253

/-- A stream entry as it is shown: its fields, with the payload read as JSON; a missing or
empty payload counts as an empty object.  Numbers that are not finite are shown as null; a
payload that is nested too deep or holds an integer of too many digits is not shown. -/
def entryView (fields : Fields) : Except Fault Json := do
  let shown := fields.foldl (fun members field => Json.insert members field.1 (.text field.2)) []
  let text := (fields.lookup "payload").getD ""
  let payload ←
    if text.isEmpty then pure (Json.obj [])
    else
      match Json.read text with
      | .ok value =>
          if deepestPayload < value.depth || value.isVast then throw .unreadablePayload
          else pure value.finitePart
      | .error _ => throw .unreadablePayload
  return .obj (Json.insert shown "payload" payload)

/-- How deep a value may be nested to be shown in a result. -/
def deepestShown : Nat := 255

/-- Whether a result can be shown: the values of its actor and those in the payloads of its events
are not nested too deep. -/
def isShowable (result : RunResult) : Bool :=
  (Actor.fields.all fun field => (result.actor.shown field).depth ≤ deepestShown) &&
    result.events.all fun event =>
      event.occurrence.payload.all fun member => member.2.depth ≤ deepestShown

/-- A result as it is answered; numbers in it that are not finite are shown as null. -/
def resultView (result : RunResult) : Json :=
  result.view.finitePart

/-- The response to a request for a run that has come to its result. -/
def Response.ofResult (result : RunResult) : Response :=
  if isShowable result then .ok (resultView result) else .failure

/-- Names for a run that has not been made: its id, and a token for the lease. -/
structure Fresh where
  run : RunId
  token : String

/-- Whether a route is about the session. -/
def Route.needsSession : Route → Bool
  | .health => false
  | .info => false
  | _ => true

/-- Whether a route reads the body of a request. -/
def Route.readsBody : Route → Bool
  | .loop _ => true
  | .reset => true
  | .run => true
  | _ => false

section

variable {σ : Type} (site : Place σ Site)

/-- Answers with the fields of a body once they are checked. -/
def withChecked {α : Type} (checked : Checked α) (answer : α → Routine σ Response) :
    Routine σ Response :=
  match checked with
  | .error complaints => pure (.invalid complaints)
  | .ok a => answer a

/-- Answers with the outcome of an act, its faults told as `refusal` says. -/
def told {α : Type} (act : Act σ α) (refusal : Fault → Response) (view : α → Json) :
    Routine σ Response := do
  match ← (act.attempt : Act σ (Except Fault α)) with
  | .ok a => pure (.ok (view a))
  | .error fault => pure (refusal fault)

/-- Shows the last events of the session, the oldest of them first. -/
def showEvents (session : String) (count : Int) : Act σ Json := do
  let key := Journal.streamKey session
  let store ← Act.read (site.inside Site.storePlace)
  let newest ← Act.ofExcept (store.newest key count.toNat)
  let events ← Act.ofExcept (newest.reverse.mapM entryView)
  return .obj [("stream", .text key), ("events", .arr events)]

/-- Runs a program for the session. -/
def answerRun (fresh : Fresh) (session : String) (ids : List Phrase) : Routine σ Response := do
  let ticket : Ticket := { session, token := fresh.token, run := fresh.run }
  let outcome ←
    ((Site.stage site).dispatch (site.inside Site.storePlace) ticket ids).attempt
  match outcome with
  | .ok result => return .ofResult result
  | .error fault => if fault.isOrdinary then return runRefusal fault else .fail fault

/-- Answers a request for a route in a session, where `body` is the body as it was read. -/
def answer (fresh : Fresh) (session : String) (request : Request) (body : Option Json) :
    Route → Routine σ Response
  | .config => do
      let c ← ((Site.stage site).read : Act σ Context)
      return .ok c.settings.grid.view
  | .commands => do
      let c ← ((Site.stage site).read : Act σ Context)
      return .ok c.catalog.view
  | .command id => do
      match ← ((Site.stage site).lookup id : Act σ (Option Command)) with
      | some command => return .ok command.view
      | none => return .unknownCommand
  | .actor => do
      let actor ← ((Site.stage site).actor : Act σ Actor)
      return .ok actor.view
  | .events =>
      withChecked (eventCount request.query) fun count => do
        if count < 1 || largestCount < count then
          return .detail 422 "count must be between 1 and 500"
        else told (showEvents site session count) (fun _ => .failure) id
  | .loop id =>
      withChecked (objectBody body >>= loopEdit) fun edit =>
        told ((Site.stage site).editLoop id edit) editRefusal fun loop => (Command.loop loop).view
  | .reset =>
      withChecked (objectBody body >>= startCell) fun (x, y, angle) =>
        told ((Site.stage site).resetActor x y angle) resetRefusal Actor.view
  | .run => withChecked (objectBody body >>= program) fun ids => answerRun site fresh session ids
  | .health => pure (.ok (.obj [("status", .text "ok")]))
  | .info => pure (.ok (.obj [("name", .text programName), ("version", .text programVersion)]))

/-- Answers a request for a route. -/
def answerRoute (fresh : Fresh) (request : Request) (route : Route) : Routine σ Response :=
  match if route.readsBody then readBody request.body else .ok none with
  | .error why => pure (.unread why)
  | .ok body => do
      let s ← (Act.read site : Act σ Site)
      match s.sessions.current with
      | some session => answer site fresh session.id request body route
      | none =>
          if route.needsSession then return .failure else answer site fresh "" request body route

/-- Answers a request. -/
def serve (fresh : Fresh) (request : Request) : Routine σ Response := do
  let response ←
    match Target.find request.method (decodePath request.path) with
    | .missing => pure .notFound
    | .moved => pure .moved
    | .wrongMethod => pure .wrongMethod
    | .route route => answerRoute site fresh request route
  return response.outgoing request.method

end

end Gridwalk.Http
