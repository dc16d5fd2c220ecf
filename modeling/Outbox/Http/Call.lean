import Outbox.Event.Wire
import Outbox.Http.Error
import Outbox.Http.MediaType
import Outbox.Replay.Request
import Outbox.Store.Page
import Outbox.Text.Digits

/-!
# What a request asks for

A request is turned into a call of one operation, or it is refused. The path decides
first, then the method, then the parameters, then the body; so a wrong body on a path
that takes none is never seen.
-/

namespace Outbox.Http

/-- A path that is served. -/
inductive Route where
  /-- The health of the service. -/
  | health
  /-- Whether the process answers. -/
  | live
  /-- The health of the adapters. -/
  | integrations
  /-- The events. -/
  | events
  /-- The number of events in each status. -/
  | stats
  /-- The reset of one event, by a segment of the path. -/
  | retry (segment : List Char)
  /-- The reset of all dead events. -/
  | retryDead
  /-- A replay. -/
  | replay
  deriving DecidableEq

namespace Route

/-- The path in front of the number of an event to reset. -/
def retryPath : List Char := "/events/retry/".toList

/-- The route of a path. -/
def ofPath? (path : List Char) : Option Route :=
  match String.ofList path with
  | "/health" => some health
  | "/live" => some live
  | "/integrations/health" => some integrations
  | "/events" => some events
  | "/events/stats" => some stats
  | "/events/retry-dead" => some retryDead
  | "/events/replay" => some replay
  | _ =>
    let segment := path.drop retryPath.length
    if retryPath.isPrefixOf path && !segment.isEmpty && !segment.contains '/' then
      some (retry segment)
    else none

/-- The route answers to reading. -/
def isReadable : Route → Bool
  | health | live | integrations | events | stats => true
  | retry _ | retryDead | replay => false

/-- The route answers to posting. -/
def isPostable : Route → Bool
  | events | retry _ | retryDead | replay => true
  | health | live | integrations | stats => false

/-- The methods that a route allows. -/
def allowed (r : Route) : String :=
  match r.isReadable, r.isPostable with
  | true, true => "GET,HEAD,POST"
  | true, false => "GET,HEAD"
  | false, _ => "POST"

end Route

/-- An operation that a request calls. -/
inductive Call where
  /-- Tells the health of the service. -/
  | health
  /-- Tells that the process answers. -/
  | live
  /-- Tells the health of the adapters. -/
  | integrations
  /-- Lists a page of the events. -/
  | list (status : Option Status) (page limit : Nat)
  /-- Tells the number of events in each status. -/
  | stats
  /-- Resets one event. -/
  | retry (id : Int)
  /-- Resets all dead events. -/
  | retryDead
  /-- Resets the events that are asked for. -/
  | replay (request : ReplayRequest)
  /-- Publishes a change. -/
  | publish (change : Mutation)
  deriving DecidableEq

/-- How many events a page holds if the request does not say. -/
def defaultPageSize : Nat := 20

/-- How many events a page holds at most. -/
def maxPageSize : Nat := 100

/-- How many bytes a body holds at most. -/
def maxBodySize : Nat := 2097152

/-- What the query of a listing says. -/
structure ListQuery where
  /-- The name of a status. -/
  status : Option String := none
  /-- The number of the page. -/
  page : Option Nat := none
  /-- How many events a page holds. -/
  limit : Option Nat := none
  deriving DecidableEq

namespace ListQuery

/-- A number of 32 bits. -/
def number? (s : String) : Option Nat :=
  (Digits.number? s.toList).filter fun n => n ≤ maxPage

/-- Takes a parameter; one that comes twice or is no number is refused. -/
def add? (q : ListQuery) : String × String → Option ListQuery
  | ("status", s) => if q.status.isSome then none else some { q with status := some s }
  | ("page", s) =>
    if q.page.isSome then none
    else (number? s).map fun n => { q with page := some n }
  | ("limit", s) =>
    if q.limit.isSome then none
    else (number? s).map fun n => { q with limit := some n }
  | _ => some q

/-- The parameters of a query. -/
def parse? (query : List Char) : Option ListQuery := (formPairs query).foldlM add? {}

/-- The status asked for; a blank one counts as none. -/
def wantedStatus (q : ListQuery) : Except StoreError (Option Status) :=
  match q.status.map Text.trim with
  | none => .ok none
  | some "" => .ok none
  | some name => (Status.parse name).map some

/-- The call that a query asks for. -/
def call (q : ListQuery) : Except StoreError Call :=
  q.wantedStatus.map fun status =>
    .list status (max (q.page.getD 1) 1) (min (max (q.limit.getD defaultPageSize) 1) maxPageSize)

end ListQuery

namespace Call

/-- What is said of a replay request that cannot be read, before the details. -/
def invalidReplay : String := "invalid replay request: "

/-- A listing. -/
def ofQuery (query : List Char) : Except Response Call :=
  match ListQuery.parse? query with
  | none => .error (.text 400 "Failed to deserialize query string")
  | some q => q.call.mapError fun e => (ApiError.ofStore e).response

/-- The reset of the event that a segment of the path numbers. -/
def ofSegment (segment : List Char) : Except Response Call :=
  match Text.Utf8.decode? (Text.Percent.decode segment) with
  | none => .error (.text 400 "Invalid UTF-8 in path")
  | some s =>
    match (Digits.integer? s.toList).filter fun n => minId ≤ n ∧ n ≤ maxId with
    | some id => .ok (.retry id)
    | none => .error (.text 400 "Invalid URL: Cannot parse the event id")

/-- The body is longer than a body may be. -/
def tooLong (body : Bytes) : Bool := maxBodySize < body.length

/-- The answer to a body that is too long. -/
def lengthLimit : Response := .text 413 "length limit exceeded"

/-- The bytes of white space, of which a replay request may consist: space, tab, line feed,
form feed and carriage return. -/
def isWhitespace (b : UInt8) : Bool :=
  b == 0x20 || b == 0x09 || b == 0x0A || b == 0x0C || b == 0x0D

/-- A replay; without a body, of all that failed. -/
def ofReplayBody (body : Bytes) : Except Response Call :=
  if tooLong body then .error lengthLimit
  else if body.all isWhitespace then .ok (.replay {})
  else
    match Json.decodeBytes ReplayRequest.decoder body with
    | .ok request => .ok (.replay request)
    | .error _ => .error (ApiError.badRequest invalidReplay).response

/-- The publication of a change. -/
def ofPublishBody (contentType : Option String) (body : Bytes) : Except Response Call :=
  if !(contentType.bind MediaType.parse?).any MediaType.isJson then
    .error (.text 415 "Expected request with `Content-Type: application/json`")
  else if tooLong body then .error lengthLimit
  else
    match Json.decodeBytes Mutation.decoder body with
    | .ok change => .ok (.publish change)
    | .error .malformed => .error (.text 400 "Failed to parse the request body as JSON")
    | .error .mismatch => .error (.text 422 "Failed to deserialize the JSON body")

/-- What reading a route asks for. -/
def ofRead (r : Request) : Route → Except Response Call
  | .health => .ok .health
  | .live => .ok .live
  | .integrations => .ok .integrations
  | .stats => .ok .stats
  | .events => ofQuery r.query
  | .retry _ | .retryDead | .replay => .error (.empty 405)

/-- What posting to a route asks for. -/
def ofPost (r : Request) : Route → Except Response Call
  | .events => ofPublishBody r.contentType r.body
  | .retry segment => ofSegment segment
  | .retryDead => .ok .retryDead
  | .replay => ofReplayBody r.body
  | .health | .live | .integrations | .stats => .error (.empty 405)

/-- What a request asks for, or why it is refused. -/
def ofRequest (r : Request) : Except Response Call :=
  match Route.ofPath? r.path with
  | none => .error (.empty 404)
  | some route =>
    if (r.method == "GET" || r.method == "HEAD") && route.isReadable then ofRead r route
    else if r.method == "POST" && route.isPostable then ofPost r route
    else .error { status := 405, allow := some route.allowed }

end Call

end Outbox.Http
