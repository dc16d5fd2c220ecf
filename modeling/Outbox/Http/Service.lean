import Outbox.Http.Call
import Outbox.Publish
import Outbox.Store.Page
import Outbox.Store.Counts

/-!
# The interface

What each call does and how it is answered. The operations are those of the place where
the interface runs, so that one definition serves wherever there is an event log.
-/

namespace Outbox.Http

/-- What the interface needs from where it runs. -/
structure Host (m : Type → Type) where
  /-- The time. -/
  now : m Instant
  /-- Whether the event log answers. -/
  storeHealth : m (Except StoreError Unit)
  /-- What is known about each adapter. -/
  adapterHealth : m (List HealthReport)
  /-- A page of the events. -/
  list : Option Status → Nat → Nat → m (Except StoreError Page)
  /-- The number of events in each status. -/
  counts : m (Except StoreError StatusCounts)
  /-- Resets one event. -/
  retryOne : Int → m (Except StoreError Event)
  /-- Resets all dead events. -/
  retryAllDead : m (Except StoreError Nat)
  /-- Resets the events that a filter selects. -/
  replay : ReplayFilter → m (Except StoreError Nat)
  /-- Publishes a change. -/
  publish : Mutation → m (Except StoreError Published)

/-! ### Answers -/

/-- The version of the service. -/
def version : String := "0.1.0"

/-- The response to a result, or to the error in its place. -/
def answer {α : Type} (respond : α → Response) : Except StoreError α → Response
  | .ok a => respond a
  | .error e => (ApiError.ofStore e).response

/-- The number of events that an operation reset. -/
def countBody (n : Nat) : Json := .object [("count", .integer n)]

/-- The health of the service. -/
def healthResponse (now : Instant) (store : Except StoreError Unit) : Response :=
  let (up, message) : Bool × List (String × Json) := match store with
    | .ok () => (true, [])
    | .error e => (false, [("message", .text ("Event store unavailable: " ++ e.message))])
  let database :=
    message ++ [("response_time_ms", .integer 0), ("status", .text (if up then "up" else "down"))]
  .json (if up then 200 else 503)
    (.object
      [ ("checks", .object [("database", .object database)]),
        ("status", .text (if up then "healthy" else "unhealthy")),
        ("timestamp", now.toJson),
        ("version", .text version) ])

/-- That the process answers. -/
def liveResponse (now : Instant) : Response :=
  .json 200
    (.object
      [ ("service", .text "staffsync-api"),
        ("status", .text "alive"),
        ("timestamp", now.toJson) ])

/-- What is known about an adapter. -/
def reportBody (r : HealthReport) : Json :=
  .object
    [ ("adapterName", .text r.adapter),
      ("healthy", .bool r.healthy),
      ("message", .text r.message) ]

/-- The health of the adapters. -/
def integrationsResponse (reports : List HealthReport) : Response :=
  .json 200
    (.object
      [ ("adapters", .array (reports.map reportBody)),
        ("status", .text (if reports.all (·.healthy) then "healthy" else "degraded")) ])

/-- How one adapter fared. -/
def outcomeBody (o : AdapterOutcome) : Json :=
  match o.result with
  | .success => .object [("adapter", .text o.adapter), ("success", .bool true)]
  | .failure message =>
    .object [("adapter", .text o.adapter), ("message", .text message), ("success", .bool false)]

/-- What became of a published change. -/
def publishedResponse : Published → Response
  | .queued e => .json 202 (.object [("event", e.toJson), ("mode", .text "outbox")])
  | .synced d =>
    .json 200
      (.object
        [ ("message", .text d.message),
          ("mode", .text "direct"),
          ("outcomes", .array (d.outcomes.map outcomeBody)),
          ("success", .bool d.success) ])

/-- The number of events in each status, and of all. -/
def statsBody (c : StatusCounts) : Json :=
  .object [("counts", c.toJson), ("total", .integer c.total)]

/-- The answer to a request that took too long. -/
def timeoutResponse : Response := .empty 408

namespace Host

variable {m : Type → Type} [Monad m]

/-- Carries out a call. -/
def perform (h : Host m) : Call → m Response
  | .health => do return healthResponse (← h.now) (← h.storeHealth)
  | .live => do return liveResponse (← h.now)
  | .integrations => do return integrationsResponse (← h.adapterHealth)
  | .list status page limit => do
    return answer (fun p => .json 200 p.toJson) (← h.list status page limit)
  | .stats => do return answer (fun c => .json 200 (statsBody c)) (← h.counts)
  | .retry id => do return answer (fun e => .json 200 e.toJson) (← h.retryOne id)
  | .retryDead => do return answer (fun n => .json 200 (countBody n)) (← h.retryAllDead)
  | .replay request => do
    match request.filter (← h.now) with
    | .error e => return (ApiError.ofStore e).response
    | .ok f => return answer (fun n => .json 200 (countBody n)) (← h.replay f)
  | .publish change => do return answer publishedResponse (← h.publish change)

/-- Answers a request. A request for the head alone is answered as if for the whole, and
the body left out. -/
def respond (h : Host m) (r : Request) : m Response := do
  let response ← match Call.ofRequest r with
    | .error response => pure response
    | .ok call => h.perform call
  return if r.method == "HEAD" then response.headOnly else response

end Host

end Outbox.Http
