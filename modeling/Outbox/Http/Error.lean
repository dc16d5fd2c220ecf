import Outbox.Error.Store
import Outbox.Http.Message

/-!
# Errors of the interface

Every failure of an operation is answered with a status code, a code word and the reason.
-/

namespace Outbox.Http

/-- Why an operation was not carried out. -/
inductive ApiError where
  /-- The request makes no sense. -/
  | badRequest (reason : String)
  /-- What it asks for is not there. -/
  | notFound (reason : String)
  /-- The state of the event does not allow it. -/
  | conflict (reason : String)
  /-- The event log failed. -/
  | storage (reason : String)
  deriving DecidableEq, Repr

namespace ApiError

/-- The error that an error of the event log is for the interface. -/
def ofStore : StoreError → ApiError
  | .invalid why => badRequest why.reason
  | .notFound what => notFound what.reason
  | .conflict rule => conflict rule.reason
  | .database fault => storage fault.reason

/-- The status code. -/
def status : ApiError → Nat
  | badRequest _ => 400
  | notFound _ => 404
  | conflict _ => 409
  | storage _ => 500

/-- The code word. -/
def code : ApiError → String
  | badRequest _ => "INVALID_REQUEST"
  | notFound _ => "EVENT_NOT_FOUND"
  | conflict _ => "EVENT_IN_PROGRESS"
  | storage _ => "STORAGE_ERROR"

/-- The reason. -/
def message : ApiError → String
  | badRequest reason | notFound reason | conflict reason | storage reason => reason

/-- The response to a failure. -/
def response (e : ApiError) : Response :=
  .json e.status
    (.object [("error", .object [("code", .text e.code), ("message", .text e.message)])])

end ApiError

end Outbox.Http
