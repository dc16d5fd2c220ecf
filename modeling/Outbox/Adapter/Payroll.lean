import Outbox.Adapter.Call
import Outbox.Json.Print
import Outbox.Url.Basic

/-!
# The payroll system

Changes are sent to the payroll system as requests to the address of an employee: a
creation or update puts the payload there, so that sending it again overwrites, and a
removal that finds nothing has nothing left to do. The entity id is one segment of the
path; an id that would not be one is refused.
-/

namespace Outbox

/-- Where the payroll system is and how to speak to it. -/
structure PayrollSettings where
  /-- The address below which the records are. -/
  baseUrl : String := "http://localhost:9090"
  /-- How the sender names itself. -/
  userAgent : String := "staffsync-outbox/0.1"
  deriving DecidableEq

/-- What is asked of a record. -/
inductive PeerMethod where
  /-- To overwrite it. -/
  | put
  /-- To remove it. -/
  | delete
  /-- To answer at all. -/
  | get
  deriving DecidableEq, Repr

/-- A request to the payroll system. -/
structure PeerRequest where
  /-- What is asked. -/
  method : PeerMethod
  /-- The address. -/
  url : Url
  /-- How the sender names itself. -/
  userAgent : String
  /-- What is sent along. -/
  body : Option Json
  deriving DecidableEq

/-- A response of the payroll system. -/
structure PeerResponse where
  /-- The status code. -/
  status : Nat
  /-- What it carries. -/
  body : String
  deriving DecidableEq, Repr

namespace PeerResponse

/-- The status tells of a success. -/
def isSuccess (r : PeerResponse) : Bool := 200 ≤ r.status && r.status < 300

end PeerResponse

/-- The adapter of a payroll system. -/
structure Payroll where
  /-- The address below which the records are. -/
  base : Url
  /-- How the sender names itself. -/
  userAgent : String
  deriving DecidableEq

namespace Payroll

/-- The name of the adapter. -/
def name : String := "payroll"

/-- How many characters of a response a message holds. -/
def maxDetail : Nat := 512

/-- A text may be sent as the value of a header. -/
def isHeaderText (s : String) : Bool :=
  s.toList.all fun c => c = '\t' || (0x20 ≤ c.toNat && c.toNat ≠ 0x7F)

/-- The schemes under which the payroll system can be reached. -/
def isServed (scheme : String) : Bool := ["http", "https"].contains scheme

/-- The adapter for some settings. -/
def ofSettings (p : PayrollSettings) : Except DeliveryError Payroll :=
  let refuse (reason : String) : Except DeliveryError Payroll :=
    .error (.configuration (.other reason))
  match Url.parse (Text.trim p.baseUrl) with
  | .error e =>
    refuse ("invalid payroll base URL " ++ Text.quoted p.baseUrl ++ ": " ++ e.message)
  | .ok base =>
    if base.cannotBeBase || !isServed (String.ofList base.scheme) then
      refuse ("payroll base URL must be http(s): " ++ base.text)
    else if !isHeaderText p.userAgent then
      refuse "failed to build HTTP client: builder error"
    else .ok ⟨base, p.userAgent⟩

/-! ### Addresses -/

/-- An entity id that cannot be a segment of a path. -/
def isUnaddressable (entityId : String) : Bool :=
  ["", ".", ".."].contains (Text.trim entityId)

/-- The address of some segments below the base. -/
def endpoint (p : Payroll) (segments : List (List Char)) : Url :=
  (p.base.addPath segments).withoutUser

/-- The address of an employee. -/
def employeeUrl (p : Payroll) (entityId : String) : Except DeliveryError Url :=
  if isUnaddressable entityId then
    .error (.adapter name
      ("entity id " ++ Text.quoted entityId ++ " cannot address a payroll record"))
  else .ok (p.endpoint ["employees".toList, entityId.toList])

/-- The address that tells the health of the system. -/
def healthUrl (p : Payroll) : Url := p.endpoint ["health".toList]

/-! ### Requests -/

/-- The request for a change. -/
def request (p : Payroll) (r : SyncRequest) : Except DeliveryError PeerRequest := do
  let url ← p.employeeUrl r.entityId
  match r.action with
  | .create | .update => return ⟨.put, url, p.userAgent, some r.payload⟩
  | .delete => return ⟨.delete, url, p.userAgent, none⟩

/-- The request for the health of the system. -/
def healthRequest (p : Payroll) : PeerRequest := ⟨.get, p.healthUrl, p.userAgent, none⟩

/-- What is said of a request that was not answered. -/
def unanswered (r : PeerRequest) : String :=
  "error sending request for url (" ++ r.url.text ++ ")"

/-- What a response to a change means. -/
def outcome (r : SyncRequest) (response : PeerResponse) : SyncOutcome :=
  if response.isSuccess then .ok ("payroll " ++ Text.lower r.action.name ++ " " ++ r.entityId)
  else if r.action = .delete ∧ response.status = 404 then
    .ok ("payroll has no record of " ++ r.entityId)
  else
    let detail := Text.trim (String.ofList (response.body.toList.take maxDetail))
    .failed ("payroll responded HTTP " ++ toString response.status ++ ": " ++ detail)

/-- What a response to a check means. -/
def healthOf : Except String PeerResponse → Health
  | .ok response =>
    if response.isSuccess then ⟨true, "payroll API reachable"⟩
    else ⟨false, "payroll health endpoint returned HTTP " ++ toString response.status⟩
  | .error why => ⟨false, "payroll API unreachable: " ++ why⟩

section Exchange

variable {m : Type → Type} [Monad m]

/-- Sends a change; `send` gives no response where none comes. -/
def sync (p : Payroll) (send : PeerRequest → m (Option PeerResponse)) (r : SyncRequest) :
    m (Except DeliveryError SyncOutcome) := do
  match p.request r with
  | .error e => return .error e
  | .ok q =>
    match ← send q with
    | none => return .error (.adapter name (unanswered q))
    | some response => return .ok (outcome r response)

/-- Asks for the health of the system. -/
def health (p : Payroll) (send : PeerRequest → m (Option PeerResponse)) : m Health := do
  match ← send p.healthRequest with
  | none => return healthOf (.error (unanswered p.healthRequest))
  | some response => return healthOf (.ok response)

end Exchange

end Payroll

end Outbox
