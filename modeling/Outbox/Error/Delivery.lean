import Outbox.Error.Store
import Outbox.Time.Span

/-!
# Errors of delivery

What can go wrong between the event log and the systems downstream. Only two of the
kinds blame such a system: it failed, or it took too long.
-/

namespace Outbox

/-- Why the settings of the engine are refused, or a request to it. -/
inductive ConfigurationFault where
  /-- The engine is running. -/
  | alreadyStarted
  /-- The engine was shut down before. -/
  | wasShutDown
  /-- Anything else. -/
  | other (detail : String)
  deriving DecidableEq

namespace ConfigurationFault

/-- The wording of a configuration fault. -/
def reason : ConfigurationFault → String
  | alreadyStarted => "outbox engine already started"
  | wasShutDown => "outbox engine was shut down"
  | other detail => detail

end ConfigurationFault

/-- Why the event log did not do its part. -/
inductive StorageFault where
  /-- The due events could not be fetched. -/
  | fetch (error : StoreError)
  /-- An operation failed. -/
  | store (error : StoreError)
  /-- Anything else. -/
  | other (detail : String)
  deriving DecidableEq

namespace StorageFault

/-- The wording of a storage fault. -/
def reason : StorageFault → String
  | fetch error => "failed to fetch due events: " ++ error.message
  | store error => error.message
  | other detail => detail

end StorageFault

/-- What went wrong in delivery. -/
inductive DeliveryError where
  /-- The event log failed. -/
  | storage (fault : StorageFault)
  /-- An adapter failed instead of reporting an outcome. -/
  | adapter (name : String) (detail : String)
  /-- An adapter took longer than its time limit. -/
  | timeout (name : String) (limit : Span)
  /-- No adapter can be built under this name. -/
  | unknownAdapter (name : String)
  /-- Settings or a request are refused. -/
  | configuration (fault : ConfigurationFault)
  /-- The worker did not stop in time. -/
  | shutdownTimeout (limit : Span)
  /-- The worker's task broke down. -/
  | workerPanic (worker : Nat) (detail : String)
  /-- Anything else. -/
  | internal (detail : String)
  deriving DecidableEq

namespace DeliveryError

/-- Whole milliseconds as they are reported: at most what 64 bits hold. -/
def reportedMillis (a : Span) : Nat := min a.millis 18446744073709551615

/-- The wording of an error. -/
def message : DeliveryError → String
  | storage fault => "storage error: " ++ fault.reason
  | adapter name detail => "adapter " ++ name ++ " failed: " ++ detail
  | timeout name limit =>
    "adapter " ++ name ++ " timed out after " ++ toString (reportedMillis limit) ++ "ms"
  | unknownAdapter name => "unknown adapter: " ++ name
  | configuration fault => "invalid configuration: " ++ fault.reason
  | shutdownTimeout limit => "shutdown timed out after " ++ limit.text
  | workerPanic worker detail => "worker " ++ toString worker ++ " panicked: " ++ detail
  | internal detail => "internal delivery error: " ++ detail

/-- The error blames a system downstream. -/
def isAdapterFailure : DeliveryError → Bool
  | adapter .. | timeout .. => true
  | _ => false

/-- An error of the event log as one of delivery. -/
def ofStore (e : StoreError) : DeliveryError := storage (.store e)

end DeliveryError

end Outbox
