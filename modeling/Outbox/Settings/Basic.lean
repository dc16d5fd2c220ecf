import Outbox.Json.Decode
import Outbox.Registry
import Outbox.Worker.Basic

/-!
# Settings

The settings of the service: their bounds, what they are by default, which combinations
are refused, and the settings of the parts that are made from them.
-/

namespace Outbox

/-- The settings of the service. -/
structure Settings where
  /-- Where the database is. -/
  databaseUrl : String := "postgresql://localhost/staffsync"
  /-- The greatest number of connections to it. -/
  databaseMaxConnections : Nat := 10
  /-- The least number of connections to it. -/
  databaseMinConnections : Nat := 2
  /-- The address to listen at. -/
  host : String := "127.0.0.1"
  /-- The port to listen at. -/
  port : Nat := 8080
  /-- How many seconds a request may take. -/
  requestTimeout : Nat := 30
  /-- Changes go by way of the outbox. -/
  outboxEnabled : Bool := true
  /-- How many events are fetched at once. -/
  outboxBatchSize : Nat := 10
  /-- After how many failures an event is given up. -/
  outboxMaxAttempts : Nat := 5
  /-- How many milliseconds lie between two cycles. -/
  outboxPollIntervalMs : Nat := 5000
  /-- How many milliseconds the first retry waits. -/
  outboxBaseDelayMs : Nat := 5000
  /-- How many milliseconds a retry waits at most. -/
  outboxMaxDelayMs : Nat := 60000
  /-- By which share a delay is spread. -/
  outboxJitterFactor : Binary64 := .zero
  /-- How many milliseconds a call to an adapter may take. -/
  outboxAdapterTimeoutMs : Nat := 10000
  /-- How many milliseconds a claim lasts. -/
  outboxClaimLeaseMs : Nat := 300000
  /-- How many further tries an append has. -/
  outboxEnqueueRetries : Nat := 2
  /-- The names of the adapters, with commas between them. -/
  activeIntegrations : String := "payroll,badge"
  /-- Where the payroll system is. -/
  payrollBaseUrl : String := "http://localhost:9090"
  deriving DecidableEq

namespace Settings

/-! ### Fields -/

/-- The greatest number of 16 bits. -/
def max16 : Nat := 65535

/-- The greatest number of 32 bits. -/
def max32 : Nat := 4294967295

/-- The greatest number of 64 bits. -/
def max64 : Nat := 18446744073709551615

/-- What kind of value a field has, and how it is put into the settings. -/
inductive Slot where
  /-- A text. -/
  | text (put : String → Settings → Settings)
  /-- A natural number up to a bound. -/
  | natural (most : Nat) (put : Nat → Settings → Settings)
  /-- A truth value. -/
  | flag (put : Bool → Settings → Settings)
  /-- A number in floating point. -/
  | fraction (put : Binary64 → Settings → Settings)

/-- The fields by name, in order. -/
def slots : List (String × Slot) :=
  [ ("database_url", .text fun v s => { s with databaseUrl := v }),
    ("database_max_connections",
      .natural max32 fun v s => { s with databaseMaxConnections := v }),
    ("database_min_connections",
      .natural max32 fun v s => { s with databaseMinConnections := v }),
    ("host", .text fun v s => { s with host := v }),
    ("port", .natural max16 fun v s => { s with port := v }),
    ("request_timeout", .natural max64 fun v s => { s with requestTimeout := v }),
    ("outbox_enabled", .flag fun v s => { s with outboxEnabled := v }),
    ("outbox_batch_size", .natural max64 fun v s => { s with outboxBatchSize := v }),
    ("outbox_max_attempts", .natural max32 fun v s => { s with outboxMaxAttempts := v }),
    ("outbox_poll_interval_ms",
      .natural max64 fun v s => { s with outboxPollIntervalMs := v }),
    ("outbox_base_delay_ms", .natural max64 fun v s => { s with outboxBaseDelayMs := v }),
    ("outbox_max_delay_ms", .natural max64 fun v s => { s with outboxMaxDelayMs := v }),
    ("outbox_jitter_factor", .fraction fun v s => { s with outboxJitterFactor := v }),
    ("outbox_adapter_timeout_ms",
      .natural max64 fun v s => { s with outboxAdapterTimeoutMs := v }),
    ("outbox_claim_lease_ms", .natural max64 fun v s => { s with outboxClaimLeaseMs := v }),
    ("outbox_enqueue_retries", .natural max32 fun v s => { s with outboxEnqueueRetries := v }),
    ("active_integrations", .text fun v s => { s with activeIntegrations := v }),
    ("payroll_base_url", .text fun v s => { s with payrollBaseUrl := v }) ]

/-- The names by which a field goes: in lower case and in upper case. -/
def spellings (name : String) : List String := [name, Text.upper name]

/-- A field of the JSON form. -/
def Slot.field (name : String) : Slot → Json.Field Settings
  | text put => .defaulted (spellings name) .text put
  | natural most put => .defaulted (spellings name) (.natural most) put
  | flag put => .defaulted (spellings name) .bool put
  | fraction put => .defaulted (spellings name) .float put

/-- Reads settings from JSON; all fields may be left out. -/
def decoder : Json.Decoder Settings :=
  .record (slots.map fun (name, slot) => slot.field name) {}

/-- The settings as JSON. -/
def toJson (s : Settings) : Json :=
  .object
    [ ("active_integrations", .text s.activeIntegrations),
      ("database_max_connections", .integer s.databaseMaxConnections),
      ("database_min_connections", .integer s.databaseMinConnections),
      ("database_url", .text s.databaseUrl),
      ("host", .text s.host),
      ("outbox_adapter_timeout_ms", .integer s.outboxAdapterTimeoutMs),
      ("outbox_base_delay_ms", .integer s.outboxBaseDelayMs),
      ("outbox_batch_size", .integer s.outboxBatchSize),
      ("outbox_claim_lease_ms", .integer s.outboxClaimLeaseMs),
      ("outbox_enabled", .bool s.outboxEnabled),
      ("outbox_enqueue_retries", .integer s.outboxEnqueueRetries),
      ("outbox_jitter_factor", .float s.outboxJitterFactor),
      ("outbox_max_attempts", .integer s.outboxMaxAttempts),
      ("outbox_max_delay_ms", .integer s.outboxMaxDelayMs),
      ("outbox_poll_interval_ms", .integer s.outboxPollIntervalMs),
      ("payroll_base_url", .text s.payrollBaseUrl),
      ("port", .integer s.port),
      ("request_timeout", .integer s.requestTimeout) ]

/-! ### Refused settings -/

/-- Why settings are refused. -/
inductive Refusal where
  /-- The port is zero. -/
  | zeroPort
  /-- There may be no connections. -/
  | zeroMaxConnections
  /-- There must be more connections than there may be. -/
  | minOverMaxConnections
  /-- No events are fetched. -/
  | zeroBatchSize
  /-- There is no pause between cycles. -/
  | zeroPollInterval
  /-- There are no attempts. -/
  | zeroMaxAttempts
  /-- The first delay is longer than the longest. -/
  | baseOverMaxDelay
  /-- The spread is no share. -/
  | jitterOutOfRange
  /-- Adapters have no time. -/
  | zeroAdapterTimeout
  /-- A claim may end while an adapter is called. -/
  | leaseWithinTimeout
  deriving DecidableEq, Repr

namespace Refusal

/-- The wording of a refusal. -/
def message : Refusal → String
  | zeroPort => "port must be greater than 0"
  | zeroMaxConnections => "database max_connections must be greater than 0"
  | minOverMaxConnections => "database min_connections cannot exceed max_connections"
  | zeroBatchSize => "outbox_batch_size must be greater than 0"
  | zeroPollInterval => "outbox_poll_interval_ms must be greater than 0"
  | zeroMaxAttempts => "outbox_max_attempts must be greater than 0"
  | baseOverMaxDelay => "outbox_base_delay_ms cannot exceed outbox_max_delay_ms"
  | jitterOutOfRange => "outbox_jitter_factor must be between 0.0 and 1.0"
  | zeroAdapterTimeout => "outbox_adapter_timeout_ms must be greater than 0"
  | leaseWithinTimeout => "outbox_claim_lease_ms must exceed outbox_adapter_timeout_ms"

end Refusal

/-- The first rule that settings break. -/
def refusal? (s : Settings) : Option Refusal :=
  if s.port = 0 then some .zeroPort
  else if s.databaseMaxConnections = 0 then some .zeroMaxConnections
  else if s.databaseMaxConnections < s.databaseMinConnections then some .minOverMaxConnections
  else if s.outboxBatchSize = 0 then some .zeroBatchSize
  else if s.outboxPollIntervalMs = 0 then some .zeroPollInterval
  else if s.outboxMaxAttempts = 0 then some .zeroMaxAttempts
  else if s.outboxMaxDelayMs < s.outboxBaseDelayMs then some .baseOverMaxDelay
  else if !s.outboxJitterFactor.isUnit then some .jitterOutOfRange
  else if s.outboxAdapterTimeoutMs = 0 then some .zeroAdapterTimeout
  else if s.outboxClaimLeaseMs ≤ s.outboxAdapterTimeoutMs then some .leaseWithinTimeout
  else none

/-! ### Settings of the parts -/

/-- When events are tried again. -/
def retryPolicy (s : Settings) : RetryPolicy where
  maxAttempts := s.outboxMaxAttempts
  baseDelay := .ofMillis s.outboxBaseDelayMs
  maxDelay := .ofMillis s.outboxMaxDelayMs
  jitter := s.outboxJitterFactor

/-- How the worker works. -/
def workerSettings (s : Settings) : WorkerSettings where
  batchSize := s.outboxBatchSize
  pollInterval := .ofMillis s.outboxPollIntervalMs
  retry := s.retryPolicy
  claimLease := .ofMillis s.outboxClaimLeaseMs
  shutdownTimeout := .ofSeconds s.requestTimeout

/-- How long a call to an adapter may take. -/
def adapterTimeout (s : Settings) : Span := .ofMillis s.outboxAdapterTimeoutMs

/-- A text between its commas, without blanks around and without blank parts. -/
def commaParts (text : String) : List String :=
  ((text.toList.splitOn ',').map fun cs => String.ofList (Text.trimChars cs)).filter
    fun part => !part.isEmpty

/-- Which adapters to load. -/
def adapterSettings (s : Settings) : AdapterSettings where
  active := commaParts s.activeIntegrations
  payrollBaseUrl := s.payrollBaseUrl
  timeout := s.adapterTimeout

/-- A database address with the password left out: what stands between the first at sign
and the last colon before it. -/
def maskPassword (url : List Char) : List Char :=
  let before := url.takeWhile (· ≠ '@')
  let after := url.dropWhile (· ≠ '@')
  let front := before.reverse.dropWhile (· ≠ ':')
  if after.isEmpty || front.isEmpty then url
  else front.reverse ++ "***".toList ++ after

/-- The database address as it may be shown. -/
def maskedDatabaseUrl (s : Settings) : String :=
  String.ofList (maskPassword s.databaseUrl.toList)

end Settings

end Outbox
