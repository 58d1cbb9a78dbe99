import MetricRelay.Buffer
import MetricRelay.Codec.Format
import MetricRelay.Config.Layers
import MetricRelay.Delivery.Retry

/-!
# Options of a sender

Every option but the default source name has a default.  Options are read off a configuration
field by field (`SenderOptions.decode`) and checked as a whole (`SenderOptions.fault?`).
-/

namespace MetricRelay

/-! ### Endpoints -/

/-- Where points are sent to. -/
structure Endpoint where
  scheme : String := "https"
  hostname : String := "ingest.signalfx.com"
  port : UInt16 := 443
deriving DecidableEq, Repr

namespace Endpoint

/-- The endpoint of a realm. -/
def forRealm (realm : String) : Endpoint := { hostname := s!"ingest.{realm}.signalfx.com" }

/-- The address of a path on the endpoint. -/
def url (e : Endpoint) (path : String) : String := s!"{e.scheme}://{e.hostname}:{e.port}{path}"

def decode : Decoder Endpoint :=
  Decoder.fields "Endpoint" ["scheme", "hostname", "port"] {} fun field c e =>
    match field with
    | "scheme" => return { e with scheme := ← Decoder.text c }
    | "hostname" => return { e with hostname := ← Decoder.text c }
    | _ => return { e with port := ← Decoder.unsigned16 c }

end Endpoint

/-! ### Retries -/

/-- How waits between attempts grow. -/
inductive BackoffKind where
  | constant
  | exponential
deriving DecidableEq, Repr

/-- Options for retrying. -/
structure RetryOptions where
  maxRetries : UInt32 := 3
  kind : BackoffKind := .constant
  shortestMs : UInt64 := 100
  longestMs : UInt64 := 1000
deriving DecidableEq, Repr

namespace RetryOptions

/-- Sets how waits grow.  Of a duration, the low 64 bits of its whole milliseconds count. -/
def withBackoff (o : RetryOptions) (kind : BackoffKind) (shortest longest : Duration) :
    RetryOptions :=
  { o with kind, shortestMs := shortest.wholeMillis.toUInt64
           longestMs := longest.wholeMillis.toUInt64 }

def backoff (o : RetryOptions) : Backoff :=
  match o.kind with
  | .constant => .constant (.ofMillis o.shortestMs)
  | .exponential => .exponential (.ofMillis o.shortestMs) (.ofMillis o.longestMs)

def policy (o : RetryOptions) : RetryPolicy :=
  .standard o.maxRetries .transient o.backoff.wait

def decode : Decoder RetryOptions :=
  Decoder.fields "RetryConfiguration"
    ["max_retries", "backoff", "backoff_base_ms", "backoff_max_ms"] {} fun field c o =>
    match field with
    | "max_retries" => return { o with maxRetries := ← Decoder.unsigned32 c }
    | "backoff" =>
      return { o with
        kind := ← Decoder.choice "BackoffKind"
          [("constant", .constant), ("exponential", .exponential)] c }
    | "backoff_base_ms" => return { o with shortestMs := ← Decoder.unsigned64 c }
    | _ => return { o with longestMs := ← Decoder.unsigned64 c }

end RetryOptions

/-! ### Senders -/

/-- How connections are used. -/
inductive ConnectionMode where
  | single
  | pooled (maxConnections : UInt64)
deriving DecidableEq, Repr

/-- The options of a sender. -/
structure SenderOptions where
  defaultSource : String
  endpoint : Endpoint := {}
  ingestPath : String := "/v2/datapoint"
  maxBufferSize : UInt64 := 10000
  maxBatchSize : UInt64 := 1000
  flushIntervalMs : UInt64 := 1000
  shutdownTimeoutMs : UInt64 := 10000
  overflowPolicy : OverflowPolicy := .reject
  encoding : Format := .protobuf
  compresses : Bool := true
  requestTimeoutMs : UInt64 := 2000
  poolsConnections : Bool := false
  maxConnections : UInt64 := 8
  retry : RetryOptions := {}
deriving DecidableEq, Repr

namespace SenderOptions

/-- The full address that points are sent to. -/
def ingestUrl (o : SenderOptions) : String := o.endpoint.url o.ingestPath

def connectionMode (o : SenderOptions) : ConnectionMode :=
  if o.poolsConnections then .pooled o.maxConnections else .single

/-- The reason why the options cannot be used, if there is one. -/
def fault? (o : SenderOptions) : Option String :=
  if (trimBlank o.defaultSource.toList).isEmpty then
    some "default source name must not be empty"
  else if o.maxBufferSize = 0 then some "max_buffer_size must be greater than zero"
  else if o.maxBatchSize = 0 then some "max_batch_size must be greater than zero"
  else if o.maxBufferSize < o.maxBatchSize then
    some "max_batch_size must not be larger than max_buffer_size"
  else if o.flushIntervalMs = 0 then some "flush_interval_ms must be greater than zero"
  else none

/-- The fields in the order in which a list gives them. -/
def fieldNames : List String :=
  ["default_source_name", "endpoint", "ingest_path", "max_buffer_size", "max_batch_size",
    "flush_interval_ms", "shutdown_timeout_ms", "overflow_policy", "encoding", "compression",
    "request_timeout_ms", "connection_mode", "max_connections", "retry"]

/-- The options with one field read off a value.  The default source name is kept beside them,
since it has to be given. -/
def set (field : String) (c : Config) :
    Option String × SenderOptions → Except FieldError (Option String × SenderOptions)
  | (source, o) => do
    match field with
    | "default_source_name" => return (some (← Decoder.text c), o)
    | "endpoint" => return (source, { o with endpoint := ← Endpoint.decode c })
    | "ingest_path" => return (source, { o with ingestPath := ← Decoder.text c })
    | "max_buffer_size" => return (source, { o with maxBufferSize := ← Decoder.size c })
    | "max_batch_size" => return (source, { o with maxBatchSize := ← Decoder.size c })
    | "flush_interval_ms" => return (source, { o with flushIntervalMs := ← Decoder.unsigned64 c })
    | "shutdown_timeout_ms" =>
      return (source, { o with shutdownTimeoutMs := ← Decoder.unsigned64 c })
    | "overflow_policy" =>
      return (source, { o with
        overflowPolicy := ← Decoder.choice "OverflowPolicy"
          [("reject", .reject), ("block", .block)] c })
    | "encoding" =>
      return (source, { o with
        encoding := ← Decoder.choice "EncodingFormat"
          [("protobuf", .protobuf), ("json", .json)] c })
    | "compression" => return (source, { o with compresses := ← Decoder.bool c })
    | "request_timeout_ms" =>
      return (source, { o with requestTimeoutMs := ← Decoder.unsigned64 c })
    | "connection_mode" =>
      return (source, { o with
        poolsConnections := ← Decoder.choice "ConnectionModeKind"
          [("single", false), ("pooled", true)] c })
    | "max_connections" => return (source, { o with maxConnections := ← Decoder.size c })
    | _ => return (source, { o with retry := ← RetryOptions.decode c })

/-- Reads the options, of which the default source name has to be given.  A table without it lacks
a field, and a list that ends before it is rejected. -/
def decode : Decoder SenderOptions := fun c => do
  let (source, o) ←
    Decoder.fields "SenderConfiguration" fieldNames (none, { defaultSource := "" }) set c
  match source, c with
  | some source, _ => return { o with defaultSource := source }
  | none, .list _ => .error .rejected
  | none, _ => .error (.missing "default_source_name")

end SenderOptions

/-- Why options could not be had from a configuration. -/
inductive OptionsError where
  | config (cause : ConfigError)
  | invalid (reason : String)
deriving DecidableEq, Repr

/-- The checked options that settings give. -/
def SenderOptions.ofSettings (s : Settings) : Except OptionsError SenderOptions :=
  match s.whole decode with
  | .error e => .error (.config e)
  | .ok o =>
    match o.fault? with
    | some reason => .error (.invalid reason)
    | none => .ok o

end MetricRelay
