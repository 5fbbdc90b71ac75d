import Sluice.Quota.Backoff
import Sluice.Quota.Bucket
import Sluice.Quota.Route

/-!
# Settings

What can be set, in eight sections, with the values that hold if nothing is said.

* `Settings.backoff`, `Settings.limits`, `Settings.route` and the durations are what the other parts
  of the library make of them.
-/

namespace Sluice

namespace Settings

/-- What is logged, and how. -/
structure Logging where
  /-- The least level that is logged. -/
  level : String
  /-- The form of the lines. -/
  format : String
  deriving DecidableEq, Repr

/-- Where answers are received. -/
structure Listening where
  /-- The address to listen at. -/
  bindAddress : String
  /-- Where others reach this process, if it is not said by its host and port. -/
  advertiseAddress : Option String
  /-- The greatest size of a frame in bytes. -/
  maxFrameSize : UInt64
  deriving DecidableEq, Repr

/-- The queue. -/
structure Queueing where
  /-- Where messages are sent. -/
  endpoint : String
  /-- How long sending may take in milliseconds. -/
  publishTimeoutMs : UInt64
  deriving DecidableEq, Repr

/-- Invocations. -/
structure Invoking where
  /-- How long an invocation may take in milliseconds. -/
  defaultTimeoutMs : UInt64
  /-- Milliseconds between two sweeps. -/
  sweepIntervalMs : UInt64
  deriving DecidableEq, Repr

/-- Sleeping before a bucket is asked again. -/
structure Admission where
  /-- The first sleep in milliseconds. -/
  baseDelayMs : UInt64
  /-- The longest sleep in milliseconds. -/
  maxDelayMs : UInt64
  /-- The part of a sleep that is left to chance. -/
  jitter : Float

/-- The bucket store. -/
structure Buckets where
  /-- The file of the store. -/
  databasePath : String
  /-- The limit of a new bucket. -/
  defaultLimit : UInt32
  /-- The window of a new bucket in milliseconds. -/
  defaultWindowMs : UInt64
  /-- How long to wait for the store in milliseconds. -/
  busyTimeoutMs : UInt64
  deriving DecidableEq, Repr

/-- How buckets are derived from calls. -/
structure Routes where
  /-- The segments whose following number belongs to the bucket. -/
  majorParameters : List String
  deriving DecidableEq, Repr

/-- The endpoint for scrapers. -/
structure Metrics where
  /-- It is there. -/
  enabled : Bool
  /-- Its port. -/
  port : UInt16
  deriving DecidableEq, Repr

end Settings

/-- All settings. -/
structure Settings where
  /-- What is logged, and how. -/
  logging : Settings.Logging
  /-- Where answers are received. -/
  listener : Settings.Listening
  /-- The queue. -/
  queue : Settings.Queueing
  /-- Invocations. -/
  orchestrator : Settings.Invoking
  /-- Sleeping before a bucket is asked again. -/
  admission : Settings.Admission
  /-- The bucket store. -/
  buckets : Settings.Buckets
  /-- How buckets are derived from calls. -/
  routes : Settings.Routes
  /-- The endpoint for scrapers. -/
  metrics : Settings.Metrics

namespace Settings

/-- The settings if nothing is said. -/
def standard : Settings where
  logging := ⟨"info", "compact"⟩
  listener := ⟨"0.0.0.0:7450", none, 1048576⟩
  queue := ⟨"http://127.0.0.1:8085/enqueue", 5000⟩
  orchestrator := ⟨30000, 1000⟩
  admission := ⟨25, 5000, 0.5⟩
  buckets := ⟨"./data/buckets.db", 5, 1000, 5000⟩
  routes := ⟨Route.standard.majors⟩
  metrics := ⟨false, 9090⟩

instance : Inhabited Settings := ⟨standard⟩

/-! ### What is made of them -/

/-- Where others reach a process that listens at a port of a host (`return_address`). -/
def returnAddress (s : Settings) (host : String) (port : UInt16) : String :=
  s.listener.advertiseAddress.getD (host ++ ":" ++ toString port)

/-- How long sending may take. -/
def publishTimeout (s : Settings) : Duration := .ofMillis s.queue.publishTimeoutMs

/-- How long an invocation may take. -/
def defaultTimeout (s : Settings) : Duration := .ofMillis s.orchestrator.defaultTimeoutMs

/-- The time between two sweeps. -/
def sweepInterval (s : Settings) : Duration := .ofMillis s.orchestrator.sweepIntervalMs

/-- How long to wait for the store. -/
def busyTimeout (s : Settings) : Duration := .ofMillis s.buckets.busyTimeoutMs

/-- The bounds of sleeps. -/
def backoff (s : Settings) : Backoff :=
  Backoff.withJitter
    ⟨.ofMillis s.admission.baseDelayMs, .ofMillis s.admission.maxDelayMs, 0⟩ s.admission.jitter

/-- The limits of a new bucket. -/
def limits (s : Settings) : Limits :=
  ⟨s.buckets.defaultLimit, .ofMillis s.buckets.defaultWindowMs⟩

/-- How buckets are derived from calls. -/
def route (s : Settings) : Route := ⟨s.routes.majorParameters⟩

end Settings

end Sluice
