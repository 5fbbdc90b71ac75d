import Sluice.Logging.Level
import Sluice.Settings.Basic

/-!
# Checking settings

* `Settings.Fault` is what can be wrong with settings that are well-formed;
* `Settings.faults` lists what is wrong, in the order of the sections;
* `Settings.check` reports the first of them.
-/

namespace Sluice.Settings

/-- What can be wrong. -/
inductive Fault where
  /-- There is no such level. -/
  | logLevel (s : String)
  /-- There is no such form. -/
  | logFormat (s : String)
  /-- No address to listen at. -/
  | bindAddress
  /-- No frame is allowed. -/
  | maxFrameSize
  /-- The queue cannot be reached by HTTP. -/
  | endpoint (s : String)
  /-- No time to send. -/
  | publishTimeout
  /-- No time for an invocation. -/
  | defaultTimeout
  /-- No time between sweeps. -/
  | sweepInterval
  /-- No first sleep. -/
  | baseDelay
  /-- The longest sleep is shorter than the first one. -/
  | maxDelay
  /-- The part left to chance is no part of a whole. -/
  | jitter
  /-- New buckets grant nothing. -/
  | defaultLimit
  /-- New buckets have no window. -/
  | defaultWindow
  /-- The endpoint for scrapers has no port. -/
  | metricsPort
  deriving DecidableEq, Repr

/-- The text for people. -/
def Fault.message : Fault → String
  | logLevel s =>
    "Invalid log level: " ++ s ++ ". Must be one of: trace, debug, info, warn, error"
  | logFormat s => "Invalid log format: " ++ s ++ ". Must be one of: json, pretty, compact"
  | bindAddress => "Listener bind address must not be empty"
  | maxFrameSize => "Listener max frame size must be > 0"
  | endpoint s => "Queue endpoint must be an http(s) URL: " ++ s
  | publishTimeout => "Queue publish timeout must be > 0"
  | defaultTimeout => "Default invocation timeout must be > 0"
  | sweepInterval => "Sweep interval must be > 0"
  | baseDelay => "Admission base delay must be > 0"
  | maxDelay => "Admission max delay must be >= base delay"
  | jitter => "Admission jitter must be within [0, 1]"
  | defaultLimit => "Default bucket limit must be > 0"
  | defaultWindow => "Default bucket window must be > 0"
  | metricsPort => "Metrics port must be > 0"

/-- A text begins like an HTTP address. -/
def isHttp (s : String) : Bool := s.startsWith "http://" || s.startsWith "https://"

/-- Everything that is wrong, in the order of the sections. -/
def faults (s : Settings) : List Fault :=
  let need (holds : Bool) (f : Fault) : List Fault := if holds then [] else [f]
  need (Level.ofName? s.logging.level).isSome (.logLevel s.logging.level) ++
    need (Shape.ofName? s.logging.format).isSome (.logFormat s.logging.format) ++
    need (!s.listener.bindAddress.isEmpty) .bindAddress ++
    need (s.listener.maxFrameSize != 0) .maxFrameSize ++
    need (isHttp s.queue.endpoint) (.endpoint s.queue.endpoint) ++
    need (s.queue.publishTimeoutMs != 0) .publishTimeout ++
    need (s.orchestrator.defaultTimeoutMs != 0) .defaultTimeout ++
    need (s.orchestrator.sweepIntervalMs != 0) .sweepInterval ++
    need (s.admission.baseDelayMs != 0) .baseDelay ++
    need (s.admission.baseDelayMs ≤ s.admission.maxDelayMs) .maxDelay ++
    need (0.0 ≤ s.admission.jitter && s.admission.jitter ≤ 1.0) .jitter ++
    need (s.buckets.defaultLimit != 0) .defaultLimit ++
    need (s.buckets.defaultWindowMs != 0) .defaultWindow ++
    need (!s.metrics.enabled || s.metrics.port != 0) .metricsPort

/-- The first thing that is wrong, if anything is (`validate`). -/
def check (s : Settings) : Except Fault Unit :=
  match s.faults with
  | [] => .ok ()
  | f :: _ => .error f

/-- The level that is logged (`tracing_level`). -/
def level? (s : Settings) : Option Level := Level.parse? s.logging.level

end Sluice.Settings
