import Sluice.Document
import Sluice.Settings.Basic

/-!
# Settings from a document

`Settings.ofDocument?` reads settings. Sections and fields may be missing, unknown ones are passed
over, and a section may also be a row of its values.
-/

namespace Sluice.Settings

variable {α : Type} [Document α]

open Document

/-- A section: a record with some names. -/
def readSection {β : Type} (names : List String) (read : Record α → Option β) (a : α) :
    Option β := do read (← Document.record? names a)

/-- The section on logging. -/
def readLogging (d : Logging) : α → Option Logging :=
  readSection ["level", "format"] fun r => do
    return ⟨← field r "level" text? d.level, ← field r "format" text? d.format⟩

/-- The section on receiving answers. -/
def readListening (d : Listening) : α → Option Listening :=
  readSection ["bind_address", "advertise_address", "max_frame_size"] fun r => do
    return ⟨← field r "bind_address" text? d.bindAddress,
      ← field r "advertise_address" (nullable? text?) d.advertiseAddress,
      ← field r "max_frame_size" uint64? d.maxFrameSize⟩

/-- The section on the queue. -/
def readQueueing (d : Queueing) : α → Option Queueing :=
  readSection ["endpoint", "publish_timeout_ms"] fun r => do
    return ⟨← field r "endpoint" text? d.endpoint,
      ← field r "publish_timeout_ms" uint64? d.publishTimeoutMs⟩

/-- The section on invocations. -/
def readInvoking (d : Invoking) : α → Option Invoking :=
  readSection ["default_timeout_ms", "sweep_interval_ms"] fun r => do
    return ⟨← field r "default_timeout_ms" uint64? d.defaultTimeoutMs,
      ← field r "sweep_interval_ms" uint64? d.sweepIntervalMs⟩

/-- The section on sleeping. -/
def readAdmission (d : Admission) : α → Option Admission :=
  readSection ["base_delay_ms", "max_delay_ms", "jitter"] fun r => do
    return ⟨← field r "base_delay_ms" uint64? d.baseDelayMs,
      ← field r "max_delay_ms" uint64? d.maxDelayMs, ← field r "jitter" float? d.jitter⟩

/-- The section on the bucket store. -/
def readBuckets (d : Buckets) : α → Option Buckets :=
  readSection ["database_path", "default_limit", "default_window_ms", "busy_timeout_ms"] fun r => do
    return ⟨← field r "database_path" text? d.databasePath,
      ← field r "default_limit" uint32? d.defaultLimit,
      ← field r "default_window_ms" uint64? d.defaultWindowMs,
      ← field r "busy_timeout_ms" uint64? d.busyTimeoutMs⟩

/-- The section on routes. -/
def readRoutes (d : Routes) : α → Option Routes :=
  readSection ["major_parameters"] fun r => do
    return ⟨← field r "major_parameters" texts? d.majorParameters⟩

/-- The section on metrics. -/
def readMetrics (d : Metrics) : α → Option Metrics :=
  readSection ["enabled", "port"] fun r => do
    return ⟨← field r "enabled" bool? d.enabled, ← field r "port" uint16? d.port⟩

/-- The names of the sections. -/
def sectionNames : List String :=
  ["logging", "listener", "queue", "orchestrator", "admission", "buckets", "routes", "metrics"]

/-- The settings in a document; what it does not say is as usual. -/
def ofDocument? : α → Option Settings :=
  readSection sectionNames fun r => do
    let d := standard
    return ⟨← field r "logging" (readLogging d.logging) d.logging,
      ← field r "listener" (readListening d.listener) d.listener,
      ← field r "queue" (readQueueing d.queue) d.queue,
      ← field r "orchestrator" (readInvoking d.orchestrator) d.orchestrator,
      ← field r "admission" (readAdmission d.admission) d.admission,
      ← field r "buckets" (readBuckets d.buckets) d.buckets,
      ← field r "routes" (readRoutes d.routes) d.routes,
      ← field r "metrics" (readMetrics d.metrics) d.metrics⟩

end Sluice.Settings
