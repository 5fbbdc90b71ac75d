import Sluice.Json.Basic
import Sluice.Settings.Basic
import Sluice.Toml.Printer

/-!
# Writing settings

* `Settings.entries` lists every setting under its name in its section;
* `Settings.toToml?` writes them as TOML, whose numbers end at `2 ^ 63 - 1`: settings that hold a
  greater one cannot be written;
* `Settings.toJson` writes them as JSON.
-/

namespace Sluice.Settings

open Toml (Cell)

/-- A number. -/
def cell (n : UInt64) : Option Cell := some (.whole n.toNat)

/-- Every setting under its name in its section; none for a text that is not set. -/
def entries (s : Settings) : List (String × List (String × Option Cell)) :=
  [("logging", [("level", some (.text s.logging.level)),
      ("format", some (.text s.logging.format))]),
    ("listener", [("bind_address", some (.text s.listener.bindAddress)),
      ("advertise_address", s.listener.advertiseAddress.map .text),
      ("max_frame_size", cell s.listener.maxFrameSize)]),
    ("queue", [("endpoint", some (.text s.queue.endpoint)),
      ("publish_timeout_ms", cell s.queue.publishTimeoutMs)]),
    ("orchestrator", [("default_timeout_ms", cell s.orchestrator.defaultTimeoutMs),
      ("sweep_interval_ms", cell s.orchestrator.sweepIntervalMs)]),
    ("admission", [("base_delay_ms", cell s.admission.baseDelayMs),
      ("max_delay_ms", cell s.admission.maxDelayMs), ("jitter", some (.real s.admission.jitter))]),
    ("buckets", [("database_path", some (.text s.buckets.databasePath)),
      ("default_limit", some (.whole s.buckets.defaultLimit.toNat)),
      ("default_window_ms", cell s.buckets.defaultWindowMs),
      ("busy_timeout_ms", cell s.buckets.busyTimeoutMs)]),
    ("routes", [("major_parameters", some (.texts s.routes.majorParameters))]),
    ("metrics", [("enabled", some (.truth s.metrics.enabled)),
      ("port", some (.whole s.metrics.port.toNat))])]

/-! ### TOML -/

/-- The sections with the settings that are set. -/
def sections (s : Settings) : List Toml.Section :=
  s.entries.map fun e => ⟨e.1, e.2.filterMap fun l => l.2.map (l.1, ·)⟩

/-- TOML has the value. -/
def fits : Cell → Bool
  | .whole n => n < 9223372036854775808
  | _ => true

/-- Why settings cannot be written. -/
def unwritable : String := "out-of-range value for u64 type"

/-- The text. -/
def toToml? (s : Settings) : Option String :=
  if s.sections.all fun x => x.lines.all fun l => fits l.2 then some (Toml.sectionsText s.sections)
  else none

/-! ### JSON -/

/-- A value. -/
def cellJson : Cell → Json
  | .text s => .ofString s
  | .whole n => .ofInt n
  | .real x => .ofFloat x
  | .truth b => .bool b
  | .texts ss => .array (ss.map .ofString)

/-- An object with an object for each section. -/
def toJson (s : Settings) : Json :=
  .ofMembers (s.entries.map fun e =>
    (e.1, .ofMembers (e.2.map fun l => (l.1, l.2.elim .null cellJson))))

end Sluice.Settings
