import Sluice.Number.Reading
import Sluice.Settings.Basic

/-!
# Settings from the environment

Variables whose names begin with `QUOTA_RELAY_` take the place of settings. A number or a truth
value that cannot be read is passed over.
-/

namespace Sluice.Settings

/-- What the names of the variables begin with. -/
def variableStart : String := "QUOTA_RELAY_"

/-- Puts the variables of an environment in the place of settings (`apply_env_overrides`). -/
def override (env : String → Option String) (s : Settings) : Settings :=
  let get (name : String) : Option String := env (variableStart ++ name)
  let text (name : String) (d : String) : String := (get name).getD d
  { s with
    logging := ⟨text "LOG_LEVEL" s.logging.level, text "LOG_FORMAT" s.logging.format⟩
    listener :=
      { s.listener with
        bindAddress := text "BIND_ADDRESS" s.listener.bindAddress
        advertiseAddress := (get "ADVERTISE_ADDRESS") <|> s.listener.advertiseAddress }
    queue := { s.queue with endpoint := text "QUEUE_ENDPOINT" s.queue.endpoint }
    orchestrator :=
      { s.orchestrator with
        defaultTimeoutMs :=
          ((get "DEFAULT_TIMEOUT_MS").bind Number.uint64?).getD s.orchestrator.defaultTimeoutMs }
    buckets := { s.buckets with databasePath := text "DATABASE_PATH" s.buckets.databasePath }
    metrics :=
      ⟨((get "METRICS_ENABLED").bind Number.bool?).getD s.metrics.enabled,
        ((get "METRICS_PORT").bind Number.uint16?).getD s.metrics.port⟩ }

end Sluice.Settings
