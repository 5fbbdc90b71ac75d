import Sluice.Settings.Check
import Sluice.Settings.Override
import Sluice.Settings.Reader
import Sluice.Toml.Reader

/-!
# Loading settings

`Settings.load` reads the file of the settings if there is one, puts the variables of the
environment in their place, and checks the outcome.
-/

namespace Sluice.Settings

/-- Why settings cannot be loaded. -/
inductive LoadFault where
  /-- The file is no text. -/
  | unreadable
  /-- The file is no TOML, or not of the form of settings. -/
  | malformed
  /-- A setting is unusable. -/
  | unusable (f : Fault)
  deriving DecidableEq, Repr

/-- The settings that a file says. -/
def ofFile (content : Bytes) : Except LoadFault Settings :=
  match Utf8.decode? content with
  | none => .error .unreadable
  | some cs =>
    match (Toml.ofChars? cs).bind ofDocument? with
    | none => .error .malformed
    | some s => .ok s

/-- The settings of a file, if there is one, and an environment (`load_from_path`). -/
def load (file : Option Bytes) (env : String → Option String) : Except LoadFault Settings := do
  let s ← file.elim (.ok standard) ofFile
  let s := s.override env
  match s.check with
  | .ok () => .ok s
  | .error f => .error (.unusable f)

end Sluice.Settings
