import Sluice.Command.Program
import Sluice.Quota.LedgerText
import Std.Time.DateTime.Timestamp

/-!
# The program's surroundings

`main` looks at the files, the variables and the clock, lets `Program.run` say what becomes of the
words, and prints it. The program listens on its standard input, which is one connection, and has no
way to a queue.
-/

namespace Sluice.Command

/-- The names of the variables that matter. -/
def variableNames : List String :=
  ["LOG_LEVEL", "LOG_FORMAT", "BIND_ADDRESS", "ADVERTISE_ADDRESS", "QUEUE_ENDPOINT",
    "DEFAULT_TIMEOUT_MS", "DATABASE_PATH", "METRICS_ENABLED", "METRICS_PORT"].map
    (Settings.variableStart ++ ·)

/-- The variables of the environment. -/
def environment : IO (String → Option String) := do
  let found ← variableNames.filterMapM fun name => do return (← IO.getEnv name).map (name, ·)
  return fun name => found.lookup name

/-- What is at a path. -/
def look (path : String) : IO Found := do
  try return .file (← IO.FS.readBinFile path).toList
  catch e =>
    match e with
    | .noFileOrDirectory .. => return .nothing
    | e => return .unreadable (toString e)

/-- The directory in which a path is. -/
def directory (path : String) : String :=
  "/".intercalate (path.splitOn "/").dropLast

/-- The clock. -/
def clock : IO Timestamp := do
  let ns := (← Std.Time.Timestamp.now).toNanosecondsSinceUnixEpoch.val
  return (Timestamp.ofParts? (ns / 1000000000) (ns % 1000000000).toNat).getD .epoch

/-- A random id. -/
def randomId : IO Uuid := do
  let octets ← (List.range 16).mapM fun n => do
    let b ← IO.rand 0 255
    return (if n = 6 then 64 + b % 16 else if n = 8 then 128 + b % 64 else b).toUInt8
  return (Uuid.ofBytes? octets).getD .nil

/-- The name of the host. -/
def hostName : IO String := do
  match ← look "/etc/hostname" with
  | .file s => return Text.trim (Utf8.toStringLossy s)
  | _ => return "127.0.0.1"

/-- What the program finds. -/
def scene (config : String) : IO Scene := do
  let env ← environment
  let atConfig ← look config
  let settings := match atConfig with
    | .file s => (Settings.load (some s) env).toOption
    | _ => (Settings.load none env).toOption
  let database := (settings.getD .standard).buckets.databasePath
  let found ← look database
  let rows := match found with
    | .file s => Ledger.ofUtf8? s
    | _ => some .empty
  let place : Ledger.Place := match found, rows with
    | .unreadable _, _ => .directory
    | _, none => .foreign
    | _, some _ => .file
  let seed ← IO.rand 0 4294967295
  return {
    env
    find := fun path => if path = config then atConfig else .nothing
    place := fun _ => place
    rows := fun _ => rows.getD .empty
    now := ← clock
    id := ← randomId
    chance := fun caller denials =>
      ((seed + caller * 7919 + denials.toNat) * 6364136223846793005 / 65536).toUInt64
    host := ← hostName
    ground := Listener.Ground.ofDirectory (· == "localhost") fun a => .ok a.port
    endpoint := fun _ => .unreachable "no route to host"
    deliveries := [] }

/-- Writes a ledger, unless it has no path and is gone with the program. -/
def save (path : String) (rows : Catalog Row) : IO Unit := do
  if path.isEmpty then return
  let parent := directory path
  if !parent.isEmpty then IO.FS.createDirAll parent
  IO.FS.writeFile path (Ledger.text rows)

/-- Reads a stream to its end. -/
partial def readAll (s : IO.FS.Stream) (got : List Arrival) : IO Source := do
  let piece ← s.read 65536
  if piece.isEmpty then return got.reverse
  readAll s (.bytes piece.toList :: got)

/-- Prints what the program has printed and says what it has said. -/
def conclude (e : Program.Ending) : IO UInt32 := do
  if let some (path, rows) := e.ledger then save path rows
  (← IO.getStdout).putStr e.out
  (← IO.getStderr).putStr e.err
  return e.code.toUInt32

/-- Receives responses. -/
def receive (s : Settings) : IO UInt32 := do
  let src ← readAll (← IO.getStdin) []
  let (n, _) := Intake.drain s.listener.maxFrameSize.toNat src .empty
  (← IO.getStderr).putStr ("Listener stopped after " ++ toString n ++ " responses\n")
  return 0

end Sluice.Command

open Sluice Command in
/-- Does what the words say. -/
def main (words : List String) : IO UInt32 := do
  let config := match Line.read words with
    | .ok line => line.config
    | .error _ => Line.standardConfig
  match Program.run (← scene config) words with
  | .ended e => conclude e
  | .listening _ s => receive s
