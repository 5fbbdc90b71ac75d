import Sluice.Command.Files
import Sluice.Command.Line
import Sluice.Command.Trouble
import Sluice.Dispatch.Traffic
import Sluice.Pending.Listener
import Sluice.Queue.Ingest
import Sluice.Settings.Load
import Sluice.Settings.Printer
import Sluice.Text.Quoted
import Sluice.Time.Rfc3339

/-!
# The program

`Program.run` is all that the program does with its words, as a function of what it finds around it.

* `Scene` is what it finds: files, variables, the clock, and what happens on the network;
* `Program.Result` is what becomes of it: it ends with a code, what it printed and the buckets as
  they are then, or it listens until somebody interrupts it.
-/

namespace Sluice.Command

/-- What the program finds around it. -/
structure Scene where
  /-- The variables. -/
  env : String → Option String
  /-- What is at a path. -/
  find : String → Found
  /-- Whether a ledger can be kept at a path. -/
  place : String → Ledger.Place
  /-- The ledger at a path. -/
  rows : String → Catalog Row
  /-- The clock. -/
  now : Timestamp
  /-- The id of the next request. -/
  id : Uuid
  /-- A source of chance. -/
  chance : Nat → UInt32 → UInt64
  /-- The name of the host. -/
  host : String
  /-- What comes of listening at an address. -/
  ground : Listener.Ground
  /-- What a message to an endpoint meets. -/
  endpoint : String → Encounter
  /-- The responses that will arrive. -/
  deliveries : Agenda Delivery

namespace Program

/-- What the program has done when it ends. -/
structure Ending where
  /-- The code. -/
  code : UInt8
  /-- What it has printed. -/
  out : String
  /-- What it has said about its failure. -/
  err : String
  /-- A ledger that has changed, by its path. -/
  ledger : Option (String × Catalog Row)

/-- What becomes of the program. -/
inductive Result where
  /-- It ends. -/
  | ended (e : Ending)
  /-- It listens at a port until somebody interrupts it. -/
  | listening (port : UInt16) (s : Settings)

/-- Ends well. -/
def success (out : String) : Ending := ⟨0, out, "", none⟩

/-- Ends with a failure and its causes. -/
def trouble (causes : List String) : Ending := ⟨1, "", Trouble.text causes, none⟩

/-- Ends with a failure. -/
def failed (f : Failure) : Ending := trouble [f.message]

/-- Breaks down without a word. -/
def breakdown : Ending := ⟨101, "", "", none⟩

/-! ### Settings -/

/-- Why the settings of a file cannot be used, the last cause first. -/
def loadCauses (path : String) : Settings.LoadFault → List String
  | .unreadable =>
    ["Failed to read config file from " ++ Text.quotedPath path,
      "stream did not contain valid UTF-8"]
  | .malformed =>
    ["Failed to parse config file from " ++ Text.quotedPath path, "not a document of settings"]
  | .unusable f => [f.message]

/-- The causes of a failure to read a file. -/
def readCauses (path reason : String) : List String :=
  ["Failed to read config file from " ++ Text.quotedPath path, reason]

/-- The settings at a path, or the causes of a failure. -/
def settings (scene : Scene) (path : String) : Except (List String) Settings :=
  match scene.find path with
  | .unreadable reason => .error (readCauses path reason)
  | .nothing => (Settings.load none scene.env).mapError (loadCauses path)
  | .file content => (Settings.load (some content) scene.env).mapError (loadCauses path)

/-! ### Buckets -/

/-- The ledger of the settings, or the end of the program. -/
def ledger (scene : Scene) (s : Settings) : Except Ending (Catalog Row) :=
  let path := s.buckets.databasePath
  match (scene.place path).enter s.busyTimeout with
  | .opened => .ok (scene.rows path)
  | .refused f =>
    .error (trouble ["Failed to open bucket store at " ++ Text.quotedPath path, f.message])
  | .overstrained => .error breakdown

/-- A text at the left of a column. -/
def left (width : Nat) (s : String) : String :=
  s ++ String.ofList (List.replicate (width - s.length) ' ')

/-- A text at the right of a column. -/
def right (width : Nat) (s : String) : String :=
  String.ofList (List.replicate (width - s.length) ' ') ++ s

/-- A row of the table of buckets. -/
def tableRow (bucket limit remaining resetAt : String) : String :=
  left 48 bucket ++ " " ++ right 8 limit ++ " " ++ right 10 remaining ++ "  " ++ resetAt ++ "\n"

/-- The table of buckets. -/
def table : List Bucket → String
  | [] => "No buckets recorded\n"
  | bs => tableRow "BUCKET" "LIMIT" "REMAINING" "RESET AT" ++
    String.join (bs.map fun b =>
      tableRow b.id (toString b.limit) (toString b.remaining) b.resetAt.withOffset)

/-- Prints all buckets. -/
def buckets (scene : Scene) (s : Settings) : Ending :=
  match ledger scene s with
  | .error e => e
  | .ok rows =>
    match (Ledger.store s.limits).list rows with
    | .ok bs => success (table bs)
    | .error f => failed f

/-! ### Requests -/

/-- A header, name and value with a colon between. -/
def header? (s : String) : Option (String × String) :=
  let name := s.toList.takeWhile (· != ':')
  let value := s.toList.drop name.length
  let name := Text.trim (String.ofList name)
  if value.isEmpty || name.isEmpty then none
  else some (name, Text.trim (String.ofList (value.drop 1)))

/-- Headers, or the first text that is none. -/
def headers (h : Headers) : List String → Except String Headers
  | [] => .ok h
  | s :: rest =>
    match header? s with
    | none => .error s
    | some (name, value) => headers (h.insert name value) rest

/-- The call that an order describes, or the end of the program. -/
def call (o : Order) : Except Ending Call :=
  match headers .empty o.headers with
  | .error s => .error (trouble ["Invalid header " ++ Text.quoted s ++ ", expected NAME:VALUE"])
  | .ok hs => .ok ⟨o.method, o.url, hs, (o.body.map Utf8.ofString).getD [], none⟩

/-- What the response of a request looks like. -/
def replyText (r : Reply) : String :=
  let limits := r.rateLimit.elim "" fun s =>
    "rate-limit: " ++ toString s.remaining ++ "/" ++ toString s.limit ++ " until " ++
      s.resetAt.sentence ++ "\n"
  "status: " ++ toString r.httpStatus ++ "\n" ++ limits ++ Utf8.toStringLossy r.body ++ "\n"

/-- What all requests of the program have in common. -/
def dispatcher (scene : Scene) (s : Settings) (port : UInt16) :
    Dispatcher (Catalog Row) Encounter where
  gate := ⟨s.backoff, scene.chance⟩
  store := Ledger.store s.limits
  latency := 0
  queue := Ingest.queue s.queue.endpoint
  routes := s.route
  returnAddress := s.returnAddress scene.host port
  timeout := s.defaultTimeout
  start := scene.now

/-- The result of a request that has ended. -/
def resultOf (t : Traffic (Catalog Row) Encounter) : Except Failure Reply :=
  match t.invocations with
  | [⟨_, _, .ended _ r⟩] => r
  | _ => .error .cancelled

/-- Relays a call. At most one thing happens in each millisecond until its deadline, apart from the
responses that arrive. -/
def relay (scene : Scene) (s : Settings) (port : UInt16) (c : Call) (timeout : Option Duration)
    (rows : Catalog Row) : Except Failure Reply × Catalog Row :=
  let d := dispatcher scene s port
  let start := Traffic.ofPlans [⟨0, scene.id, c, timeout, none, none⟩] rows
    (scene.endpoint s.queue.endpoint) none
  let fuel := 4 * ((timeout.getD d.timeout).millis + scene.deliveries.length + 4)
  let t := { start with deliveries := scene.deliveries }.run d ⟨0, fun _ => []⟩ fuel
  (resultOf t, t.shared.state)

/-- Relays a request and prints its response. -/
def invoke (scene : Scene) (s : Settings) (o : Order) : Ending :=
  match call o with
  | .error e => e
  | .ok c =>
    match ledger scene s with
    | .error e => e
    | .ok rows =>
      match Listener.bind scene.ground s.listener.bindAddress with
      | .error f => failed f
      | .ok port =>
        let (res, rows) := relay scene s port c (o.timeoutMs.map .ofMillis) rows
        let e := match res with
          | .ok r => success (replyText r)
          | .error f => failed f
        { e with ledger := some (s.buckets.databasePath, rows) }

/-! ### The whole -/

/-- Listens. -/
def listen (scene : Scene) (s : Settings) : Result :=
  match Listener.bind scene.ground s.listener.bindAddress with
  | .ok port => .listening port s
  | .error f => .ended (failed f)

/-- Prints the settings. -/
def checkConfig (s : Settings) : Ending :=
  match s.toToml? with
  | some t => success (t ++ "\n")
  | none => trouble ["Failed to render configuration", Settings.unwritable]

/-- Does what is to be done. -/
def perform (scene : Scene) (s : Settings) : Task → Result
  | .listen => listen scene s
  | .invoke o => .ended (invoke scene s o)
  | .buckets => .ended (buckets scene s)
  | .checkConfig => .ended (checkConfig s)

/-- The end of a program that has not been told what to do. -/
def refused : Line.Refusal → Ending
  | .shown text => success text
  | .bare => ⟨2, "", Line.topHelp, none⟩
  | .wrong c => ⟨2, "", c.text ++ "\n\nFor more information, try '--help'.\n", none⟩

/-- All that the program does with its words. -/
def run (scene : Scene) (words : List String) : Result :=
  match Line.read words with
  | .error r => .ended (refused r)
  | .ok line =>
    match settings scene line.config with
    | .error causes =>
      .ended (trouble (("Invalid configuration in " ++ Text.quotedPath line.config) :: causes))
    | .ok s => perform scene s line.task

end Program

end Sluice.Command
