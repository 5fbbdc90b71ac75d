import Sluice.Command.Reader
import Sluice.Settings.Basic

/-!
# The command line

The program has four commands: `listen`, `invoke`, `buckets` and `check-config`.

* `Line` is what a command line says;
* `Line.read` reads one; `Line.Refusal` is what is printed instead if it says nothing, and the code
  with which the program ends.

Two options mean the same before and after the name of a command.
-/

namespace Sluice.Command

/-- A request that a command line describes. -/
structure Order where
  /-- The method. -/
  method : String
  /-- The URL. -/
  url : String
  /-- Headers, name and value with a colon between. -/
  headers : List String
  /-- The body. -/
  body : Option String
  /-- How long the request may take in milliseconds. -/
  timeoutMs : Option UInt64
  deriving DecidableEq, Repr

/-- What is to be done. -/
inductive Task where
  /-- Receive responses until somebody interrupts. -/
  | listen
  /-- Relay one request and print its response. -/
  | invoke (order : Order)
  /-- Print all buckets. -/
  | buckets
  /-- Print the settings. -/
  | checkConfig
  deriving DecidableEq, Repr

/-- What a command line says. -/
structure Line where
  /-- Details are to be logged. -/
  verbose : Bool
  /-- The file of the settings. -/
  config : String
  /-- What is to be done. -/
  task : Task
  deriving DecidableEq, Repr

namespace Line

/-- The name of the program. -/
def program : String := "quota-relay"

/-- The version of the program. -/
def versionText : String := program ++ " 0.1.0\n"

/-- The usual file of the settings. -/
def standardConfig : String := "quota-relay.toml"

/-! ### Forms -/

/-- Asks for details. -/
def verboseSwitch : Choice := .switch "verbose" (some 'v') "Enable verbose logging"

/-- Names the file of the settings. -/
def configOption : Choice :=
  { Choice.valued "config" .path "CONFIG" "Path to the TOML configuration file" with
    letter := some 'c', standard := some standardConfig }

/-- The options of every command. -/
def common : List Choice := [verboseSwitch, configOption]

/-- The program itself. -/
def top : Form :=
  ⟨program, "Rate-limited request/response relay over a durable queue",
    common ++ [helpSwitch, versionSwitch]⟩

/-- A command without options of its own. -/
def plain (name about : String) : Form := ⟨program ++ " " ++ name, about, common ++ [helpSwitch]⟩

/-- Names the URL of a request. -/
def urlOption : Choice :=
  { Choice.valued "url" .text "URL" "Absolute target URL" with isRequired := true }

/-- The command that relays one request. -/
def invokeForm : Form :=
  ⟨program ++ " invoke", "Relay a single request and print the response",
    [{ Choice.valued "method" .text "METHOD" "HTTP method" with standard := some "GET" },
      verboseSwitch, configOption, urlOption,
      { Choice.valued "header" .text "NAME:VALUE" "Request header, repeatable" with
        mayRepeat := true },
      .valued "body" .text "BODY" "Request body",
      .valued "timeout-ms" .number "TIMEOUT_MS"
        "Timeout in milliseconds (config default when omitted)",
      helpSwitch]⟩

/-- The commands. -/
def forms : List (String × Form) :=
  [("listen", plain "listen" "Run the response listener until Ctrl-C"), ("invoke", invokeForm),
    ("buckets", plain "buckets" "List every bucket in the store"),
    ("check-config", plain "check-config" "Validate the configuration and print it")]

/-- What the command does that explains commands. -/
def helpAbout : String := "Print this message or the help of the given subcommand(s)"

/-- The text that explains the program. -/
def topHelp : String :=
  top.helpOver (forms.map (fun f => (f.1, f.2.about)) ++ [("help", helpAbout)])

/-- The text that explains the command that explains commands. -/
def helpHelp : String :=
  helpAbout ++ "\n\nUsage: " ++ program ++ " help [COMMAND]...\n\nArguments:\n" ++
    columns [("[COMMAND]...", "Print help for the subcommand(s)")]

/-! ### Reading -/

/-- Why a command line says nothing that could be done. -/
inductive Refusal where
  /-- Somebody asked for a text. -/
  | shown (text : String)
  /-- Nobody said anything. -/
  | bare
  /-- Something is wrong. -/
  | wrong (c : Complaint)
  deriving DecidableEq, Repr

/-- What an early end means for a command with a help text. -/
def refusal (help : String) : Stop → Refusal
  | .help => .shown help
  | .version => .shown versionText
  | .wrong c => .wrong c

/-- The answer to a question for help about some commands. -/
def explain : List String → Refusal
  | [] => .shown topHelp
  | [name] =>
    if name = "help" then .shown helpHelp
    else match forms.lookup name with
      | some f => .shown f.help
      | none => .wrong (.unknownCommand name)
  | name :: next :: _ =>
    .wrong (.unknownCommand (if name = "help" || (forms.lookup name).isSome then next else name))

/-- A number that has been found well-formed. -/
def number? (r : Reading) (name : String) : Option UInt64 :=
  (r.value? name).bind Number.uint64?

/-- The request that options describe. -/
def orderOf (r : Reading) : Order :=
  ⟨(r.value? "method").getD "GET", (r.value? "url").getD "", r.values "header", r.value? "body",
    number? r "timeout-ms"⟩

/-- The task of a command. -/
def taskOf (name : String) (r : Reading) : Task :=
  if name = "listen" then .listen
  else if name = "invoke" then .invoke (orderOf r)
  else if name = "buckets" then .buckets
  else .checkConfig

/-- The options of a command among the words after its name. -/
def readCommand (f : Form) (words : List String) : Except Refusal Reading :=
  match readWords f.options [] false .empty words with
  | .error stop => .error (refusal f.help stop)
  | .ok (r, _) =>
    match missing f.options r with
    | [] => .ok r
    | names => .error (.wrong (.missingOptions names))

/-- A command line of what was read before the name of the command and after it. -/
def ofReadings (name : String) (before after : Reading) : Line :=
  ⟨(before.value? "verbose").isSome || (after.value? "verbose").isSome,
    ((after.value? "config").or (before.value? "config")).getD standardConfig, taskOf name after⟩

/-- What the words of a command line say. -/
def read (words : List String) : Except Refusal Line :=
  match readWords top.options (forms.map (·.1) ++ ["help"]) false .empty words with
  | .error stop => .error (refusal topHelp stop)
  | .ok (r, none) =>
    .error (if r.given.isEmpty then .bare else .wrong (.missingCommand program))
  | .ok (r, some (name, rest)) =>
    if name = "help" then .error (explain rest)
    else match forms.lookup name with
      | none => .error (.wrong (.unknownCommand name))
      | some f => do
        let after ← readCommand f rest
        let before ← r.settle.mapError (refusal topHelp)
        return ofReadings name before after

end Line

end Sluice.Command
