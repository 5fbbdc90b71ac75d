import Sluice.Command.Form

/-!
# Reading the words of a command

`Command.readWords` goes through the words that follow a command: options with their values, until a
word names another command or no word is left.

* `Complaint` is what can be wrong with the words;
* `Stop` is why reading ends before the words do;
* `Reading` is what has been read.

An option waits for its value; that it does not get one, or gets one that it does not take, is
noticed when the next option is read. A word that means nothing is noticed at once.
-/

namespace Sluice.Command

/-- What is wrong with the words of a command. -/
inductive Complaint where
  /-- A word means nothing. -/
  | unknownWord (word : String)
  /-- No command has this name. -/
  | unknownCommand (word : String)
  /-- An option has no value. -/
  | missingValue (option : String)
  /-- A switch has a value. -/
  | extraValue (value option : String)
  /-- An option has been given before. -/
  | repeated (option : String)
  /-- A value is not what its option takes. -/
  | invalidValue (value option why : String)
  /-- Options that have to be given are not. -/
  | missingOptions (options : List String)
  /-- No command is named. -/
  | missingCommand (program : String)
  deriving DecidableEq, Repr

/-- The text for people; its first line says what is wrong. -/
def Complaint.text : Complaint → String
  | unknownWord word => "error: unexpected argument '" ++ word ++ "' found"
  | unknownCommand word => "error: unrecognized subcommand '" ++ word ++ "'"
  | missingValue option =>
    "error: a value is required for '" ++ option ++ "' but none was supplied"
  | extraValue value option =>
    "error: unexpected value '" ++ value ++ "' for '" ++ option ++
      "' found; no more were expected"
  | repeated option => "error: the argument '" ++ option ++ "' cannot be used multiple times"
  | invalidValue value option why =>
    "error: invalid value '" ++ value ++ "' for '" ++ option ++ "': " ++ why
  | missingOptions options =>
    "error: the following required arguments were not provided:" ++
      String.join (options.map ("\n  " ++ ·))
  | missingCommand program =>
    "error: '" ++ program ++ "' requires a subcommand but one was not provided"

/-- Why reading ends before the words do. -/
inductive Stop where
  /-- Somebody asks for help. -/
  | help
  /-- Somebody asks for the version. -/
  | version
  /-- Something is wrong. -/
  | wrong (c : Complaint)
  deriving DecidableEq, Repr

/-- What has been read. -/
structure Reading where
  /-- Names of options with their values, in their order. -/
  given : List (String × String)
  /-- The last option that takes a value, with its value if it has come. -/
  pending : Option (Choice × Option String)
  deriving DecidableEq, Repr

namespace Reading

/-- Nothing. -/
def empty : Reading := ⟨[], none⟩

/-- An option is given. -/
def add (r : Reading) (c : Choice) (value : String) : Except Stop Reading :=
  if !c.mayRepeat && r.given.any (·.1 == c.name) then .error (.wrong (.repeated c.shown))
  else match c.kind.fault? value with
    | some .missing => .error (.wrong (.missingValue c.shown))
    | some (.invalid why) => .error (.wrong (.invalidValue value c.shown why))
    | none => .ok { r with given := r.given ++ [(c.name, value)] }

/-- The option that waits is given. -/
def settle (r : Reading) : Except Stop Reading :=
  match r.pending with
  | none => .ok r
  | some (c, none) => .error (.wrong (.missingValue c.shown))
  | some (c, some value) => { r with pending := none }.add c value

/-- An option is given, after the one that waits. -/
def give (r : Reading) (c : Choice) (value : String) : Except Stop Reading := do
  (← r.settle).add c value

/-- A switch is given, which may ask for help or the version. -/
def flip (r : Reading) (c : Choice) : Except Stop Reading := do
  let r ← r.settle
  if c = helpSwitch then .error .help
  else if c = versionSwitch then .error .version
  else r.add c ""

/-- An option waits for its value. -/
def await (r : Reading) (c : Choice) : Except Stop Reading := do
  return { ← r.settle with pending := some (c, none) }

/-- The option that waits for its value. -/
def waiting? (r : Reading) : Option Choice :=
  match r.pending with
  | some (c, none) => some c
  | _ => none

/-- The values of an option. -/
def values (r : Reading) (name : String) : List String :=
  (r.given.filter (·.1 == name)).map (·.2)

/-- The value of an option. -/
def value? (r : Reading) (name : String) : Option String := r.given.lookup name

end Reading

/-! ### Words -/

/-- An option by its name; a value may follow an equals sign. -/
def readLong (options : List Choice) (r : Reading) (body : List Char) : Except Stop Reading :=
  let name := body.takeWhile (· != '=')
  let attached := (body.drop name.length).tail?.map String.ofList
  match options.find? (·.name.toList == name) with
  | none => .error (.wrong (.unknownWord (String.ofList ('-' :: '-' :: name))))
  | some c =>
    match c.kind, attached with
    | .nothing, some value => .error (.wrong (.extraValue value c.shown))
    | .nothing, none => r.flip c
    | _, some value => r.give c value
    | _, none => r.await c

/-- Options by their letters; the value of the last one may follow, also after an equals sign. -/
def readShort (options : List Choice) (r : Reading) : List Char → Except Stop Reading
  | [] => .ok r
  | letter :: rest =>
    match options.find? (·.letter == some letter) with
    | none => .error (.wrong (.unknownWord (String.ofList ['-', letter])))
    | some c =>
      match c.kind, rest with
      | .nothing, rest => do readShort options (← r.flip c) rest
      | _, [] => r.await c
      | _, '=' :: value => r.give c (String.ofList value)
      | _, value => r.give c (String.ofList value)

/-- A word that is no option and for which no option waits. -/
def strayWord (commands : List String) (escaped : Bool) (word : String) : Stop :=
  .wrong <|
    if commands.isEmpty || (escaped && commands.contains word) then .unknownWord word
    else .unknownCommand word

/-- Reads words up to the name of a command; yields that name and the words after it. After two
dashes no word is an option any more. -/
def readWords (options : List Choice) (commands : List String) (escaped : Bool) (r : Reading) :
    List String → Except Stop (Reading × Option (String × List String))
  | [] => do return (← r.settle, none)
  | word :: words =>
    if escaped then .error (strayWord commands escaped word)
    else if r.waiting?.isNone && commands.contains word then .ok (r, some (word, words))
    else match word.toList, r.waiting? with
      | ['-', '-'], _ => readWords options commands true r words
      | '-' :: '-' :: body, _ => do
        readWords options commands false (← readLong options r body) words
      | '-' :: letter :: rest, _ => do
        readWords options commands false (← readShort options r (letter :: rest)) words
      | _, some c =>
        readWords options commands false { r with pending := some (c, some word) } words
      | _, none => .error (strayWord commands escaped word)

/-- The options that have to be given and are not. -/
def missing (options : List Choice) (r : Reading) : List String :=
  (options.filter fun c => c.isRequired && (r.value? c.name).isNone).map Choice.shown

end Sluice.Command
