import Sluice.Number.Reading

/-!
# Forms of commands

A `Form` says which options a command has; `Choice` is one of them.

* `Choice.shown` is how an option is spoken of;
* `Kind.fault?` says what is wrong with a value;
* `Form.help` is the text that explains a command.
-/

namespace Sluice.Command

/-- What an option takes. -/
inductive Kind where
  /-- Nothing: the option is a switch. -/
  | nothing
  /-- A text. -/
  | text
  /-- The path of a file. -/
  | path
  /-- A number of 64 bits. -/
  | number
  deriving DecidableEq, Repr

/-- An option of a command. -/
structure Choice where
  /-- Its name, which follows two dashes. -/
  name : String
  /-- Its letter, which follows one dash. -/
  letter : Option Char
  /-- What it takes. -/
  kind : Kind
  /-- The name of what it takes. -/
  holder : String
  /-- What it is for. -/
  help : String
  /-- The value if it is not given. -/
  standard : Option String
  /-- It has to be given. -/
  isRequired : Bool
  /-- It may be given more than once. -/
  mayRepeat : Bool
  deriving DecidableEq, Repr

namespace Choice

/-- A switch. -/
def switch (name : String) (letter : Option Char) (help : String) : Choice :=
  ⟨name, letter, .nothing, "", help, none, false, false⟩

/-- An option that takes a value. -/
def valued (name : String) (kind : Kind) (holder help : String) : Choice :=
  ⟨name, none, kind, holder, help, none, false, false⟩

/-- How the option is spoken of. -/
def shown (c : Choice) : String :=
  "--" ++ c.name ++ (if c.kind = .nothing then "" else " <" ++ c.holder ++ ">")

/-- The left column of the help. -/
def column (c : Choice) : String :=
  (c.letter.elim "    " fun l => String.ofList ['-', l, ',', ' ']) ++ c.shown

/-- The right column of the help. -/
def remark (c : Choice) : String :=
  c.help ++ c.standard.elim "" fun v => " [default: " ++ v ++ "]"

end Choice

/-- Asks for help. -/
def helpSwitch : Choice := .switch "help" (some 'h') "Print help"

/-- Asks for the version. -/
def versionSwitch : Choice := .switch "version" (some 'V') "Print version"

/-! ### Values -/

/-- What is wrong with a value. -/
inductive ValueFault where
  /-- There is none. -/
  | missing
  /-- It is not what the option takes. -/
  | invalid (why : String)
  deriving DecidableEq, Repr

/-- What is wrong with the digits of a number of 64 bits, of which `acc` has been read. -/
def digitsFault? (acc : Nat) : List Char → Option String
  | [] => none
  | c :: r =>
    if c.isDigit then
      let n := acc * 10 + (c.toNat - 48)
      if 18446744073709551615 < n then some "number too large to fit in target type"
      else digitsFault? n r
    else some "invalid digit found in string"

/-- What is wrong with a number of 64 bits. -/
def numberFault? (s : String) : Option String :=
  match s.toList with
  | [] => some "cannot parse integer from empty string"
  | ['+'] => some "invalid digit found in string"
  | '+' :: r => digitsFault? 0 r
  | cs => digitsFault? 0 cs

/-- What is wrong with a value. -/
def Kind.fault? (k : Kind) (value : String) : Option ValueFault :=
  match k with
  | nothing | text => none
  | path => if value.isEmpty then some .missing else none
  | number => (numberFault? value).map .invalid

/-! ### Help -/

/-- A command. -/
structure Form where
  /-- Its name, after the name of the program. -/
  name : String
  /-- What it does. -/
  about : String
  /-- Its options in the order of the help. -/
  options : List Choice
  deriving DecidableEq, Repr

/-- Two columns, the left one as wide as its widest cell. -/
def columns (rows : List (String × String)) : String :=
  let width := (rows.map (·.1.length)).foldl max 0
  String.join (rows.map fun r =>
    "  " ++ r.1 ++ String.ofList (List.replicate (width - r.1.length) ' ') ++ "  " ++ r.2 ++ "\n")

namespace Form

/-- The way to call a command: its options, and what else follows. -/
def usage (f : Form) (more : String) : String :=
  let required := f.options.filter (·.isRequired)
  "Usage: " ++ f.name ++ (if f.options.isEmpty then "" else " [OPTIONS]") ++
    String.join (required.map fun c => " " ++ c.shown) ++ more

/-- The options as columns. -/
def optionRows (f : Form) : List (String × String) :=
  f.options.map fun c => (c.column, c.remark)

/-- The text that explains a command. -/
def help (f : Form) : String :=
  f.about ++ "\n\n" ++ f.usage "" ++ "\n\nOptions:\n" ++ columns f.optionRows

/-- The text that explains a command which has other commands under it. -/
def helpOver (f : Form) (commands : List (String × String)) : String :=
  f.about ++ "\n\n" ++ f.usage " <COMMAND>" ++ "\n\nCommands:\n" ++ columns commands ++
    "\nOptions:\n" ++ columns f.optionRows

end Form

end Sluice.Command
