import Sluice.Json.Printer
import Sluice.Logging.Filter
import Sluice.Text.Quoted
import Sluice.Time.Rfc3339

/-!
# Log lines

An `Event` is what a program says: a message with fields.

* `Event.text` is an event in one of the three forms;
* `Journal` is a form with a filter; `Journal.write` is all that is written of some events;
* `Journal.open?` makes one of settings and directives.
-/

namespace Sluice

/-- The value of a field. -/
inductive FieldValue where
  /-- A number. -/
  | number (n : Int)
  /-- A text. -/
  | text (s : String)
  deriving DecidableEq, Repr

/-- Something to be logged. -/
structure Event where
  /-- How much it matters. -/
  level : Level
  /-- The part of a program that says it. -/
  target : String
  /-- What it says. -/
  message : String
  /-- Named values. -/
  fields : List (String × FieldValue)
  /-- The place in the program. -/
  place : Option String
  deriving DecidableEq, Repr

namespace Event

/-! ### Pieces -/

/-- The time of a line: microseconds, and a sign before a year of five digits. -/
def timeChars (t : Timestamp) : List Char :=
  let year := t.date.year
  let yearChars :=
    if 9999 < year then '+' :: Digits.decimal year.toNat
    else if year < 0 then '-' :: Digits.padded 4 year.natAbs
    else Digits.padded 4 year.toNat
  let (h, m, s) := t.clock
  yearChars ++ '-' :: Digits.padded 2 t.date.month ++ '-' :: Digits.padded 2 t.date.day ++
    'T' :: Digits.padded 2 h ++ ':' :: Digits.padded 2 m ++ ':' :: Digits.padded 2 s ++
    '.' :: Digits.padded 6 (t.nanos / 1000) ++ ['Z']

/-- The time of a line. -/
def timeText (t : Timestamp) : String := String.ofList (timeChars t)

/-- The name of a level in five columns. -/
def levelText (l : Level) : String :=
  String.ofList (List.replicate (5 - l.name.length) ' ') ++ l.name

/-- A character of a message. Those that command a terminal are spelled out. -/
def safeChar (c : Char) : List Char :=
  let n := c.toNat
  if n = 27 ∨ n = 7 ∨ n = 8 ∨ n = 12 ∨ n = 127 then
    '\\' :: 'x' :: Digits.hexByte n.toUInt8
  else if 128 ≤ n ∧ n < 160 then ['\\', 'u', '\x7b'] ++ Text.hexChars n ++ ['\x7d']
  else [c]

/-- A message without characters that command a terminal. -/
def safe (s : String) : String := String.ofList (s.toList.flatMap safeChar)

/-- The value of a field for people. -/
def valueText : FieldValue → String
  | .number n => toString n
  | .text s => Text.quoted s

/-- The value of a field as JSON. -/
def valueJson : FieldValue → Json
  | .number n => .ofInt n
  | .text s => .ofString s

/-! ### Forms -/

/-- One line: time, level, target, message and fields. -/
def compactText (now : Timestamp) (e : Event) : String :=
  let fields := e.fields.map fun f => f.1 ++ "=" ++ valueText f.2
  timeText now ++ " " ++ levelText e.level ++ " " ++ e.target ++ ": " ++
    " ".intercalate (safe e.message :: fields) ++ "\n"

/-- The same with commas, then the place, then an empty line. -/
def prettyText (now : Timestamp) (e : Event) : String :=
  let fields := e.fields.map fun f => f.1 ++ ": " ++ valueText f.2
  "  " ++ timeText now ++ " " ++ levelText e.level ++ " " ++ e.target ++ ": " ++
    ", ".intercalate (safe e.message :: fields) ++ "\n" ++
    (e.place.elim "" fun p => "    at " ++ p ++ "\n") ++ "\n"

/-- One JSON object. -/
def json (now : Timestamp) (e : Event) : Json :=
  .ofMembers [("timestamp", .ofString (timeText now)), ("level", .ofString e.level.name),
    ("fields", .ofMembers (("message", .ofString e.message) ::
      e.fields.map fun f => (f.1, valueJson f.2))),
    ("target", .ofString e.target)]

/-- An event in a form. -/
def text (shape : Shape) (now : Timestamp) (e : Event) : String :=
  match shape with
  | .compact => compactText now e
  | .pretty => prettyText now e
  | .json => (e.json now).text ++ "\n"

/-- The names of everything that an event says. -/
def names (e : Event) : List String := "message" :: e.fields.map (·.1)

end Event

/-- What is written, and in which form. -/
structure Journal where
  /-- The form. -/
  shape : Shape
  /-- What is written. -/
  filter : Filter

namespace Journal

/-- Why there is no journal. -/
inductive Fault where
  /-- There is no such level. -/
  | level
  /-- There is no such form. -/
  | shape (name : String)
  deriving DecidableEq, Repr

/-- The text for people. -/
def Fault.message : Fault → String
  | level => "Failed to parse log level: error parsing level: expected one of \"error\", " ++
      "\"warn\", \"info\", \"debug\", \"trace\", or a number 1-5"
  | shape name => "Invalid log format: " ++ name

/-- The journal with a level and a form, given by their names, and directives. Whoever asks for
more gets details whatever the level is. -/
def open? (level shape : String) (verbose : Bool) (directives : String) :
    Except Fault Journal :=
  match if verbose then some Level.debug else Level.parse? level with
  | none => .error .level
  | some l =>
    match Shape.ofName? shape with
    | none => .error (.shape shape)
    | some s => .ok ⟨s, .ofText l directives⟩

/-- An event is written. -/
def admits (j : Journal) (e : Event) : Bool := j.filter.admits e.level e.target e.names

/-- All that is written of some events. -/
def write (j : Journal) (now : Timestamp) (es : List Event) : String :=
  String.join ((es.filter j.admits).map (·.text j.shape now))

end Journal

end Sluice
