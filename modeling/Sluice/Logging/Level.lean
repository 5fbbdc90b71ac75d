import Sluice.Number.Reading

/-!
# Levels and forms of log lines

* `Level.parse?` reads a level by its name in any letter case or by its number;
* `Shape.ofName?` reads the form of the lines.
-/

namespace Sluice

/-- How much a log line matters, the most important level first. -/
inductive Level where
  /-- Something failed. -/
  | error
  /-- Something is odd. -/
  | warn
  /-- Something happened. -/
  | info
  /-- Details. -/
  | debug
  /-- All details. -/
  | trace
  deriving DecidableEq, Repr

namespace Level

/-- All levels, the most important one first. -/
def all : List Level := [error, warn, info, debug, trace]

/-- The number of a level, counted from one. -/
def number : Level → Nat
  | error => 1
  | warn => 2
  | info => 3
  | debug => 4
  | trace => 5

/-- The name in capitals. -/
def name : Level → String
  | error => "ERROR"
  | warn => "WARN"
  | info => "INFO"
  | debug => "DEBUG"
  | trace => "TRACE"

/-- The name in small letters. -/
def lowerName (l : Level) : String := l.name.map Char.toLower

/-- The level with a name in any letter case. -/
def ofName? (s : String) : Option Level := all.find? (·.lowerName == s.map Char.toLower)

/-- The level with a number. -/
def ofNumber? (n : Nat) : Option Level := all.find? (·.number == n)

/-- The level with a number or a name. -/
def parse? (s : String) : Option Level :=
  ((Number.uint64? s).bind fun n => ofNumber? n.toNat) <|> ofName? s

/-- A line of this level is written where `least` is the least important level that is. -/
def isWithin (l least : Level) : Bool := l.number ≤ least.number

end Level

/-- The form of log lines. -/
inductive Shape where
  /-- One line for people. -/
  | compact
  /-- Several lines for people. -/
  | pretty
  /-- One JSON object. -/
  | json
  deriving DecidableEq, Repr

namespace Shape

/-- All forms. -/
def all : List Shape := [json, pretty, compact]

/-- The name. -/
def name : Shape → String
  | compact => "compact"
  | pretty => "pretty"
  | json => "json"

/-- The form with a name in any letter case. -/
def ofName? (s : String) : Option Shape := all.find? (·.name == s.map Char.toLower)

end Shape

end Sluice
