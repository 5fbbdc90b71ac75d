import Sluice.Toml.Scalar

/-!
# Writing TOML

Documents that consist of sections of simple values, one value on a line.

* `Toml.quoting` chooses among the four kinds of texts the plainest one that needs no escapes;
* `Toml.quoted` writes a text;
* `Toml.Section.text` writes a section and `Toml.sectionsText` a document.
-/

namespace Sluice.Toml

/-! ### Texts -/

/-- A character that has to be written by its number or a letter. -/
def needsCode (c : Char) : Bool :=
  (c.toNat < 32 && c != '\t' && c != '\n') || c.toNat == 127

/-- The longest row of a character; `run` is the one just before. -/
def longestRun (q : Char) (run : Nat) : List Char → Nat
  | [] => run
  | c :: r => if c == q then longestRun q (run + 1) r else max run (longestRun q 0 r)

/-- The four kinds of texts. -/
inductive Quoting where
  /-- In double quotes. -/
  | basic
  /-- In single quotes. -/
  | literal
  /-- In three double quotes. -/
  | longBasic
  /-- In three single quotes. -/
  | longLiteral
  deriving DecidableEq, Repr

/-- The kind in which a text is written. -/
def quoting (cs : List Char) : Quoting :=
  let coded := cs.any needsCode
  let slashed := cs.contains '\\'
  let broken := cs.contains '\n'
  let singles := longestRun '\'' 0 cs
  let doubles := longestRun '"' 0 cs
  if !coded && !slashed && doubles == 0 && !broken then .basic
  else if !coded && singles == 0 && !broken then .literal
  else if !coded && !slashed && doubles ≤ 2 then .longBasic
  else if !coded && singles ≤ 2 then .longLiteral
  else if broken then .longBasic
  else .basic

/-- A character other than a double quote between double quotes. -/
def escapedChar (long : Bool) (c : Char) : List Char :=
  if c = '\x08' then ['\\', 'b']
  else if c = '\t' then ['\\', 't']
  else if c = '\n' then (if long then ['\n'] else ['\\', 'n'])
  else if c = '\x0c' then ['\\', 'f']
  else if c = '\r' then ['\\', 'r']
  else if c = '\\' then ['\\', '\\']
  else if needsCode c then
    '\\' :: 'u' :: '0' :: '0' :: (Digits.hexByte c.toNat.toUInt8).map Char.toUpper
  else [c]

/-- Characters between double quotes. Between three of them up to two in a row may stand as they
are; `run` says how many stand just before. -/
def escaped (long : Bool) (run : Nat) : List Char → List Char
  | [] => []
  | c :: r =>
    if c = '"' then
      if run < (if long then 2 else 0) then '"' :: escaped long (run + 1) r
      else '\\' :: '"' :: escaped long 0 r
    else escapedChar long c ++ escaped long 0 r

/-- A text in its quotes. A text on many lines begins on a line of its own. -/
def quoted (cs : List Char) : List Char :=
  let start := if cs.contains '\n' then ['\n'] else []
  match quoting cs with
  | .basic => '"' :: escaped false 0 cs ++ ['"']
  | .literal => '\'' :: cs ++ ['\'']
  | .longBasic => ['"', '"', '"'] ++ start ++ escaped true 0 cs ++ ['"', '"', '"']
  | .longLiteral => ['\'', '\'', '\''] ++ start ++ cs ++ ['\'', '\'', '\'']

/-! ### Sections -/

/-- A simple value. -/
inductive Cell where
  /-- A text. -/
  | text (s : String)
  /-- A whole number. -/
  | whole (n : Int)
  /-- A floating point number. -/
  | real (x : Float)
  /-- A truth value. -/
  | truth (b : Bool)
  /-- A row of texts. -/
  | texts (ss : List String)

/-- Named values under a header. -/
structure Section where
  /-- The header. -/
  name : String
  /-- The values. -/
  lines : List (String × Cell)

namespace Cell

/-- A text as it is written. -/
def quotedText (s : String) : List Char := quoted s.toList

/-- A value as it is written. A row of two or more has a line for each item. -/
def chars : Cell → List Char
  | text s => quotedText s
  | whole n => (toString n).toList
  | real x => if x.isNaN then ['n', 'a', 'n'] else (Binary64.text ⟨true, false⟩ x).toList
  | truth b => (if b then "true" else "false").toList
  | texts [] => ['[', ']']
  | texts [s] => '[' :: quotedText s ++ [']']
  | texts ss => '[' :: '\n' ::
      ss.flatMap (fun s => "    ".toList ++ quotedText s ++ [',', '\n']) ++ [']']

end Cell

namespace Section

/-- The lines of a section. -/
def chars (s : Section) : List Char :=
  '[' :: s.name.toList ++ [']', '\n'] ++
    s.lines.flatMap fun l => l.1.toList ++ " = ".toList ++ l.2.chars ++ ['\n']

/-- The text of a section. -/
def text (s : Section) : String := String.ofList s.chars

end Section

/-- A document with an empty line between its sections. -/
def sectionsText (ss : List Section) : String := "\n".intercalate (ss.map Section.text)

end Sluice.Toml
