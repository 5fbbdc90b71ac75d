import Sluice.Json.Basic
import Sluice.Text.Utf8

/-!
# Reading JSON

`Json.ofBytes?` reads a document. It works on the characters that `Utf8.scan` finds, so a broken
byte is an error outside of text and makes a text unreadable inside.

Each step takes the symbols that are left and returns what it read with the symbols that follow.
Nesting is bounded by the length of the document.
-/

namespace Sluice.Json

/-- A character of a document, or bytes that are none. -/
abbrev Symbol := Option Char

/-- A character that may stand between tokens. -/
def isSpace : Symbol → Bool
  | some c => c == ' ' || c == '\t' || c == '\n' || c == '\r'
  | none => false

/-- Without space at the start. -/
def skip (s : List Symbol) : List Symbol := s.dropWhile isSpace

/-- What follows a given word. -/
def word? (w : List Char) (s : List Symbol) : Option (List Symbol) :=
  if s.take w.length = w.map some then some (s.drop w.length) else none

/-! ### Text -/

/-- A piece of a text in quotes. -/
inductive Piece where
  /-- A character. -/
  | char (c : Char)
  /-- A code unit of 16 bits given by its number. -/
  | unit (n : Nat)
  /-- Bytes that are no character. -/
  | broken
  deriving DecidableEq, Repr

/-- The character that a letter after a backslash stands for. -/
def escape? : Char → Option Char
  | '"' => some '"'
  | '\\' => some '\\'
  | '/' => some '/'
  | 'b' => some '\x08'
  | 'f' => some '\x0c'
  | 'n' => some '\n'
  | 'r' => some '\r'
  | 't' => some '\t'
  | _ => none

/-- The pieces up to the closing quote. -/
def pieces : List Symbol → Option (List Piece × List Symbol)
  | [] => none
  | none :: r => (pieces r).map fun (ps, t) => (.broken :: ps, t)
  | some '"' :: r => some ([], r)
  | some '\\' :: some 'u' :: some a :: some b :: some c :: some d :: r =>
    match Digits.hexNumber? [a, b, c, d] with
    | some n => (pieces r).map fun (ps, t) => (.unit n :: ps, t)
    | none => none
  | some '\\' :: some c :: r =>
    match escape? c with
    | some e => (pieces r).map fun (ps, t) => (.char e :: ps, t)
    | none => none
  | some c :: r =>
    if c == '\\' || c.toNat < 32 then none
    else (pieces r).map fun (ps, t) => (.char c :: ps, t)

/-- The characters of the pieces: two halves of a surrogate pair make one, a lone half makes the
text unreadable. -/
def assemble? : List Piece → Option (List Char)
  | [] => some []
  | .char c :: r => (assemble? r).map (c :: ·)
  | .broken :: _ => none
  | .unit n :: r =>
    if 0xd800 ≤ n ∧ n < 0xdc00 then
      match r with
      | .unit m :: r' =>
        if 0xdc00 ≤ m ∧ m < 0xe000 then
          (assemble? r').map (Char.ofNat (0x10000 + (n - 0xd800) * 0x400 + (m - 0xdc00)) :: ·)
        else none
      | _ => none
    else if 0xdc00 ≤ n ∧ n < 0xe000 then none
    else (assemble? r).map (Char.ofNat n :: ·)

/-- The text up to the closing quote. -/
def readText (s : List Symbol) : Option (Option String × List Symbol) :=
  (pieces s).map fun (ps, t) => ((assemble? ps).map String.ofList, t)

/-! ### Numbers -/

/-- A row of digits and what follows it. -/
def digits : List Symbol → List Char × List Symbol
  | some c :: r =>
    if c.isDigit then
      let (ds, t) := digits r
      (c :: ds, t)
    else ([], some c :: r)
  | s => ([], s)

/-- A non-empty row of digits. -/
def digits? (s : List Symbol) : Option (List Char × List Symbol) :=
  match digits s with
  | ([], _) => none
  | found => some found

/-- The digits before the point: no zero stands before another digit. -/
def readWhole (s : List Symbol) : Option (Nat × List Symbol) :=
  match digits s with
  | ([], _) => none
  | ('0' :: _ :: _, _) => none
  | (ds, t) => some (Digits.value ds, t)

/-- The point and the digits after it, if there is a point. -/
def readPlaces : List Symbol → Option (Option (List Char) × List Symbol)
  | some '.' :: r => (digits? r).map fun (ds, t) => (some ds, t)
  | s => some (none, s)

/-- The exponent, if there is one. -/
def readExponent : List Symbol → Option (Option Int × List Symbol)
  | some c :: r =>
    if c == 'e' || c == 'E' then
      match r with
      | some '-' :: r => (digits? r).map fun (ds, t) => (some (-(Digits.value ds : Int)), t)
      | some '+' :: r => (digits? r).map fun (ds, t) => (some (Digits.value ds : Int), t)
      | r => (digits? r).map fun (ds, t) => (some (Digits.value ds : Int), t)
    else some (none, some c :: r)
  | s => some (none, s)

/-- A number after its sign. -/
def readMagnitude (negative : Bool) (s : List Symbol) : Option (Json × List Symbol) := do
  let (whole, s) ← readWhole s
  let (places, s) ← readPlaces s
  let (exponent, s) ← readExponent s
  return (.number ⟨negative, whole, places, exponent⟩, s)

/-! ### Values -/

/-- The items after the first, up to the closing bracket. -/
def readItems (value : List Symbol → Option (Json × List Symbol)) (fuel : Nat)
    (s : List Symbol) : Option (List Json × List Symbol) :=
  match fuel with
  | 0 => none
  | fuel + 1 =>
    match skip s with
    | some ']' :: r => some ([], r)
    | some ',' :: r => do
      let (v, r) ← value (skip r)
      let (vs, r) ← readItems value fuel r
      return (v :: vs, r)
    | _ => none

/-- One member: a name, a colon and a value. -/
def readMember (value : List Symbol → Option (Json × List Symbol)) (s : List Symbol) :
    Option ((Option String × Json) × List Symbol) :=
  match skip s with
  | some '"' :: r => do
    let (name, r) ← readText r
    match skip r with
    | some ':' :: r =>
      let (v, r) ← value (skip r)
      return ((name, v), r)
    | _ => none
  | _ => none

/-- The members after the first, up to the closing brace. -/
def readMembers (value : List Symbol → Option (Json × List Symbol)) (fuel : Nat)
    (s : List Symbol) : Option (List (Option String × Json) × List Symbol) :=
  match fuel with
  | 0 => none
  | fuel + 1 =>
    match skip s with
    | some '\x7d' :: r => some ([], r)
    | some ',' :: r => do
      let (m, r) ← readMember value r
      let (ms, r) ← readMembers value fuel r
      return (m :: ms, r)
    | _ => none

/-- A value at the first symbol. -/
def readValue : Nat → List Symbol → Option (Json × List Symbol)
  | 0, _ => none
  | fuel + 1, s =>
    match s with
    | some '"' :: r => (readText r).map fun (t, r) => (.string t, r)
    | some '[' :: r =>
      match skip r with
      | some ']' :: r => some (.array [], r)
      | r => do
        let (v, r) ← readValue fuel r
        let (vs, r) ← readItems (readValue fuel) fuel r
        return (.array (v :: vs), r)
    | some '\x7b' :: r =>
      match skip r with
      | some '\x7d' :: r => some (.object [], r)
      | r => do
        let (m, r) ← readMember (readValue fuel) r
        let (ms, r) ← readMembers (readValue fuel) fuel r
        return (.object (m :: ms), r)
    | some 'n' :: _ => (word? "null".toList s).map fun r => (.null, r)
    | some 't' :: _ => (word? "true".toList s).map fun r => (.bool true, r)
    | some 'f' :: _ => (word? "false".toList s).map fun r => (.bool false, r)
    | some '-' :: r => readMagnitude true r
    | s => readMagnitude false s

/-- A whole document: one value with space around it. -/
def read? (s : List Symbol) : Option Json :=
  match readValue (s.length + 1) (skip s) with
  | some (v, r) => if (skip r).isEmpty then some v else none
  | none => none

/-- The value that bytes stand for. -/
def ofUtf8? (s : Bytes) : Option Json := read? (Utf8.scan s)

/-- The value that a text stands for. -/
def ofText? (s : String) : Option Json := read? (s.toList.map some)

end Sluice.Json
