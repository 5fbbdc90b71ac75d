import Sluice.Number.Binary64
import Sluice.Text.Digits
import Sluice.Toml.Basic

/-!
# Texts, numbers and dates of TOML

Each function takes the characters that are left and returns what it read with the characters that
follow, or nothing if what is there is ill-formed.

* `Toml.readString?` reads the four kinds of texts;
* `Toml.readNumber?` reads numbers, dates and times.
-/

namespace Sluice.Toml

/-- A character that may stand in a comment, and in a text unless it ends it. -/
def isPlain (c : Char) : Bool := c == '\t' || (32 ≤ c.toNat && c.toNat != 127)

/-- A space or a tab. -/
def isBlank (c : Char) : Bool := c == ' ' || c == '\t'

/-! ### Texts on one line -/

/-- The character that a letter after a backslash stands for. -/
def escape? : Char → Option Char
  | '"' => some '"'
  | '\\' => some '\\'
  | 'b' => some '\x08'
  | 'f' => some '\x0c'
  | 'n' => some '\n'
  | 'r' => some '\r'
  | 't' => some '\t'
  | _ => none

/-- The character with a number in hexadecimal. -/
def numbered? (ds : List Char) : Option Char := do
  let n ← Digits.hexNumber? ds
  if n.isValidChar then some (Char.ofNat n) else none

/-- A character in front of what has been read. -/
def after (c : Char) (rest : Option (List Char × List Char)) : Option (List Char × List Char) :=
  rest.map fun (cs, t) => (c :: cs, t)

/-- A text up to its closing double quote. -/
def basic? : List Char → Option (List Char × List Char)
  | [] => none
  | '"' :: r => some ([], r)
  | '\\' :: 'u' :: a :: b :: c :: d :: r => do after (← numbered? [a, b, c, d]) (basic? r)
  | '\\' :: 'U' :: a :: b :: c :: d :: e :: f :: g :: h :: r => do
    after (← numbered? [a, b, c, d, e, f, g, h]) (basic? r)
  | '\\' :: c :: r => do after (← escape? c) (basic? r)
  | c :: r => if isPlain c && c != '\\' then after c (basic? r) else none

/-- A text up to its closing single quote. -/
def literal? : List Char → Option (List Char × List Char)
  | [] => none
  | c :: r =>
    if c == '\'' then some ([], r) else if isPlain c then after c (literal? r) else none

/-! ### Texts on many lines -/

/-- The end of such a text, after three quotes: up to two more quotes belong to it. -/
def closing (q : Char) : List Char → List Char × List Char
  | a :: b :: r =>
    if a == q && b == q then ([q, q], r) else if a == q then ([q], b :: r) else ([], a :: b :: r)
  | [a] => if a == q then ([q], []) else ([], [a])
  | [] => ([], [])

/-- What becomes of blanks and ends of lines. -/
inductive Blanks where
  /-- They belong to the text. -/
  | kept
  /-- A backslash stands before them; an end of the line has to follow. -/
  | joining
  /-- They are passed over after a backslash at the end of a line. -/
  | dropped
  deriving DecidableEq, Repr

/-- An end of a line in front of what follows it. -/
def breakLine (m : Blanks) (rest : Blanks → Option (List Char × List Char)) :
    Option (List Char × List Char) :=
  if m = .kept then after '\n' (rest .kept) else rest .dropped

/-- A text up to its three closing double quotes. -/
def longBasic? (m : Blanks) : List Char → Option (List Char × List Char)
  | [] => none
  | '\n' :: r => breakLine m fun m => longBasic? m r
  | '\r' :: '\n' :: r => breakLine m fun m => longBasic? m r
  | c :: r =>
    if isBlank c then (if m = .kept then after c (longBasic? m r) else longBasic? m r)
    else if m = .joining then none
    else match c, r with
      | '"', '"' :: '"' :: r => some (closing '"' r)
      | '"', r => after '"' (longBasic? .kept r)
      | '\\', 'u' :: a :: b :: c :: d :: r => do
        after (← numbered? [a, b, c, d]) (longBasic? .kept r)
      | '\\', 'U' :: a :: b :: c :: d :: e :: f :: g :: h :: r => do
        after (← numbered? [a, b, c, d, e, f, g, h]) (longBasic? .kept r)
      | '\\', c :: r =>
        if isBlank c || c == '\n' || c == '\r' then longBasic? .joining (c :: r)
        else do after (← escape? c) (longBasic? .kept r)
      | c, r => if isPlain c then after c (longBasic? .kept r) else none

/-- A text up to its three closing single quotes. -/
def longLiteral? : List Char → Option (List Char × List Char)
  | [] => none
  | '\'' :: '\'' :: '\'' :: r => some (closing '\'' r)
  | '\n' :: r => after '\n' (longLiteral? r)
  | '\r' :: '\n' :: r => after '\n' (longLiteral? r)
  | c :: r => if isPlain c then after c (longLiteral? r) else none

/-- Without an end of the line at the start. -/
def dropBreak : List Char → List Char
  | '\n' :: r => r
  | '\r' :: '\n' :: r => r
  | s => s

/-- A text of any kind. -/
def readString? : List Char → Option (String × List Char)
  | '"' :: '"' :: '"' :: r => named (longBasic? .kept (dropBreak r))
  | '"' :: r => named (basic? r)
  | '\'' :: '\'' :: '\'' :: r => named (longLiteral? (dropBreak r))
  | '\'' :: r => named (literal? r)
  | _ => none
where
  named (found : Option (List Char × List Char)) : Option (String × List Char) :=
    found.map fun (cs, t) => (String.ofList cs, t)

/-! ### Numbers -/

/-- Digits of some kind; single underscores may stand between them. -/
def digits? (isDigit : Char → Bool) : List Char → Option (List Char × List Char)
  | [] => none
  | [c] => if isDigit c then some ([c], []) else none
  | c :: '_' :: r => if isDigit c then after c (digits? isDigit r) else none
  | c :: d :: r =>
    if !isDigit c then none
    else if isDigit d then after c (digits? isDigit (d :: r))
    else some ([c], d :: r)

/-- The number that digits stand for in a base. -/
def valueIn (base : Nat) (ds : List Char) : Nat :=
  ds.foldl (fun acc c => acc * base + (Digits.hexValue? c).getD 0) 0

/-- An integer, if 64 bits with a sign can hold it. -/
def whole? (negative : Bool) (n : Nat) : Option Toml :=
  if n ≤ (if negative then 9223372036854775808 else 9223372036854775807) then
    some (.integer (if negative then -(n : Int) else n))
  else none

/-- A natural number in another base. -/
def based? (base : Nat) (isDigit : Char → Bool) (s : List Char) : Option (Toml × List Char) := do
  let (ds, r) ← digits? isDigit s
  return (← whole? false (valueIn base ds), r)

/-- Digits before a point: no zero stands before another digit. -/
def leading? : List Char → Option (List Char × List Char)
  | '0' :: r => some (['0'], r)
  | s => digits? Char.isDigit s

/-- The digits after a point, if there is one. -/
def places? : List Char → Option (Option (List Char) × List Char)
  | '.' :: r => (digits? Char.isDigit r).map fun (ds, t) => (some ds, t)
  | s => some (none, s)

/-- An exponent, if there is one. -/
def exponent? : List Char → Option (Option Int × List Char)
  | [] => some (none, [])
  | c :: r =>
    if c == 'e' || c == 'E' then
      let (negative, r) := match r with
        | '-' :: r => (true, r)
        | '+' :: r => (false, r)
        | r => (false, r)
      (digits? Char.isDigit r).map fun (ds, t) =>
        let n : Int := Digits.value ds
        (some (if negative then -n else n), t)
    else some (none, c :: r)

/-- A floating point number; one that is too large and positive is refused. -/
def real? (negative : Bool) (ds : List Char) (exp : Int) : Option Toml :=
  let x := Binary64.ofDecimal (Digits.value ds) exp
  if x.isInf && !negative then none else some (.float (if negative then -x else x))

/-- A decimal number after its sign. -/
def decimal? (negative : Bool) (s : List Char) : Option (Toml × List Char) := do
  let (ds, s) ← leading? s
  let (places, s) ← places? s
  let (exponent, s) ← exponent? s
  match places, exponent with
  | none, none => return (← whole? negative (Digits.value ds), s)
  | places, exponent =>
    let places := places.getD []
    return (← real? negative (ds ++ places) (exponent.getD 0 - places.length), s)

/-- A number after its sign. -/
def signed? (negative : Bool) : List Char → Option (Toml × List Char)
  | 'i' :: 'n' :: 'f' :: r => some (.float (if negative then -(1.0 / 0.0) else 1.0 / 0.0), r)
  | 'n' :: 'a' :: 'n' :: r => some (.float (0.0 / 0.0), r)
  | s => decimal? negative s

/-! ### Dates -/

/-- Two digits of a value between bounds. -/
def two? (low high : Nat) : List Char → Option (Nat × List Char)
  | a :: b :: r =>
    match Digits.value? [a, b] with
    | some n => if low ≤ n ∧ n ≤ high then some (n, r) else none
    | none => none
  | _ => none

/-- What follows a character. -/
def char? (c : Char) : List Char → Option (List Char)
  | [] => none
  | d :: r => if c == d then some r else none

/-- The days of a month. -/
def daysIn (year month : Nat) : Nat :=
  if month = 2 then
    (if year % 4 = 0 ∧ (year % 100 ≠ 0 ∨ year % 400 = 0) then 29 else 28)
  else if month = 4 ∨ month = 6 ∨ month = 9 ∨ month = 11 then 30 else 31

/-- What follows a date. -/
def date? (s : List Char) : Option (List Char) := do
  let year ← Digits.value? (s.take 4)
  let (month, r) ← two? 1 12 (← char? '-' (s.drop 4))
  let (_, r) ← two? 1 (daysIn year month) (← char? '-' r)
  return r

/-- What follows a fraction of a second, if there is one. -/
def fraction (s : List Char) : List Char :=
  match s with
  | '.' :: c :: r => if c.isDigit then r.dropWhile Char.isDigit else s
  | _ => s

/-- What follows a time. -/
def time? (s : List Char) : Option (List Char) := do
  let (_, r) ← two? 0 23 s
  let (_, r) ← two? 0 59 (← char? ':' r)
  let (_, r) ← two? 0 60 (← char? ':' r)
  return fraction r

/-- What follows an offset, if there is one. -/
def offset? : List Char → Option (List Char)
  | 'Z' :: r | 'z' :: r => some r
  | '+' :: r | '-' :: r => do
    let (_, r) ← two? 0 23 r
    let (_, r) ← two? 0 59 (← char? ':' r)
    return r
  | s => some s

/-- What follows a date with or without a time. -/
def dateTime? (s : List Char) : Option (List Char) := do
  let r ← date? s
  match r with
  | c :: t =>
    if (c == 'T' || c == 't' || c == ' ') && ((two? 0 23 t).bind fun x => char? ':' x.2).isSome then
      offset? (← time? t)
    else return r
  | [] => return []

/-- A date begins here. -/
def isDate (s : List Char) : Bool :=
  (s.take 4).all Char.isDigit && (s.drop 4).head? == some '-'

/-- A time begins here. -/
def isTime (s : List Char) : Bool :=
  (s.take 2).all Char.isDigit && (s.drop 2).head? == some ':'

/-- A date or a time as it is written, given what follows it. -/
def upTo (s rest : List Char) : Toml × List Char :=
  (.moment (String.ofList (s.take (s.length - rest.length))), rest)

/-- A number, a date or a time. -/
def readNumber? (s : List Char) : Option (Toml × List Char) :=
  if isDate s then (dateTime? s).map (upTo s)
  else if isTime s then (time? s).map (upTo s)
  else match s with
    | '0' :: 'x' :: r => based? 16 (fun c => (Digits.hexValue? c).isSome) r
    | '0' :: 'o' :: r => based? 8 (fun c => '0' ≤ c && c ≤ '7') r
    | '0' :: 'b' :: r => based? 2 (fun c => c == '0' || c == '1') r
    | '-' :: r => signed? true r
    | '+' :: r => signed? false r
    | s => signed? false s

end Sluice.Toml
