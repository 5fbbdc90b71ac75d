import Sluice.Time.Timestamp
import Sluice.Text.Blank
import Sluice.Text.Digits

/-!
# Points in time as text

* `Rfc3339.write` is the form `2024-01-01T00:00:00.5Z`; the fraction has no, three, six or nine
  places, and a leap second is second 60;
* `Rfc3339.read?` reads that form and looser ones: fields may have fewer digits, space may stand
  before fields and signs, the separator may be a space, the zone may be `Z`, `UTC` or an offset;
* `Timestamp.sentence` and `Timestamp.withOffset` are the forms for people.
-/

namespace Sluice.Rfc3339

/-! ### Writing -/

/-- A year: four digits, or a sign and at least four. -/
def yearChars (y : Int) : List Char :=
  if 0 ≤ y ∧ y ≤ 9999 then Digits.padded 4 y.toNat
  else (if y < 0 then '-' else '+') :: Digits.padded 4 y.natAbs

/-- A date. -/
def dateChars (d : Date) : List Char :=
  yearChars d.year ++ '-' :: Digits.padded 2 d.month ++ '-' :: Digits.padded 2 d.day

/-- A fraction of a second: no, three, six or nine places. -/
def fractionChars (nanos : Nat) : List Char :=
  if nanos = 0 then []
  else if nanos % 1000000 = 0 then '.' :: Digits.padded 3 (nanos / 1000000)
  else if nanos % 1000 = 0 then '.' :: Digits.padded 6 (nanos / 1000)
  else '.' :: Digits.padded 9 nanos

/-- Hour, minute and second, counting a leap second. -/
def clockChars (t : Timestamp) : List Char :=
  let (h, m, s) := t.clock
  Digits.padded 2 h ++ ':' :: Digits.padded 2 m ++
    ':' :: Digits.padded 2 (s + t.nanos / 1000000000)

/-- Date and time of day, with a separator between. -/
def fields (separator : Char) (t : Timestamp) : List Char :=
  dateChars t.date ++ separator :: clockChars t ++ fractionChars (t.nanos % 1000000000)

/-- A point in time with the zone `Z`. -/
def write (t : Timestamp) : List Char := fields 'T' t ++ ['Z']

/-! ### Reading -/

/-- Without white space at the start. -/
def skip (cs : List Char) : List Char := cs.dropWhile Text.isBlank

/-- The digits at the start, at most `most` of them. -/
def digits (most : Nat) (cs : List Char) : List Char := (cs.take most).takeWhile Char.isDigit

/-- A number of one to `most` digits, and what follows. -/
def natural? (most : Nat) (cs : List Char) : Option (Nat × List Char) :=
  let ds := digits most cs
  if ds.isEmpty then none else some (Digits.value ds, cs.drop ds.length)

/-- A number of one to `most` digits after white space, and what follows. -/
def number? (most : Nat) (cs : List Char) : Option (Nat × List Char) := natural? most (skip cs)

/-- A year: after a sign any number of digits, else up to four. -/
def year? (cs : List Char) : Option (Int × List Char) :=
  match skip cs with
  | '-' :: r => (natural? r.length r).map fun (n, t) => (-(n : Int), t)
  | '+' :: r => (natural? r.length r).map fun (n, t) => ((n : Int), t)
  | r => (natural? 4 r).map fun (n, t) => ((n : Int), t)

/-- A date of the calendar, which has the years -262143 to 262142. -/
def isDate (d : Date) : Bool :=
  -262143 ≤ d.year && d.year ≤ 262142 && Calendar.isValid d

/-- What follows a mark after white space. -/
def mark? (m : Char) (cs : List Char) : Option (List Char) :=
  match skip cs with
  | c :: r => if c = m then some r else none
  | [] => none

/-- The nanoseconds of a fraction; places beyond the ninth are dropped. -/
def fraction? : List Char → Option (Nat × List Char)
  | '.' :: r =>
    let ds := r.takeWhile Char.isDigit
    if ds.isEmpty then none
    else some (Digits.value ((ds ++ List.replicate 9 '0').take 9), r.drop ds.length)
  | cs => some (0, cs)

/-- Two digits. -/
def pair? : List Char → Option (Nat × List Char)
  | a :: b :: r => (Digits.value? [a, b]).map (·, r)
  | _ => none

/-- The seconds by which a zone is ahead, and what follows the zone. -/
def zone? (cs : List Char) : Option (Int × List Char) :=
  match skip cs with
  | 'Z' :: r | 'z' :: r => some (0, r)
  | sign :: r =>
    if ((sign :: r).take 3).map Char.toLower = ['u', 't', 'c'] then some (0, r.drop 2)
    else if sign = '+' ∨ sign = '-' ∨ sign = '−' then do
      let (h, r) ← pair? r
      let (m, r) ← pair? (r.dropWhile fun c => c = ':' || Text.isBlank c)
      if m < 60 ∧ h < 24 then
        let s : Int := h * 3600 + m * 60
        some (if sign = '+' then s else -s, r)
      else none
    else none
  | [] => none

/-- The point in time that a text stands for. -/
def read? (cs : List Char) : Option Timestamp := do
  let (year, cs) ← year? cs
  let (month, cs) ← number? 2 (← mark? '-' cs)
  let (day, cs) ← number? 2 (← mark? '-' cs)
  let cs ← match cs with
    | 'T' :: r | 't' :: r | ' ' :: r => some r
    | _ => none
  let (hour, cs) ← number? 2 cs
  let (minute, cs) ← number? 2 (← mark? ':' cs)
  let (second, cs) ← number? 2 (← mark? ':' cs)
  let (nanos, cs) ← fraction? cs
  let (ahead, cs) ← zone? cs
  let date : Date := ⟨year, month, day⟩
  if (skip cs).isEmpty ∧ isDate date ∧ hour < 24 ∧ minute < 60 ∧ second ≤ 60 then
    let leap := second / 60
    Timestamp.ofParts?
      (Calendar.dayNumber date * 86400 + (hour * 3600 + minute * 60 + (second - leap) : Nat) - ahead)
      (nanos + leap * 1000000000)
  else none

end Sluice.Rfc3339

namespace Sluice

namespace Timestamp

/-- The text of a point in time. -/
def text (t : Timestamp) : String := String.ofList (Rfc3339.write t)

/-- The point in time that a text stands for. -/
def ofText? (s : String) : Option Timestamp := Rfc3339.read? s.toList

/-- With the zone as an offset: `2024-01-01T00:00:00+00:00`. -/
def withOffset (t : Timestamp) : String := String.ofList (Rfc3339.fields 'T' t) ++ "+00:00"

/-- With words: `2024-01-01 00:00:00 UTC`. -/
def sentence (t : Timestamp) : String := String.ofList (Rfc3339.fields ' ' t) ++ " UTC"

end Timestamp

end Sluice
