import Sluice.Json.Printer
import Sluice.Json.Reader
import Sluice.Quota.Ledger

/-!
# Ledgers as text

`Ledger.text` writes the rows of a ledger as a JSON object, a list of five numbers for each id;
`Ledger.ofUtf8?` reads it. An empty text is an empty ledger.
-/

namespace Sluice

namespace Row

/-- The five numbers of a row. -/
def toJson (r : Row) : Json :=
  .array ([r.limit, r.remaining, r.resetAtMs, r.windowMs, r.updatedAtMs].map fun n =>
    .ofInt n.toInt)

/-- A signed number of 64 bits. -/
def column? (j : Json) : Option Int64 := do
  let n ← j.integer?
  if -9223372036854775808 ≤ n ∧ n < 9223372036854775808 then some (Int64.ofInt n) else none

/-- A row from its five numbers. -/
def ofJson? (j : Json) : Option Row := do
  match ← (← j.items?).mapM column? with
  | [limit, remaining, resetAtMs, windowMs, updatedAtMs] =>
    return ⟨limit, remaining, resetAtMs, windowMs, updatedAtMs⟩
  | _ => none

end Row

namespace Ledger

/-- The rows as text. -/
def text (rows : Catalog Row) : String :=
  (Json.ofMembers (rows.toList.map fun e => (e.1, e.2.toJson))).text ++ "\n"

/-- The rows in an object. -/
def ofJson? (j : Json) : Option (Catalog Row) := do
  let rows ← (← j.members?).mapM fun m => (Row.ofJson? m.2).map (m.1, ·)
  return rows.foldl (fun c e => c.insert e.1 e.2) .empty

/-- The rows in a text. -/
def ofUtf8? (s : Bytes) : Option (Catalog Row) :=
  if s.isEmpty then some .empty else (Json.ofUtf8? s).bind ofJson?

end Ledger

end Sluice
