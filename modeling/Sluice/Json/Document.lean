import Sluice.Document
import Sluice.Json.Basic

/-!
# JSON values as documents
-/

namespace Sluice

instance : Document Json where
  text? := Json.text?
  natural? := Json.natural?
  float? := Json.float?
  bool? := Json.bool?
  items? := Json.items?
  isNull j :=
    match j with
    | .null => true
    | _ => false
  record? := Json.record?

end Sluice
