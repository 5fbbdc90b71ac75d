import Sluice.Uuid
import Mathlib.Data.List.Basic
import Mathlib.Tactic.IntervalCases

/-!
# Hexadecimal digits are read again

* `Digits.ofHex?_hex` : the digits of bytes, two for each, stand for the bytes;
* `Digits.hexNumber?_hexByte` : four digits, the first two of them zero, stand for a byte;
* `Uuid.ofText?_text` : an id is read from its canonical text.
-/

namespace Sluice

namespace Digits

variable {n : Nat}

theorem hexValue?_digitChar (h : n < 16) : hexValue? (Nat.digitChar n) = some n := by
  interval_cases n <;> rfl

theorem length_hex (s : List UInt8) : (hex s).length = 2 * s.length := by
  induction s with
  | nil => rfl
  | cons b s ih =>
    have hcons : hex (b :: s) = hexByte b ++ hex s := rfl
    rw [hcons, List.length_append, ih, List.length_cons]
    simp [hexByte]
    omega

theorem ofHex?_hex (s : List UInt8) : ofHex? (hex s) = some s := by
  induction s with
  | nil => rfl
  | cons b s ih =>
    have hhigh := hexValue?_digitChar (show b.toNat / 16 < 16 by have := b.toNat_lt; omega)
    have hlow := hexValue?_digitChar (show b.toNat % 16 < 16 by omega)
    have hbyte : (b.toNat / 16 * 16 + b.toNat % 16).toUInt8 = b := by
      rw [Nat.div_add_mod', Nat.toUInt8, UInt8.ofNat_toNat]
    change ofHex? (_ :: _ :: hex s) = _
    rw [ofHex?, hhigh, hlow, ih]
    exact congrArg (fun x => some (x :: s)) hbyte

theorem hexNumber?_hexByte (b : UInt8) : hexNumber? ('0' :: '0' :: hexByte b) = some b.toNat := by
  have hhigh := hexValue?_digitChar (show b.toNat / 16 < 16 by have := b.toNat_lt; omega)
  have hlow := hexValue?_digitChar (show b.toNat % 16 < 16 by omega)
  have hzero : hexValue? '0' = some 0 := rfl
  simp [hexNumber?, hexByte, List.foldlM_cons, hhigh, hlow, hzero, Nat.div_add_mod']

end Digits

namespace Uuid

/-- The groups of a row of 32 digits, without the hyphens, are the row. -/
theorem ungroup?_grouped {ds : List Char} (h : ds.length = 32) :
    ungroup? (grouped ds) = some ds ∧ (grouped ds).length = 36 := by
  have hds : ds.take 8 ++ (ds.drop 8).take 4 ++ (ds.drop 12).take 4 ++ (ds.drop 16).take 4 ++
      ds.drop 20 = ds := by
    simp only [List.append_assoc]
    rw [show ds.drop 20 = (ds.drop 16).drop 4 by simp, List.take_append_drop,
      show ds.drop 16 = (ds.drop 12).drop 4 by simp, List.take_append_drop,
      show ds.drop 12 = (ds.drop 8).drop 4 by simp, List.take_append_drop, List.take_append_drop]
  have hlen : (grouped ds).length = 36 := by simp [grouped, h]
  have hdigits : (grouped ds).take 8 ++ ((grouped ds).drop 9).take 4 ++
      ((grouped ds).drop 14).take 4 ++ ((grouped ds).drop 19).take 4 ++ (grouped ds).drop 24 =
        ds := by
    simpa [grouped, List.take_append, List.drop_append, List.drop_take, h] using hds
  unfold ungroup?
  rw [hdigits]
  exact ⟨if_pos ⟨hlen, rfl⟩, hlen⟩

theorem ofText?_text (u : Uuid) : ofText? u.text = some u := by
  have hlen : (Digits.hex u.bytes).length = 32 := by rw [Digits.length_hex, u.length_bytes]
  obtain ⟨hdigits, hgrouped⟩ := ungroup?_grouped hlen
  have hread : digits? u.text.toList = some (Digits.hex u.bytes) := by
    rw [text, String.toList_ofList, digits?, hgrouped]
    exact hdigits
  rw [ofText?, hread]
  simp [Digits.ofHex?_hex, ofBytes?, u.length_bytes]

end Uuid

end Sluice
