import Mathlib.Tactic.SplitIfs

/-!
# Capitals and small letters

Only ASCII letters have two cases. Texts that are the same in capitals are the same in small
letters, and the other way round.

* `Text.toNat_toUpper`, `Text.toNat_toLower` : the numbers of the letters;
* `Text.map_toUpper_eq_iff` : two texts in capitals and in small letters.
-/

namespace Sluice.Text

variable {c d : Char} {a b : String}

/-- The number of a character that is shifted if it belongs to a range. -/
theorem toNat_shifted (c : Char) (first last shift : UInt32)
    (hvalid : first ≤ c.val ∧ c.val ≤ last → (c.val + shift).isValidChar) :
    (if h : first ≤ c.val ∧ c.val ≤ last then Char.mk (c.val + shift) (hvalid h) else c).toNat =
      if first.toNat ≤ c.toNat ∧ c.toNat ≤ last.toNat then (c.toNat + shift.toNat) % 4294967296
      else c.toNat := by
  have hiff : (first ≤ c.val ∧ c.val ≤ last) =
    (first.toNat ≤ c.toNat ∧ c.toNat ≤ last.toNat) := rfl
  by_cases h : first.toNat ≤ c.toNat ∧ c.toNat ≤ last.toNat
  · rw [dif_pos (hiff ▸ h), if_pos h]
    exact UInt32.toNat_add _ _
  · rw [dif_neg (hiff ▸ h), if_neg h]

theorem toNat_toUpper (c : Char) : c.toUpper.toNat =
    if 97 ≤ c.toNat ∧ c.toNat ≤ 122 then (c.toNat + 4294967264) % 4294967296 else c.toNat :=
  toNat_shifted c 97 122 4294967264 _

theorem toNat_toLower (c : Char) : c.toLower.toNat =
    if 65 ≤ c.toNat ∧ c.toNat ≤ 90 then (c.toNat + 32) % 4294967296 else c.toNat :=
  toNat_shifted c 65 90 32 _

/-- Capitals tell apart the same characters as small letters. -/
theorem toUpper_eq_iff : c.toUpper = d.toUpper ↔ c.toLower = d.toLower := by
  simp only [← Char.toNat_inj, toNat_toUpper, toNat_toLower]
  split_ifs <;> omega

theorem toUpper_eq_space : c.toUpper = ' ' ↔ c = ' ' := by
  have hspace : ' '.toNat = 32 := rfl
  simp only [← Char.toNat_inj, toNat_toUpper, hspace]
  split_ifs <;> omega

theorem map_toUpper_eq_iff :
    a.map Char.toUpper = b.map Char.toUpper ↔ a.map Char.toLower = b.map Char.toLower := by
  simp only [← String.toList_inj, String.toList_map]
  generalize a.toList = cs
  generalize b.toList = ds
  induction cs generalizing ds with
  | nil => cases ds <;> simp
  | cons c cs ih =>
    cases ds with
    | nil => simp
    | cons d ds => simp only [List.map_cons, List.cons.injEq, toUpper_eq_iff, ih]

theorem space_notMem_map_toUpper (h : ' ' ∉ a.toList) : ' ' ∉ (a.map Char.toUpper).toList := by
  intro hmem
  rw [String.toList_map] at hmem
  obtain ⟨c, hc, hspace⟩ := List.mem_map.1 hmem
  rw [toUpper_eq_space.1 hspace] at hc
  exact h hc

end Sluice.Text
