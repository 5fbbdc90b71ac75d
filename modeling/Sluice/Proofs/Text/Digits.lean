import Sluice.Text.Digits
import Mathlib.Algebra.Group.Nat.Defs
import Mathlib.Tactic.IntervalCases

/-!
# Decimal digits are read again

* `Digits.value_padded` : the digits of a number, zeros in front or not, stand for the number;
* `Digits.length_padded`, `Digits.length_padded_le` : a number that fits takes exactly the width,
  and a longer one its digits;
* `Digits.value_append_zeros` : a zero at the end is a factor of ten;
* `Digits.decimal_ne_zero_cons` : no zero stands before another digit.
-/

namespace Sluice.Digits

variable {c : Char} {n width : Nat}

theorem isDigit_of_mem_padded (h : c ∈ padded width n) : c.isDigit := by
  rcases List.mem_append.1 h with h | h
  · rw [(List.mem_replicate.1 h).2]
    rfl
  · exact Nat.isDigit_of_mem_toDigits (by decide) (by decide) h

theorem toNat_lt_of_mem_padded (h : c ∈ padded width n) : c.toNat < 128 := by
  have hdigit := isDigit_of_mem_padded h
  simp only [Char.isDigit, ge_iff_le, Bool.and_eq_true, decide_eq_true_eq] at hdigit
  have hhi : c.toNat ≤ 57 := hdigit.2
  omega

theorem padded_ne_nil : padded width n ≠ [] :=
  List.append_ne_nil_of_right_ne_nil _ Nat.toDigits_ne_nil

theorem length_decimal_le (hwidth : 0 < width) : (decimal n).length ≤ width ↔ n < 10 ^ width :=
  Nat.length_toDigits_le_iff (by decide) hwidth

theorem length_padded (hwidth : 0 < width) (h : n < 10 ^ width) :
    (padded width n).length = width := by
  have := (length_decimal_le hwidth).2 h
  rw [padded, List.length_append, List.length_replicate]
  omega

theorem length_padded_le {most : Nat} (hmost : 0 < most) (hwidth : width ≤ most)
    (h : n < 10 ^ most) : (padded width n).length ≤ most := by
  have := (length_decimal_le hmost).2 h
  rw [padded, List.length_append, List.length_replicate]
  omega

theorem value_decimal (n : Nat) : value (decimal n) = n := Nat.ofDigitChars_ten_toDigits

theorem value_padded (width n : Nat) : value (padded width n) = n := by
  rw [value, padded, Nat.ofDigitChars_append, Nat.ofDigitChars_replicate_zero, Nat.mul_zero]
  exact value_decimal n

theorem value_append_zeros (ds : List Char) (k : Nat) :
    value (ds ++ List.replicate k '0') = 10 ^ k * value ds := by
  rw [value, Nat.ofDigitChars_append, Nat.ofDigitChars_replicate_zero, value]

/-- The decimal digits of a positive number begin with another digit than zero. -/
theorem decimal_ne_zero_cons (hn : 0 < n) (r : List Char) : decimal n ≠ '0' :: r := by
  induction n using Nat.strongRecOn generalizing r with
  | ind n ih =>
    intro h
    rw [decimal, Nat.toDigits_eq_if (by decide)] at h
    by_cases hlt : n < 10
    · rw [if_pos hlt] at h
      interval_cases n <;> simp [Nat.digitChar] at h
    · rw [if_neg hlt] at h
      obtain ⟨c, cs, hcs⟩ :=
        List.exists_cons_of_ne_nil (Nat.toDigits_ne_nil (n := n / 10) (b := 10))
      rw [hcs, List.cons_append] at h
      refine ih (n / 10) (by omega) (by omega) cs ?_
      rw [decimal, hcs, (List.cons.inj h).1]

end Sluice.Digits
