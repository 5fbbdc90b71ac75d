import Mathlib
import Sluice.Proofs.Number.Rounding

/-!
# Rounding to the nearest number

A quotient of two numbers is cut off somewhere behind the digits that are kept, and two bits
remember what was cut off. That is enough to round to the nearest number, and to the even one of two
that are equally near.

* `Binary64.Describes` : a mantissa and its two bits say where a number lies;
* `Binary64.Nearby` : a number lies where everything is rounded to a given mantissa and exponent;
* `Binary64.roundWithAccuracy_eq`, `Binary64.div_eq` : what lies there is rounded so;
* `Binary64.unpack_pack` : what is rounded is packed and unpacked without loss.
-/

namespace Sluice.Binary64

open Float.Model Float.Model.UnpackedFloat

/-! ### Mantissas with two bits -/

/-- Where a number lies, according to a mantissa and two bits: on it, before the middle of what
follows it, in the middle, or behind it. -/
def Describes : ExtendedMantissa → ℚ → Prop
  | ⟨m, false, false⟩, y => y = m
  | ⟨m, false, true⟩, y => m < y ∧ y < m + 1 / 2
  | ⟨m, true, false⟩, y => y = m + 1 / 2
  | ⟨m, true, true⟩, y => m + 1 / 2 < y ∧ y < m + 1

theorem Describes.shiftRightOne {em : ExtendedMantissa} {y : ℚ} (h : Describes em y) :
    Describes em.shiftRightOne (y / 2) := by
  obtain ⟨m, round, sticky⟩ := em
  have hm : (m : ℚ) = 2 * (m / 2 : Nat) + (m % 2 : Nat) := by
    exact_mod_cast (Nat.div_add_mod m 2).symm
  rcases Nat.mod_two_eq_zero_or_one m with hpar | hpar <;>
    rw [hpar] at hm <;> cases round <;> cases sticky <;>
    simp only [Describes, ExtendedMantissa.shiftRightOne, hpar] at h ⊢ <;>
    push_cast at hm <;> norm_num <;> grind

theorem Describes.shiftRight {em : ExtendedMantissa} {y : ℚ} (h : Describes em y) (k : Nat) :
    Describes (em >>> k) (y / 2 ^ k) := by
  induction k with
  | zero =>
    rw [pow_zero, div_one]
    exact h
  | succ k ih =>
    change Describes (em >>> k).shiftRightOne _
    rw [pow_succ, ← div_div]
    exact ih.shiftRightOne

/-- A whole number to which a number between two others is rounded: the nearest one, and an even one
if two are equally near. -/
theorem Describes.roundedMantissa_eq {em : ExtendedMantissa} {y : ℚ} {n : Nat} (h : Describes em y)
    (hbelow : n - 1 / 2 ≤ y) (habove : y ≤ n + 1 / 2)
    (hodd : n % 2 = 1 → n - 1 / 2 < y ∧ y < n + 1 / 2) : em.roundedMantissa = n := by
  obtain ⟨m, round, sticky⟩ := em
  cases round <;> cases sticky
  · -- exactly on the mantissa
    change m = n
    have heq : y = m := h
    have h1 : (m : ℚ) < n + 1 := by linarith
    have h2 : (n : ℚ) < m + 1 := by linarith
    norm_cast at h1 h2
    omega
  · -- before the middle
    change m = n
    obtain ⟨hm, hmid⟩ : (m : ℚ) < y ∧ y < m + 1 / 2 := h
    have h1 : (m : ℚ) < n + 1 := by linarith
    have h2 : (n : ℚ) < m + 1 := by linarith
    norm_cast at h1 h2
    omega
  · -- in the middle, where the even one is taken
    change m + m % 2 = n
    have hmid : y = m + 1 / 2 := h
    have h1 : (m : ℚ) < n + 1 := by linarith
    have h2 : (n : ℚ) < m + 2 := by linarith
    norm_cast at h1 h2
    rcases Nat.mod_two_eq_zero_or_one n with hpar | hpar
    · omega
    · obtain ⟨hlo, hhi⟩ := hodd hpar
      have h3 : (m : ℚ) < n := by linarith
      have h4 : (n : ℚ) < m + 1 := by linarith
      norm_cast at h3 h4
      omega
  · -- behind the middle
    change m + 1 = n
    obtain ⟨hmid, hm⟩ : (m : ℚ) + 1 / 2 < y ∧ y < m + 1 := h
    have h1 : (m : ℚ) < n := by linarith
    have h2 : (n : ℚ) < m + 2 := by linarith
    norm_cast at h1 h2
    omega

/-! ### Where everything is rounded to the same number -/

/-- The mantissa has as many digits as fit, and fewer only at the least exponent. -/
structure Canonical (m : Nat) (e : Int) : Prop where
  pos : 0 < m
  lt : m < 2 ^ 53
  least : -1074 ≤ e
  full : 2 ^ 52 ≤ m ∨ e = -1074

/-- How far below a mantissa numbers are rounded to it. Below a power of two the next number is only
half as far away. -/
def reach (m : Nat) (e : Int) : ℚ := if m = 2 ^ 52 ∧ -1074 < e then 1 / 4 else 1 / 2

/-- A number is rounded to a mantissa and an exponent. The ends belong to it if the mantissa is
even. -/
structure Nearby (m : Nat) (e : Int) (v : ℚ) : Prop where
  below : (m - reach m e) * 2 ^ e ≤ v
  above : v ≤ (m + 1 / 2) * 2 ^ e
  odd : m % 2 = 1 → (m - reach m e) * 2 ^ e < v ∧ v < (m + 1 / 2) * 2 ^ e

theorem reach_pos (m : Nat) (e : Int) : 0 < reach m e := by
  unfold reach
  split <;> norm_num

theorem reach_le (m : Nat) (e : Int) : reach m e ≤ 1 / 2 := by
  unfold reach
  split <;> norm_num

theorem nearby_value (m : Nat) (e : Int) : Nearby m e (value m e) := by
  have hpow : (0 : ℚ) < 2 ^ e := by positivity
  have hreach := reach_pos m e
  have hlo : ((m : ℚ) - reach m e) * 2 ^ e < value m e :=
    mul_lt_mul_of_pos_right (by linarith) hpow
  have hhi : value m e < ((m : ℚ) + 1 / 2) * 2 ^ e :=
    mul_lt_mul_of_pos_right (by linarith) hpow
  exact ⟨hlo.le, hhi.le, fun _ => ⟨hlo, hhi⟩⟩

/-- The exponent at which a number is cut off. -/
structure CutAt (t : Int) (v : ℚ) : Prop where
  least : -1074 ≤ t
  full : t = -1074 ∨ (2 : ℚ) ^ (t + 52) ≤ v
  lt : v < (2 : ℚ) ^ (t + 53)

theorem targetExponent_eq (t : Int) : Format.binary64.targetExponent t = max (t - 53) (-1074) := rfl

theorem two_zpow_lt {a b : Int} : (2 : ℚ) ^ a < 2 ^ b ↔ a < b :=
  zpow_lt_zpow_iff_right₀ (by norm_num)

theorem two_zpow_le {a b : Int} : (2 : ℚ) ^ a ≤ 2 ^ b ↔ a ≤ b :=
  zpow_le_zpow_iff_right₀ (by norm_num)

/-- What has been cut off leaves the first digit where it was. -/
theorem lt_totalExponent {q : Nat} {e : Int} {v : ℚ} (h : v < (q + 1) * 2 ^ e) :
    v < 2 ^ totalExponent q e := by
  have hlog : ((q : ℚ) + 1) ≤ 2 ^ (q.log2 + 1) := by
    have : q < 2 ^ (q.log2 + 1) := Nat.lt_log2_self
    exact_mod_cast this
  calc v < (q + 1) * 2 ^ e := h
    _ ≤ 2 ^ (q.log2 + 1) * 2 ^ e := by gcongr
    _ = 2 ^ totalExponent q e := by
      rw [← zpow_natCast, ← zpow_add₀ (by norm_num)]
      rfl

theorem cutAt_targetExponent {q : Nat} {e : Int} {v : ℚ} (hq : q * (2 : ℚ) ^ e ≤ v)
    (hv : v < (q + 1) * 2 ^ e)
    (he : e ≤ Format.binary64.targetExponent (totalExponent q e)) :
    CutAt (Format.binary64.targetExponent (totalExponent q e)) v := by
  have hlt := lt_totalExponent hv
  rw [targetExponent_eq] at he ⊢
  refine ⟨le_max_right _ _, ?_, hlt.trans_le (two_zpow_le.2 (by omega))⟩
  by_cases hmin : totalExponent q e - 53 ≤ -1074
  · exact .inl (max_eq_right hmin)
  · right
    have hq0 : q ≠ 0 := by
      rintro rfl
      simp only [totalExponent, Nat.log2_zero] at he hmin
      omega
    have hlog : (2 : ℚ) ^ q.log2 ≤ q := by exact_mod_cast Nat.log2_self_le hq0
    calc (2 : ℚ) ^ (max (totalExponent q e - 53) (-1074) + 52) = 2 ^ q.log2 * 2 ^ e := by
          rw [← zpow_natCast, ← zpow_add₀ (by norm_num)]
          congr 1
          simp only [totalExponent] at hmin ⊢
          omega
      _ ≤ q * 2 ^ e := by gcongr
      _ ≤ v := hq

/-- A number is cut off at the exponent to which it is rounded, or at the one before if it is
rounded up to a power of two. -/
theorem CutAt.eq_or {m : Nat} {e t : Int} {v : ℚ} (ht : CutAt t v) (hc : Canonical m e)
    (hv : Nearby m e v) : t = e ∨ t + 1 = e ∧ m = 2 ^ 52 := by
  have hm : (m : ℚ) + 1 ≤ 2 ^ 53 := by exact_mod_cast hc.lt
  have hpow : (0 : ℚ) < 2 ^ e := by positivity
  have hle : t ≤ e := by
    rcases ht.full with hmin | hfull
    · exact hmin ▸ hc.least
    · have hupper : v < 2 ^ (e + 53) := by
        calc v ≤ (m + 1 / 2) * 2 ^ e := hv.above
          _ < 2 ^ 53 * 2 ^ e := mul_lt_mul_of_pos_right (by linarith) hpow
          _ = 2 ^ (e + 53) := by rw [add_comm, zpow_add₀ (by norm_num)]; norm_num
      have := two_zpow_lt.1 (hfull.trans_lt hupper)
      omega
  rcases hle.eq_or_lt with heq | hlt
  · exact .inl heq
  -- Below the exponent, the mantissa is the least one with all digits.
  have he : -1074 < e := lt_of_le_of_lt ht.least hlt
  have hfull : 2 ^ 52 ≤ m := hc.full.resolve_right he.ne'
  have hupper : v < 2 ^ 52 * 2 ^ e := by
    calc v < 2 ^ (t + 53) := ht.lt
      _ ≤ 2 ^ (e + 52) := two_zpow_le.2 (by omega)
      _ = 2 ^ 52 * 2 ^ e := by rw [add_comm, zpow_add₀ (by norm_num)]; norm_num
  have heq : m = 2 ^ 52 := by
    by_contra hne
    have hm' : (2 : ℚ) ^ 52 + 1 ≤ m := by
      have : 2 ^ 52 + 1 ≤ m := by omega
      exact_mod_cast this
    have hreach := reach_le m e
    have : (2 : ℚ) ^ 52 * 2 ^ e ≤ v :=
      (mul_le_mul_of_nonneg_right (by linarith) hpow.le).trans hv.below
    linarith
  have hlower : (2 : ℚ) ^ (e + 51) < 2 ^ (t + 53) := by
    refine lt_of_le_of_lt ?_ ht.lt
    refine le_trans ?_ hv.below
    have hreach := reach_le m e
    calc (2 : ℚ) ^ (e + 51) = 2 ^ 51 * 2 ^ e := by
          rw [add_comm, zpow_add₀ (by norm_num)]; norm_num
      _ ≤ (m - reach m e) * 2 ^ e := by
          refine mul_le_mul_of_nonneg_right ?_ hpow.le
          rw [heq] at hreach ⊢
          norm_num at hreach ⊢
          linarith
  have := two_zpow_lt.1 hlower
  exact .inr ⟨by omega, heq⟩

/-! ### Rounding -/

theorem Describes.bounds {em : ExtendedMantissa} {y : ℚ} (h : Describes em y) :
    (em.mantissa : ℚ) ≤ y ∧ y < em.mantissa + 1 := by
  obtain ⟨m, round, sticky⟩ := em
  cases round <;> cases sticky <;> simp only [Describes] at h ⊢ <;>
    constructor <;> linarith

theorem mantissa_ofMantissaAndAccuracy (q : Nat) (acc : Accuracy) :
    (ExtendedMantissa.ofMantissaAndAccuracy q acc).mantissa = q := by
  cases acc with
  | exact => rfl
  | inexact o => cases o <;> rfl

theorem shiftToTargetExponent_canonical {m : Nat} {e : Int} (hc : Canonical m e) :
    shiftToTargetExponent Format.binary64 m e .exact = (⟨m, false, false⟩, e) := by
  have hlog : m.log2 < 53 := (Nat.log2_lt hc.pos.ne').2 hc.lt
  have htarget : (Format.binary64.targetExponent (totalExponent m e) - e).toNat = 0 := by
    rw [targetExponent_eq]
    simp only [totalExponent]
    have := hc.least
    omega
  simp only [shiftToTargetExponent, shiftToExponent, htarget, Nat.cast_zero, add_zero]
  rfl

theorem shiftToTargetExponent_overflow {t : Int} (ht : -1074 ≤ t) :
    shiftToTargetExponent Format.binary64 (2 ^ 53) t .exact = (⟨2 ^ 52, false, false⟩, t + 1) := by
  have htarget : (Format.binary64.targetExponent (totalExponent (2 ^ 53) t) - t).toNat = 1 := by
    rw [targetExponent_eq, totalExponent, Nat.log2_two_pow]
    omega
  simp only [shiftToTargetExponent, shiftToExponent, htarget, Nat.cast_one]
  rfl

/-- The first shift cuts a number off at its target exponent. -/
theorem shiftToTargetExponent_describes {q : Nat} {e : Int} {acc : Accuracy} {v : ℚ}
    (hq : Describes (ExtendedMantissa.ofMantissaAndAccuracy q acc) (v / 2 ^ e))
    (he : e ≤ Format.binary64.targetExponent (totalExponent q e)) :
    let cut := shiftToTargetExponent Format.binary64 q e acc
    CutAt cut.2 v ∧ Describes cut.1 (v / 2 ^ cut.2) := by
  have hbounds := hq.bounds
  rw [mantissa_ofMantissaAndAccuracy, le_div_iff₀ (by positivity), div_lt_iff₀ (by positivity)]
    at hbounds
  have hcut := cutAt_targetExponent hbounds.1 hbounds.2 he
  simp only [shiftToTargetExponent, shiftToExponent]
  generalize Format.binary64.targetExponent (totalExponent q e) = t at he hcut ⊢
  obtain ⟨k, rfl⟩ := Int.le.dest he
  rw [show (e + (k : Int) - e).toNat = k by omega]
  refine ⟨hcut, ?_⟩
  rw [zpow_add₀ (by norm_num), ← div_div, zpow_natCast]
  exact hq.shiftRight k

/-- What lies in the reach of a mantissa is cut off there or, if it is rounded up to a power of two,
one place before. -/
theorem Nearby.roundedMantissa {m : Nat} {e t : Int} {v : ℚ} {em : ExtendedMantissa}
    (hv : Nearby m e v) (hc : Canonical m e) (hcut : CutAt t v) (hem : Describes em (v / 2 ^ t)) :
    t = e ∧ em.roundedMantissa = m ∨ t + 1 = e ∧ m = 2 ^ 52 ∧ em.roundedMantissa = 2 ^ 53 := by
  have hpow : (0 : ℚ) < 2 ^ t := by positivity
  rcases hcut.eq_or hc hv with rfl | ⟨rfl, rfl⟩
  · have hreach := reach_le m t
    refine .inl ⟨rfl, hem.roundedMantissa_eq ?_ ?_ fun hodd => ⟨?_, ?_⟩⟩
    · refine le_trans ?_ ((le_div_iff₀ hpow).2 hv.below)
      linarith
    · exact (div_le_iff₀ hpow).2 hv.above
    · refine lt_of_le_of_lt ?_ ((lt_div_iff₀ hpow).2 (hv.odd hodd).1)
      linarith
    · exact (div_lt_iff₀ hpow).2 (hv.odd hodd).2
  · refine .inr ⟨rfl, rfl, hem.roundedMantissa_eq ?_ ?_ fun hodd => absurd hodd (by decide)⟩
    -- Rounded up to a power of two: what is cut off one place lower overflows to `2 ^ 53`.
    · have hbelow := hv.below
      rw [reach, if_pos ⟨rfl, by have := hcut.least; omega⟩, zpow_add_one₀ (by norm_num)] at hbelow
      rw [le_div_iff₀ hpow]
      refine le_trans (le_of_eq ?_) hbelow
      push_cast
      ring
    · have hlt := hcut.lt
      rw [add_comm, zpow_add₀ (by norm_num)] at hlt
      rw [div_le_iff₀ hpow]
      refine hlt.le.trans (mul_le_mul_of_nonneg_right ?_ hpow.le)
      push_cast
      norm_num

/-- **A number is rounded to the mantissa and the exponent in whose reach it lies.** -/
theorem roundWithAccuracy_eq {m q : Nat} {e e' : Int} {acc : Accuracy} {v : ℚ} (s : Sign)
    (hc : Canonical m e)
    (hq : Describes (ExtendedMantissa.ofMantissaAndAccuracy q acc) (v / 2 ^ e'))
    (he : e' ≤ Format.binary64.targetExponent (totalExponent q e')) (hv : Nearby m e v) :
    roundWithAccuracy Format.binary64 s q e' acc = .finite s m e hc.pos := by
  obtain ⟨hcut, hem⟩ := shiftToTargetExponent_describes hq he
  have hpos := hc.pos.ne'
  unfold roundWithAccuracy
  generalize shiftToTargetExponent Format.binary64 q e' acc = cut at hcut hem ⊢
  obtain ⟨em, t⟩ := cut
  rcases hv.roundedMantissa hc hcut hem with ⟨rfl, hround⟩ | ⟨rfl, rfl, hround⟩
  · simp only [hround, shiftToTargetExponent_canonical hc, hpos, dite_false]
  · simp only [hround, shiftToTargetExponent_overflow hcut.least, hpos, dite_false]

/-! ### Quotients -/

/-- The bits of a fraction say how it compares with one half. -/
theorem describes_fraction {m d : Nat} (hd : 0 < d) :
    Describes (ExtendedMantissa.ofMantissaAndAccuracy (m / d) (accuracyOfFraction (m % d) d))
      (m / d : ℚ) := by
  have hd' : (0 : ℚ) < d := by exact_mod_cast hd
  have hdiv : (m : ℚ) / d = (m / d : Nat) + (m % d : Nat) / d := by
    rw [div_eq_iff hd'.ne', add_mul, div_mul_cancel₀ _ hd'.ne', mul_comm _ (d : ℚ)]
    exact_mod_cast (Nat.div_add_mod m d).symm
  have hlt : ((m % d : Nat) : ℚ) < d := by exact_mod_cast Nat.mod_lt m hd
  rw [hdiv]
  generalize m / d = q
  generalize m % d = r at *
  unfold accuracyOfFraction
  split
  · rename_i hr
    simp [ExtendedMantissa.ofMantissaAndAccuracy, Describes, hr]
  · rename_i hr
    have hr' : (0 : ℚ) < r := by exact_mod_cast Nat.pos_of_ne_zero hr
    -- What is left of the division lies below, at or above half of the divisor.
    cases hcmp : compare (2 * r) d with
    | lt =>
      have : (2 : ℚ) * r < d := by exact_mod_cast Nat.compare_eq_lt.1 hcmp
      refine ⟨lt_add_of_pos_right _ (by positivity), ?_⟩
      rw [add_lt_add_iff_left, div_lt_div_iff₀ hd' (by norm_num)]
      linarith
    | eq =>
      have : (2 : ℚ) * r = d := by exact_mod_cast Nat.compare_eq_eq.1 hcmp
      change _ = _
      rw [add_right_inj, div_eq_div_iff hd'.ne' (by norm_num)]
      linarith
    | gt =>
      have : (d : ℚ) < 2 * r := by exact_mod_cast Nat.compare_eq_gt.1 hcmp
      refine ⟨?_, ?_⟩
      · rw [add_lt_add_iff_left, div_lt_div_iff₀ (by norm_num) hd']
        linarith
      · rw [add_lt_add_iff_left, div_lt_one hd']
        exact hlt

theorem le_value_totalExponent {m : Nat} (hm : 0 < m) (e : Int) :
    (2 : ℚ) ^ (totalExponent m e - 1) ≤ value m e := by
  have hlog : (2 : ℚ) ^ m.log2 ≤ m := by exact_mod_cast Nat.log2_self_le hm.ne'
  calc (2 : ℚ) ^ (totalExponent m e - 1) = 2 ^ m.log2 * 2 ^ e := by
        rw [← zpow_natCast, ← zpow_add₀ (by norm_num)]
        congr 1
        simp only [totalExponent]
        omega
    _ ≤ value m e := mul_le_mul_of_nonneg_right hlog (by positivity)

theorem value_lt_totalExponent (m : Nat) (e : Int) : value m e < (2 : ℚ) ^ totalExponent m e :=
  lt_totalExponent (mul_lt_mul_of_pos_right (lt_add_one _) (by positivity))

theorem value_pos {m : Nat} (hm : 0 < m) (e : Int) : 0 < value m e :=
  lt_of_lt_of_le (by positivity) (le_value hm)

/-- A quotient is rounded to the mantissa and the exponent in whose reach it lies. -/
theorem div_eq {m m₁ m₂ : Nat} {e e₁ e₂ : Int} (h₁ : 0 < m₁) (h₂ : 0 < m₂) (hc : Canonical m e)
    (hv : Nearby m e (value m₁ e₁ / value m₂ e₂)) :
    UnpackedFloat.div Format.binary64 (.finite .positive m₁ e₁ h₁) (.finite .positive m₂ e₂ h₂) =
      .finite .positive m e hc.pos := by
  change roundWithAccuracy Format.binary64 .positive _ _ _ = _
  generalize ht : min (e₁ - e₂)
    (Format.binary64.targetExponent (totalExponent m₁ e₁ - totalExponent m₂ e₂)) = t
  obtain ⟨k, hk⟩ := Int.le.dest (show t ≤ e₁ - e₂ from ht ▸ min_le_left _ _)
  have hshift : (e₁ - e₂ - t).toNat = k := by omega
  simp only [hshift]
  -- What the digits of the quotient stand for.
  have hquot : value m₁ e₁ / value m₂ e₂ / 2 ^ t = (m₁ <<< k : Nat) / (m₂ : ℚ) := by
    have hm₂ : (m₂ : ℚ) ≠ 0 := by exact_mod_cast h₂.ne'
    have hpow : (2 : ℚ) ^ e₁ = 2 ^ e₂ * (2 ^ t * 2 ^ k) := by
      rw [← zpow_natCast, ← zpow_add₀ (by norm_num), ← zpow_add₀ (by norm_num)]
      congr 1
      omega
    rw [Nat.shiftLeft_eq, value, value, hpow]
    push_cast
    field_simp
  have hdescribes := describes_fraction (m := m₁ <<< k) h₂
  rw [← hquot] at hdescribes
  refine roundWithAccuracy_eq .positive hc hdescribes ?_ hv
  -- There are enough digits.
  have hlt := hdescribes.bounds.2
  rw [mantissa_ofMantissaAndAccuracy, div_lt_iff₀ (by positivity)] at hlt
  have hbig : (2 : ℚ) ^ (totalExponent m₁ e₁ - 1 - totalExponent m₂ e₂) <
      value m₁ e₁ / value m₂ e₂ := by
    rw [zpow_sub₀ (by norm_num)]
    exact div_lt_div₀' (le_value_totalExponent h₁ e₁) (value_lt_totalExponent m₂ e₂)
      (value_pos h₁ e₁) (value_pos h₂ e₂)
  have htotal := two_zpow_lt.1 (hbig.trans (lt_totalExponent hlt))
  have hle : t ≤ Format.binary64.targetExponent (totalExponent m₁ e₁ - totalExponent m₂ e₂) :=
    ht ▸ min_le_right _ _
  rw [targetExponent_eq] at hle ⊢
  omega

/-! ### Packing -/

/-- What has its digits and is not too large is packed part by part. -/
theorem pack_finite {m : Nat} {e : Int} (s : Sign) (hc : Canonical m e) (he : e ≤ 971) :
    UnpackedFloat.pack Format.binary64 (.finite s m e hc.pos) =
      packComponents Format.binary64 s
        (BitVec.ofNat 11 (if 2 ^ 52 ≤ m then (e + 1075).toNat else 0)) (BitVec.ofNat 52 m) := by
  have hmin := hc.least
  have hbias : (e + (Format.binary64.exponentBias : Int) +
      (Format.binary64.mantissaBitsWithoutImplicit : Int)).toNat = (e + 1075).toNat := by
    change (e + 1023 + 52).toNat = _
    congr 1
    omega
  have hnormal : m.log2 + 1 = Format.binary64.mantissaBits ↔ 2 ^ 52 ≤ m := by
    change m.log2 + 1 = 52 + 1 ↔ _
    rw [Nat.add_right_cancel_iff, Nat.log2_eq_iff hc.pos.ne']
    exact ⟨fun h => h.1, fun h => ⟨h, hc.lt⟩⟩
  unfold UnpackedFloat.pack
  dsimp only
  rw [hbias, if_neg (by change ¬ 2048 ≤ _; omega)]
  simp only [hnormal]
  split <;> rfl

/-- What has its digits and is not too large is packed without loss. -/
theorem unpack_pack {m : Nat} {e : Int} (s : Sign) (hc : Canonical m e) (he : e ≤ 971) :
    (Float.Model.pack (.finite s m e hc.pos)).unpack = .finite s m e hc.pos := by
  have hmin := hc.least
  change UnpackedFloat.unpack Format.binary64 (UnpackedFloat.pack Format.binary64 _) = _
  rw [pack_finite s hc he, unpack_packComponents]
  split
  -- A normal number: the digit in front of the point is not packed.
  · rename_i hfull
    have hexponent : (BitVec.ofNat 11 (e + 1075).toNat).toNat = (e + 1075).toNat := by
      rw [BitVec.toNat_ofNat]
      omega
    have hne (k : BitVec 11) (hk : k.toNat ≠ (e + 1075).toNat) :
        BitVec.ofNat 11 (e + 1075).toNat ≠ k := fun heq => hk (heq ▸ hexponent)
    have hmantissa : (1#1 ++ BitVec.ofNat 52 m).toNat = m := by
      have := hc.lt
      rw [toNat_implicit, BitVec.toNat_ofNat]
      omega
    rw [if_neg (hne _ (by change 2047 ≠ _; omega)), if_neg (hne _ (by change 0 ≠ _; omega))]
    congr 1
    omega
  -- A subnormal number is packed with all its digits.
  · rename_i hlt
    have hmantissa : (BitVec.ofNat 52 m).toNat = m := by
      rw [BitVec.toNat_ofNat]
      omega
    have hne : BitVec.ofNat 52 m ≠ 0#52 := by
      intro heq
      rw [heq] at hmantissa
      exact hc.pos.ne hmantissa
    obtain rfl : e = -1074 := hc.full.resolve_left hlt
    rw [if_neg (by decide), if_pos rfl, dif_neg hne]
    congr 1

/-! ### Whole numbers -/

/-- The first 53 digits of a whole number. -/
def wholeMantissa (n : Nat) : Nat := n * 2 ^ 52 / 2 ^ n.log2

theorem canonical_whole {n : Nat} (hn : 0 < n) :
    Canonical (wholeMantissa n) ((n.log2 : Int) - 52) := by
  have hle : 2 ^ n.log2 ≤ n := Nat.log2_self_le hn.ne'
  have hlt : n < 2 ^ n.log2 * 2 := by
    rw [← pow_succ]
    exact Nat.lt_log2_self
  have hpow : 0 < 2 ^ n.log2 := by positivity
  have hfull : 2 ^ 52 ≤ wholeMantissa n := by
    refine (Nat.le_div_iff_mul_le hpow).2 ?_
    rw [mul_comm]
    exact Nat.mul_le_mul_right _ hle
  refine ⟨lt_of_lt_of_le (by positivity) hfull, ?_, by omega, .inl hfull⟩
  refine (Nat.div_lt_iff_lt_mul hpow).2 ?_
  calc n * 2 ^ 52 < 2 ^ n.log2 * 2 * 2 ^ 52 := Nat.mul_lt_mul_of_pos_right hlt (by positivity)
    _ = 2 ^ 53 * 2 ^ n.log2 := by ring

/-- A whole number whose first 53 digits are all that it has. -/
theorem value_whole {n : Nat} (h : 2 ^ n.log2 ∣ n * 2 ^ 52) :
    value (wholeMantissa n) ((n.log2 : Int) - 52) = n := by
  have hcast : ((wholeMantissa n : Nat) : ℚ) = n * 2 ^ 52 / 2 ^ n.log2 := by
    rw [wholeMantissa, Nat.cast_div h (by positivity)]
    push_cast
    rfl
  rw [value, hcast, zpow_sub₀ (by norm_num), zpow_natCast]
  field_simp

theorem dvd_of_lt {n : Nat} (h : n < 2 ^ 53) : 2 ^ n.log2 ∣ n * 2 ^ 52 := by
  rcases Nat.eq_zero_or_pos n with rfl | hn
  · exact ⟨0, by simp⟩
  · have hlog : n.log2 < 53 := (Nat.log2_lt hn.ne').2 h
    exact (pow_dvd_pow 2 (by omega)).mul_left n

/-- A whole number of at most 53 digits is taken over as it is. -/
theorem unpack_toFloat {n : Nat} (hn : 0 < n) (h : n < 2 ^ 53) :
    n.toUInt64.toFloat.toModel.unpack =
      .finite .positive (wholeMantissa n) ((n.log2 : Int) - 52) (canonical_whole hn).pos := by
  have hlog : n.log2 < 53 := (Nat.log2_lt hn.ne').2 h
  have hnat : n.toUInt64.toNat = n := UInt64.toNat_ofNat_of_lt' (by change n < 2 ^ 64; omega)
  change (Float.Model.pack (UnpackedFloat.ofNat Format.binary64 n.toUInt64.toNat)).unpack = _
  obtain ⟨k, hk⟩ := Nat.exists_eq_add_of_le (show n.log2 ≤ 52 by omega)
  have hround : UnpackedFloat.ofNat Format.binary64 n =
      .finite .positive (wholeMantissa n) ((n.log2 : Int) - 52) (canonical_whole hn).pos := by
    have hcompare : compare (n : Int) 0 = .gt := Int.compare_eq_gt.2 (by omega)
    have htarget : Format.binary64.targetExponent (totalExponent n 0) = -(k : Int) := by
      rw [targetExponent_eq, totalExponent]
      omega
    have hfull : (n <<< k).log2 = 52 := by
      rw [Nat.shiftLeft_eq, hk, Nat.log2_eq_iff (by positivity), pow_add, ← Nat.add_right_comm,
        pow_add]
      exact ⟨Nat.mul_le_mul_right _ (Nat.log2_self_le hn.ne'),
        Nat.mul_lt_mul_of_pos_right Nat.lt_log2_self (by positivity)⟩
    simp only [UnpackedFloat.ofNat, UnpackedFloat.ofInt, UnpackedFloat.normalize, hcompare,
      UnpackedFloat.round, decreaseExponent, Int.toNat_natCast, htarget, zero_sub, neg_neg]
    refine roundWithAccuracy_eq (v := n) .positive (canonical_whole hn) ?_ ?_ ?_
    · change (n : ℚ) / 2 ^ (-(k : Int)) = (n <<< k : Nat)
      rw [zpow_neg, div_inv_eq_mul, zpow_natCast, Nat.shiftLeft_eq]
      push_cast
      rfl
    · rw [targetExponent_eq, totalExponent, hfull]
      omega
    · have hnearby := nearby_value (wholeMantissa n) ((n.log2 : Int) - 52)
      rwa [value_whole (dvd_of_lt h)] at hnearby
  rw [hnat, hround, unpack_pack _ (canonical_whole hn) (by omega)]

/-- The powers of ten that have all their digits are stored without loss. -/
theorem unpack_powerOfTen : ∀ p : Fin 23,
    (getElem Float.exactlyRepresentablePowersOfTen p.val p.isLt).toModel.unpack =
      .finite .positive (wholeMantissa (10 ^ p.val)) (((10 ^ p.val).log2 : Int) - 52)
        (canonical_whole (by positivity)).pos := by
  intro p
  fin_cases p <;> rfl

theorem dvd_powerOfTen : ∀ p : Fin 23, 2 ^ (10 ^ p.val).log2 ∣ 10 ^ p.val * 2 ^ 52 := by
  decide

/-! ### Decimal fractions -/

theorem Nearby.two_zpow_le {m : Nat} {e : Int} {v : ℚ} (hv : Nearby m e v) (hc : Canonical m e) :
    (2 : ℚ) ^ (-1075 : Int) ≤ v := by
  have hreach := reach_le m e
  have hm : (1 : ℚ) ≤ m := by exact_mod_cast hc.pos
  calc (2 : ℚ) ^ (-1075 : Int) = 1 / 2 * 2 ^ (-1074 : Int) := by
        rw [show (-1075 : Int) = -1 + -1074 by norm_num, zpow_add₀ (by norm_num), zpow_neg_one,
          one_div]
    _ ≤ 1 / 2 * 2 ^ e := by
        exact mul_le_mul_of_nonneg_left (Binary64.two_zpow_le.2 hc.least) (by norm_num)
    _ ≤ (m - reach m e) * 2 ^ e := by
        exact mul_le_mul_of_nonneg_right (by linarith) (by positivity)
    _ ≤ v := hv.below

theorem Nearby.lt_two_zpow {m : Nat} {e : Int} {v : ℚ} (hv : Nearby m e v) (hc : Canonical m e)
    (he : e ≤ 971) : v < (2 : ℚ) ^ (1024 : Int) := by
  have hm : (m : ℚ) + 1 ≤ 2 ^ 53 := by exact_mod_cast hc.lt
  calc v ≤ (m + 1 / 2) * 2 ^ e := hv.above
    _ < 2 ^ 53 * 2 ^ e := mul_lt_mul_of_pos_right (by linarith) (by positivity)
    _ ≤ 2 ^ 53 * 2 ^ (971 : Int) := by
        exact mul_le_mul_of_nonneg_left (Binary64.two_zpow_le.2 he) (by norm_num)
    _ = (2 : ℚ) ^ (1024 : Int) := by
        rw [← zpow_natCast, ← zpow_add₀ (by norm_num)]
        rfl

/-- A number with few digits and a short fraction is divided by a power of ten that is stored. -/
theorem ofScientific_eq_div {n p : Nat} (h : n < 2 ^ 53) (hp : p < 23) :
    Float.ofScientific n true p =
      n.toUInt64.toFloat / getElem Float.exactlyRepresentablePowersOfTen p hp := by
  unfold Float.ofScientific
  rw [dif_pos ⟨h, Nat.le_of_lt_succ hp⟩]
  rfl

/-- Other numbers are divided by a power of ten at once. -/
theorem model_ofScientific_eq_div {n p : Nat} (hn : 0 < n) (hp : 0 < p)
    (hle : p ≤ 2048 + n.log2) :
    UnpackedFloat.ofScientific Format.binary64 n (Int.negOfNat p) =
      UnpackedFloat.div Format.binary64 (.finite .positive n 0 hn)
        (.finite .positive (10 ^ p) 0 (Nat.pow_pos (by decide))) := by
  have hneg : Int.negOfNat p = -(p : Int) := Int.negOfNat_eq
  unfold UnpackedFloat.ofScientific
  rw [dif_neg hn.ne', hneg, if_neg (by norm_num), if_neg (by norm_num; omega),
    if_neg (by omega)]
  simp only [neg_neg, Int.toNat_natCast]

/-- **A decimal fraction is read as the number in whose reach it lies.** -/
theorem ofScientific_eq {m n p : Nat} {e : Int} (hn : 0 < n) (hp : 0 < p) (hc : Canonical m e)
    (hv : Nearby m e (n / 10 ^ p)) :
    Float.ofScientific n true p = .ofModel (.pack (.finite .positive m e hc.pos)) := by
  by_cases hfast : n < 2 ^ 53 ∧ p < 23
  -- A short decimal is read by one exact division, every other one with a wider quotient.
  · rw [ofScientific_eq_div hfast.1 hfast.2]
    change Float.ofModel (.pack (UnpackedFloat.div Format.binary64 _ _)) = _
    have hpower := unpack_powerOfTen ⟨p, hfast.2⟩
    dsimp only at hpower
    rw [unpack_toFloat hn hfast.1, hpower, div_eq _ _ hc]
    rw [value_whole (dvd_of_lt hfast.1), value_whole (dvd_powerOfTen ⟨p, hfast.2⟩)]
    exact_mod_cast hv
  · have hslow : ¬ (n < 2 ^ 53 ∧ p ≤ 22) := fun h => hfast ⟨h.1, by omega⟩
    have hle : p ≤ 2048 + n.log2 := by
      have hlog : (n : ℚ) < 2 ^ (n.log2 + 1) := by exact_mod_cast Nat.lt_log2_self
      have hsmall := hv.two_zpow_le hc
      rw [le_div_iff₀ (by positivity)] at hsmall
      have hten : (2 : ℚ) ^ p ≤ 10 ^ p := pow_le_pow_left₀ (by norm_num) (by norm_num) p
      have hlt : (2 : ℚ) ^ ((p : Int) - 1075) < 2 ^ ((n.log2 : Int) + 1) := by
        calc (2 : ℚ) ^ ((p : Int) - 1075) = 2 ^ (-1075 : Int) * 2 ^ p := by
              rw [← zpow_natCast, ← zpow_add₀ (by norm_num), neg_add_eq_sub]
          _ ≤ 2 ^ (-1075 : Int) * 10 ^ p := mul_le_mul_of_nonneg_left hten (by positivity)
          _ ≤ n := hsmall
          _ < 2 ^ (n.log2 + 1) := hlog
          _ = 2 ^ ((n.log2 : Int) + 1) := by rw [← zpow_natCast]; rfl
      have := two_zpow_lt.1 hlt
      omega
    unfold Float.ofScientific
    rw [dif_neg hslow]
    change Float.ofModel (.pack (UnpackedFloat.ofScientific Format.binary64 n
      (Int.negOfNat p))) = _
    rw [model_ofScientific_eq_div hn hp hle, div_eq _ _ hc]
    simp only [value, zpow_zero, mul_one]
    exact_mod_cast hv

end Sluice.Binary64
