import Mathlib

/-!
# Rounding does not pass a whole number

A floating point number is a natural number times a power of two, and what comes out of an operation
is rounded to the nearest such number with few enough digits. Whole numbers below `2 ^ 53` are among
them, so a result that is at most such a number is still at most that number after rounding.

* `Binary64.Within` : a number from zero to a bound, or no number;
* `Binary64.within_round` : rounding keeps it so;
* `Binary64.within_pack` : so does packing into 64 bits;
* `Binary64.truncated_le` : a share of at most all of a whole number is, after all roundings, at
  most the number.
-/

namespace Sluice.Binary64

open Float.Model Float.Model.UnpackedFloat

/-! ### Bounds -/

/-- The value of a positive number. -/
def value (m : Nat) (e : Int) : ℚ := m * 2 ^ e

/-- A number from zero to `n`, or no number. -/
def Within (n : Nat) : UnpackedFloat → Prop
  | .notANumber => True
  | .infinity _ => False
  | .zero _ => True
  | .finite .negative .. => False
  | .finite .positive m e _ => value m e ≤ n

/-- A number below zero. -/
def IsNegative : UnpackedFloat → Prop
  | .notANumber => False
  | .infinity s => s = .negative
  | .zero _ => False
  | .finite s .. => s = .negative

/-- A number of at most `n`, or no number. -/
def AtMost (n : Nat) (x : UnpackedFloat) : Prop := IsNegative x ∨ Within n x

theorem value_mul (m m' : Nat) (e e' : Int) :
    value (m * m') (e + e') = value m e * value m' e' := by
  unfold value
  rw [zpow_add₀ (by norm_num)]
  push_cast
  ring

theorem value_nonneg (m : Nat) (e : Int) : 0 ≤ value m e := by
  unfold value
  positivity

theorem le_value {m : Nat} {e : Int} (hm : 0 < m) : (2 : ℚ) ^ e ≤ value m e := by
  unfold value
  have : (1 : ℚ) ≤ m := by exact_mod_cast hm
  exact le_mul_of_one_le_left (by positivity) this

theorem value_div_le (m k : Nat) (e : Int) : value (m / 2 ^ k) (e + k) ≤ value m e := by
  have hdiv : ((m / 2 ^ k * 2 ^ k : Nat) : ℚ) ≤ m := by exact_mod_cast Nat.div_mul_le_self m _
  push_cast at hdiv
  unfold value
  rw [zpow_add₀ (by norm_num), zpow_natCast, mul_comm ((2 : ℚ) ^ e), ← mul_assoc]
  exact mul_le_mul_of_nonneg_right hdiv (by positivity)

theorem value_shiftLeft (m k : Nat) (e : Int) : value (m <<< k) (e - k) = value m e := by
  unfold value
  rw [Nat.shiftLeft_eq, zpow_sub₀ (by norm_num), zpow_natCast]
  push_cast
  field_simp

theorem value_mul_two_pow (n j : Nat) : value (n * 2 ^ j) (-(j : Int)) = n := by
  unfold value
  rw [zpow_neg, zpow_natCast]
  push_cast
  field_simp

/-! ### Rounding -/

theorem mantissa_shiftRight (em : ExtendedMantissa) (k : Nat) :
    (em >>> k).mantissa = em.mantissa / 2 ^ k := by
  induction k with
  | zero => exact (Nat.div_one _).symm
  | succ k ih =>
    change (em >>> k).mantissa / 2 = _
    rw [ih, Nat.div_div_eq_div_mul, pow_succ]

/-- Digits that are dropped are remembered only if they were not all zero. -/
theorem mod_ne_zero_of_shiftRight {m k : Nat}
    (h : ((ExtendedMantissa.mk m false false) >>> k).roundBit = true ∨
      ((ExtendedMantissa.mk m false false) >>> k).stickyBit = true) : m % 2 ^ k ≠ 0 := by
  induction k with
  | zero =>
    change false = true ∨ false = true at h
    simp at h
  | succ k ih =>
    intro hmod
    have hdvd : 2 ^ (k + 1) ∣ m := Nat.dvd_of_mod_eq_zero hmod
    have hdvd' : 2 ^ k ∣ m := (pow_dvd_pow 2 (Nat.le_succ k)).trans hdvd
    rcases h with h | h
    · change ((((ExtendedMantissa.mk m false false) >>> k).mantissa % 2 != 0) = true) at h
      rw [mantissa_shiftRight] at h
      have heven : m / 2 ^ k % 2 = 0 := by
        obtain ⟨q, rfl⟩ := hdvd
        rw [pow_succ, mul_assoc, Nat.mul_div_cancel_left _ (by positivity)]
        exact Nat.mul_mod_right 2 q
      simp [heven] at h
    · change ((((ExtendedMantissa.mk m false false) >>> k).roundBit ||
        ((ExtendedMantissa.mk m false false) >>> k).stickyBit) = true) at h
      exact ih (Bool.or_eq_true_iff.1 h) (Nat.mod_eq_zero_of_dvd hdvd')

/-- **A rounded mantissa does not pass a whole number** that the mantissa did not pass. -/
theorem roundedMantissa_le {m k n : Nat} (h : m ≤ n * 2 ^ k) :
    ((ExtendedMantissa.mk m false false) >>> k).roundedMantissa ≤ n := by
  have hfloor := mantissa_shiftRight (ExtendedMantissa.mk m false false) k
  have hbits := @mod_ne_zero_of_shiftRight m k
  have hdiv : m / 2 ^ k ≤ n := Nat.div_le_of_le_mul (by rwa [mul_comm])
  generalize (ExtendedMantissa.mk m false false) >>> k = em at hfloor hbits ⊢
  obtain ⟨mantissa, round, sticky⟩ := em
  obtain rfl : mantissa = m / 2 ^ k := hfloor
  -- The next whole number is taken only if something was left over.
  have hup (hmod : m % 2 ^ k ≠ 0) : m / 2 ^ k + 1 ≤ n := by
    by_contra hlt
    have heq : n = m / 2 ^ k := by omega
    have := Nat.div_add_mod m (2 ^ k)
    rw [heq, mul_comm] at h
    omega
  cases round <;> cases sticky
  · exact hdiv
  · exact hdiv
  · have := hup (hbits (Or.inl rfl))
    change m / 2 ^ k + m / 2 ^ k % 2 ≤ n
    omega
  · exact hup (hbits (Or.inl rfl))

theorem targetExponent_le {m n : Nat} {e : Int} (hm : 0 < m) (hn : n < 2 ^ 53)
    (h : value m e ≤ n) : Format.binary64.targetExponent (totalExponent m e) ≤ 0 := by
  have hlog : (m.log2 : Int) + e < 53 := by
    have hpow : (2 : ℚ) ^ ((m.log2 : Int) + e) < 2 ^ (53 : Int) := by
      calc (2 : ℚ) ^ ((m.log2 : Int) + e) = ((2 ^ m.log2 : Nat) : ℚ) * 2 ^ e := by
            rw [zpow_add₀ (by norm_num), zpow_natCast]
            push_cast
            rfl
        _ ≤ value m e := by
            refine mul_le_mul_of_nonneg_right ?_ (by positivity)
            exact_mod_cast Nat.log2_self_le (Nat.pos_iff_ne_zero.1 hm)
        _ ≤ n := h
        _ < 2 ^ (53 : Int) := by exact_mod_cast hn
    exact (zpow_lt_zpow_iff_right₀ (by norm_num)).1 hpow
  simp only [Format.targetExponent, totalExponent, Format.mantissaBits, Format.minExponent]
  norm_num
  omega

/-- The first shift of a rounding drops digits and rounds. -/
theorem value_shiftToTargetExponent_le {m n : Nat} {e : Int} (hm : 0 < m) (hn : n < 2 ^ 53)
    (h : value m e ≤ n) :
    value (shiftToTargetExponent Format.binary64 m e .exact).1.roundedMantissa
      (shiftToTargetExponent Format.binary64 m e .exact).2 ≤ n := by
  have ht := targetExponent_le hm hn h
  unfold shiftToTargetExponent shiftToExponent
  dsimp only
  generalize hk : (Format.binary64.targetExponent (totalExponent m e) - e).toNat = k
  change value ((ExtendedMantissa.mk m false false) >>> k).roundedMantissa (e + k) ≤ n
  rcases Nat.eq_zero_or_pos k with rfl | hpos
  · have hle : ((ExtendedMantissa.mk m false false) >>> 0).roundedMantissa ≤ m :=
      roundedMantissa_le (by simp)
    refine le_trans ?_ h
    rw [Nat.cast_zero, add_zero]
    exact mul_le_mul_of_nonneg_right (by exact_mod_cast hle) (by positivity)
  · have hek : e + k ≤ 0 := by omega
    obtain ⟨j, hj⟩ := Int.eq_ofNat_of_zero_le (Int.neg_nonneg.2 hek)
    -- On the grid of the result the bound is a whole number.
    have hgrid : value (n * 2 ^ j) (e + k) = n := by
      rw [show e + k = -(j : Int) by omega, value_mul_two_pow]
    have hle : m ≤ n * 2 ^ j * 2 ^ k := by
      have hvalue : value m e ≤ value (n * 2 ^ j) (e + k) := by rwa [hgrid]
      unfold value at hvalue
      rw [zpow_add₀ (by norm_num), zpow_natCast, mul_comm ((2 : ℚ) ^ e), ← mul_assoc] at hvalue
      have := le_of_mul_le_mul_right hvalue (by positivity)
      exact_mod_cast this
    rw [← hgrid]
    exact mul_le_mul_of_nonneg_right (by exact_mod_cast roundedMantissa_le hle) (by positivity)

/-- **Rounding does not pass a whole number.** -/
theorem within_roundWithAccuracy {m n : Nat} {e : Int} (hm : 0 < m) (hn : n < 2 ^ 53)
    (h : value m e ≤ n) :
    Within n (roundWithAccuracy Format.binary64 .positive m e .exact) := by
  have hrounded := value_shiftToTargetExponent_le hm hn h
  unfold roundWithAccuracy
  dsimp only
  generalize shiftToTargetExponent Format.binary64 m e .exact = first at hrounded ⊢
  -- The second shift only drops digits.
  generalize first.1.roundedMantissa = r at hrounded ⊢
  generalize first.2 = e' at hrounded ⊢
  unfold shiftToTargetExponent shiftToExponent
  dsimp only
  split_ifs with hzero
  · trivial
  · refine le_trans ?_ hrounded
    rw [mantissa_shiftRight]
    exact value_div_le _ _ _

theorem isNegative_roundWithAccuracy (m : Nat) (e : Int) (n : Nat) :
    AtMost n (roundWithAccuracy Format.binary64 .negative m e .exact) := by
  unfold roundWithAccuracy
  dsimp only
  split_ifs
  · exact Or.inr trivial
  · exact Or.inl rfl

/-! ### Packing -/

theorem unpackSign_packComponents {f : Format} (s : Sign) (e : BitVec f.exponentBits)
    (m : BitVec f.mantissaBitsWithoutImplicit) :
    unpackSign (packComponents f s e m) = s.toBitVec := by
  apply BitVec.eq_of_getLsbD_eq
  intro i hi
  obtain rfl : i = 0 := by omega
  simp [unpackSign, packComponents, BitVec.getLsbD_append, BitVec.getElem_append]

/-- The digit in front of the point, which is not packed. -/
theorem toNat_implicit (m : BitVec 52) : (1#1 ++ m).toNat = 2 ^ 52 + m.toNat := by
  rw [BitVec.toNat_append, ← Nat.shiftLeft_add_eq_or_of_lt m.isLt]
  rfl

theorem unpack_packComponents (s : Sign) (e : BitVec 11) (m : BitVec 52) :
    UnpackedFloat.unpack Format.binary64 (packComponents Format.binary64 s e m) =
      if e = -1#11 then if m = 0#52 then .infinity s else .notANumber
      else if e = 0#11 then
        if h : m = 0#52 then .zero s
        else .finite s m.toNat (-1074) (by simpa [BitVec.toNat_pos, BitVec.pos_iff_ne_zero])
      else .finite s (1#1 ++ m).toNat ((e.toNat : Int) - 1075)
        (by rw [toNat_implicit]; positivity) := by
  have hs : Sign.ofBitVec s.toBitVec = s := by cases s <;> rfl
  unfold UnpackedFloat.unpack
  simp only [unpackMantissa_packComponents, unpackExponent_packComponents,
    unpackSign_packComponents, hs]
  split_ifs with he hm he' hm'
  · rfl
  · rfl
  · rfl
  · subst he'
    rfl
  · rfl

theorem within_subnormal {n : Nat} (h1 : 1 ≤ n) (m : BitVec 52) :
    Within n (UnpackedFloat.unpack Format.binary64
      (packComponents Format.binary64 .positive 0#11 m)) := by
  rw [unpack_packComponents, if_neg (by decide), if_pos rfl]
  split_ifs with hm
  · trivial
  · change value m.toNat (-1074) ≤ n
    unfold value
    have hlt : (m.toNat : ℚ) ≤ 2 ^ 52 := by exact_mod_cast m.isLt.le
    have hone : (1 : ℚ) ≤ n := by exact_mod_cast h1
    calc (m.toNat : ℚ) * 2 ^ (-1074 : Int) ≤ 2 ^ 52 * 2 ^ (-1074 : Int) :=
          mul_le_mul_of_nonneg_right hlt (by positivity)
      _ = 2 ^ (-1022 : Int) := by
          rw [← zpow_natCast, ← zpow_add₀ (by norm_num)]
          norm_num
      _ ≤ 1 := zpow_le_one_of_nonpos₀ (by norm_num) (by norm_num)
      _ ≤ n := hone

/-- A normal number is packed as it is, unless it is less than one. -/
theorem within_normal {m n : Nat} {e : Int} (h1 : 1 ≤ n) (hm : m.log2 = 52) (he : e < 53)
    (h : value m e ≤ n) : Within n (UnpackedFloat.unpack Format.binary64
      (packComponents Format.binary64 .positive (BitVec.ofNat 11 (e + 1075).toNat)
        (BitVec.ofNat 52 m))) := by
  have hlog := (Nat.log2_eq_iff (by rintro rfl; simp at hm)).1 hm
  have hmantissa : (1#1 ++ BitVec.ofNat 52 m).toNat = m := by
    rw [toNat_implicit, BitVec.toNat_ofNat]
    omega
  have hexponent : (BitVec.ofNat 11 (e + 1075).toNat).toNat = (e + 1075).toNat := by
    rw [BitVec.toNat_ofNat]
    omega
  by_cases hzero : BitVec.ofNat 11 (e + 1075).toNat = 0#11
  · rw [hzero]
    exact within_subnormal h1 _
  have hfull : BitVec.ofNat 11 (e + 1075).toNat ≠ -1#11 := by
    intro heq
    rw [heq] at hexponent
    change 2047 = _ at hexponent
    omega
  have hpos : (e + 1075).toNat ≠ 0 := by
    intro heq
    rw [heq] at hzero
    exact hzero rfl
  rw [unpack_packComponents, if_neg hfull, if_neg hzero]
  change value _ _ ≤ n
  rw [hmantissa, hexponent, show (((e + 1075).toNat : Int) - 1075) = e by omega]
  exact h

/-- **Packing keeps a number within its bound.** -/
theorem within_pack {n : Nat} {x : UnpackedFloat} (h1 : 1 ≤ n) (hn : n < 2 ^ 53)
    (h : Within n x) : Within n (Float.Model.pack x).unpack := by
  change Within n (UnpackedFloat.unpack Format.binary64 (UnpackedFloat.pack Format.binary64 x))
  cases x with
  | notANumber =>
    change Within n (UnpackedFloat.unpack _ (packComponents Format.binary64 .positive _ _))
    rw [unpack_packComponents, if_pos rfl, if_neg (by decide)]
    trivial
  | infinity s => exact h.elim
  | zero s =>
    change Within n (UnpackedFloat.unpack _ (packComponents Format.binary64 s 0#11 0#52))
    rw [unpack_packComponents, if_neg (by decide), if_pos rfl, dif_pos rfl]
    trivial
  | finite s m e hm =>
    cases s with
    | negative => exact h.elim
    | positive =>
      change value m e ≤ n at h
      -- So the exponent fits, and nothing is packed as infinity.
      have he : e < 53 := by
        have hpow : (2 : ℚ) ^ e < 2 ^ (53 : Int) :=
          lt_of_le_of_lt ((le_value hm).trans h) (by exact_mod_cast hn)
        exact (zpow_lt_zpow_iff_right₀ (by norm_num)).1 hpow
      have hbias : (e + (Format.binary64.exponentBias : Int) +
          (Format.binary64.mantissaBitsWithoutImplicit : Int)).toNat = (e + 1075).toNat := by
        change (e + 1023 + 52).toNat = _
        congr 1
        omega
      unfold UnpackedFloat.pack
      dsimp only
      rw [hbias, if_neg (by change ¬ 2048 ≤ _; omega)]
      split_ifs with hnormal
      · exact within_normal h1 (by change m.log2 + 1 = 53 at hnormal; omega) he h
      · exact within_subnormal h1 _

theorem isNegative_pack {n : Nat} {x : UnpackedFloat} (h : IsNegative x) :
    AtMost n (Float.Model.pack x).unpack := by
  have hcomponents (e : BitVec 11) (m : BitVec 52) (hem : e = -1#11 → m = 0#52) :
      AtMost n (UnpackedFloat.unpack Format.binary64
        (packComponents Format.binary64 .negative e m)) := by
    rw [unpack_packComponents]
    split_ifs with he hm
    · exact Or.inl rfl
    · exact absurd (hem he) hm
    · exact Or.inr trivial
    · exact Or.inl rfl
    · exact Or.inl rfl
  change AtMost n (UnpackedFloat.unpack Format.binary64 (UnpackedFloat.pack Format.binary64 x))
  cases x with
  | notANumber => exact h.elim
  | infinity s =>
    obtain rfl : s = .negative := h
    exact hcomponents _ _ fun _ => rfl
  | zero s => exact h.elim
  | finite s m e hm =>
    obtain rfl : s = .negative := h
    unfold UnpackedFloat.pack
    dsimp only
    split_ifs with hover hnormal
    · exact hcomponents _ _ fun _ => rfl
    · refine hcomponents _ _ fun hfull => absurd (congrArg BitVec.toNat hfull) ?_
      rw [BitVec.toNat_ofNat]
      change ¬ 2048 ≤ _ at hover
      change _ % 2048 ≠ 2047
      omega
    · exact hcomponents _ _ fun hfull => absurd hfull (by decide)

theorem atMost_pack {n : Nat} {x : UnpackedFloat} (h1 : 1 ≤ n) (hn : n < 2 ^ 53)
    (h : AtMost n x) : AtMost n (Float.Model.pack x).unpack := by
  rcases h with h | h
  · exact isNegative_pack h
  · exact Or.inr (within_pack h1 hn h)

/-! ### Operations -/

theorem within_round {m n : Nat} {e : Int} (hm : 0 < m) (hn : n < 2 ^ 53) (h : value m e ≤ n) :
    Within n (UnpackedFloat.round Format.binary64 .positive m e) := by
  unfold UnpackedFloat.round decreaseExponent
  dsimp only
  refine within_roundWithAccuracy ?_ hn ?_
  · rw [Nat.shiftLeft_eq]
    positivity
  · rwa [value_shiftLeft]

theorem atMost_normalize {n : Nat} {m e : Int} {s : Sign} (hn : n < 2 ^ 53)
    (h : value m.toNat e ≤ n) : AtMost n (UnpackedFloat.normalize Format.binary64 m e s) := by
  unfold UnpackedFloat.normalize
  split
  · unfold UnpackedFloat.round
    exact isNegative_roundWithAccuracy _ _ _
  · exact Or.inr trivial
  · rename_i hm
    have hpos : 0 < m := Int.compare_eq_gt.1 hm
    exact Or.inr (within_round (by omega) hn h)

theorem within_ofNat {n : Nat} (hn : n < 2 ^ 53) :
    Within n (UnpackedFloat.ofNat Format.binary64 n) := by
  unfold UnpackedFloat.ofNat UnpackedFloat.ofInt UnpackedFloat.normalize
  split
  · rename_i hm
    have := Int.compare_eq_lt.1 hm
    omega
  · trivial
  · rename_i hm
    have := Int.compare_eq_gt.1 hm
    refine within_round (by omega) hn ?_
    simp [value]

/-- A number times a share of at most all is within the number. -/
theorem within_mul {n : Nat} {x y : UnpackedFloat} (hn : n < 2 ^ 53) (hx : Within n x)
    (hy : Within 1 y) : Within n (UnpackedFloat.mul Format.binary64 x y) := by
  cases x with
  | notANumber => trivial
  | infinity s => exact hx.elim
  | zero s =>
    cases y with
    | infinity s' => exact hy.elim
    | notANumber => trivial
    | zero s' => trivial
    | finite s' m' e' hm' => trivial
  | finite s m e hm =>
    cases s with
    | negative => exact hx.elim
    | positive =>
      cases y with
      | notANumber => trivial
      | infinity s' => exact hy.elim
      | zero s' => trivial
      | finite s' m' e' hm' =>
        cases s' with
        | negative => exact hy.elim
        | positive =>
          -- The one case in which there is anything to round.
          change value m e ≤ n at hx
          change value m' e' ≤ (1 : Nat) at hy
          refine within_roundWithAccuracy (Nat.mul_pos hm hm') hn ?_
          rw [value_mul]
          refine le_trans (mul_le_of_le_one_right (value_nonneg m e) ?_) hx
          rwa [Nat.cast_one] at hy

theorem atMost_mul {n : Nat} {x y : UnpackedFloat} (hn : n < 2 ^ 53) (hx : Within n x)
    (hy : AtMost 1 y) : AtMost n (UnpackedFloat.mul Format.binary64 x y) := by
  rcases hy with hy | hy
  · cases y with
    | notANumber => exact hy.elim
    | zero s' => exact hy.elim
    | infinity s' =>
      obtain rfl : s' = .negative := hy
      cases x with
      | notANumber => exact Or.inr trivial
      | infinity s => exact hx.elim
      | zero s => exact Or.inr trivial
      | finite s m e hm =>
        cases s with
        | negative => exact hx.elim
        | positive => exact Or.inl rfl
    | finite s' m' e' hm' =>
      obtain rfl : s' = .negative := hy
      cases x with
      | notANumber => exact Or.inr trivial
      | infinity s => exact hx.elim
      | zero s => exact Or.inr trivial
      | finite s m e hm =>
        cases s with
        | negative => exact hx.elim
        | positive => exact isNegative_roundWithAccuracy _ _ _
  · exact Or.inr (within_mul hn hx hy)

theorem atMost_sub {m : Nat} {e : Int} {hm : 0 < m} {y : UnpackedFloat} (hone : value m e = 1)
    (hy : ¬ IsNegative y) :
    AtMost 1 (UnpackedFloat.sub Format.binary64 (.finite .positive m e hm) y) := by
  cases y with
  | notANumber => exact Or.inr trivial
  | infinity s =>
    cases s with
    | negative => exact absurd rfl hy
    | positive => exact Or.inl rfl
  | zero s =>
    refine Or.inr ?_
    change value m e ≤ (1 : Nat)
    rw [hone]
    norm_num
  | finite s m' e' hm' =>
    cases s with
    | negative => exact absurd rfl hy
    | positive =>
      -- Both are brought to the smaller exponent before they are subtracted.
      refine atMost_normalize (by norm_num) ?_
      have hle : (((m <<< (e - min e e').toNat : Nat) : Int) -
          ((m' <<< (e' - min e e').toNat : Nat) : Int)).toNat ≤ m <<< (e - min e e').toNat :=
        Int.toNat_le.2 (Int.sub_le_self _ (Int.natCast_nonneg _))
      have hvalue : value (m <<< (e - min e e').toNat) (min e e') = 1 := by
        rw [← hone, ← value_shiftLeft m (e - min e e').toNat e]
        congr 1
        omega
      rw [Nat.cast_one, ← hvalue]
      exact mul_le_mul_of_nonneg_right (Nat.cast_le.2 hle) (by positivity)

theorem toNat_ofNatClamp_le (n : Nat) : (UInt64.ofNatClamp n).toNat ≤ n := by
  unfold UInt64.ofNatClamp
  split
  · simp
  · rename_i h
    exact Nat.le_trans (by decide) (Nat.not_lt.1 h)

theorem toNat_toUInt64_le {n : Nat} {x : UnpackedFloat} (h : AtMost n x) :
    x.toUInt64.toNat ≤ n := by
  refine (toNat_ofNatClamp_le _).trans ?_
  cases x with
  | notANumber => exact Nat.zero_le n
  | infinity s =>
    obtain rfl : s = .negative := h.resolve_right id
    exact Nat.zero_le n
  | zero s => exact Nat.zero_le n
  | finite s m e hm =>
    cases s with
    | negative =>
      refine Int.toNat_le.2 (le_trans (Int.neg_nonpos_of_nonneg ?_) (Int.natCast_nonneg n))
      exact Int.natCast_nonneg _
    | positive =>
      have hvalue : value m e ≤ n := h.resolve_left (by rintro ⟨⟩)
      change (((ExtendedMantissa.mk (m <<< (e - 0).toNat) false false) >>>
        (0 - (e - (e - 0).toNat)).toNat).mantissa : Int).toNat ≤ n
      rw [Int.toNat_natCast, mantissa_shiftRight]
      have hfloor := value_div_le (m <<< (e - 0).toNat) (0 - (e - (e - 0).toNat)).toNat
        (e - (e - 0).toNat)
      have hzero : e - ((e - 0).toNat : Int) + ((0 - (e - (e - 0).toNat)).toNat : Int) = 0 := by
        omega
      rw [value_shiftLeft, hzero] at hfloor
      have := hfloor.trans hvalue
      unfold value at this
      rw [zpow_zero, mul_one] at this
      exact_mod_cast this

/-! ### Shares of whole numbers -/

theorem unpack_one : (1.0 : Float).toModel.unpack =
    .finite .positive 4503599627370496 (-52) (by decide) := rfl

theorem value_one : value 4503599627370496 (-52) = 1 := by
  unfold value
  norm_num

theorem within_float {n : Nat} (h1 : 1 ≤ n) (hn : n < 2 ^ 53) :
    Within n (Float.ofNat n).toModel.unpack := by
  have hfloat : Float.ofNat n = n.toUInt64.toFloat * 1.0 := by
    change Float.ofScientific n false 0 = _
    unfold Float.ofScientific
    rw [dif_pos ⟨hn, by decide⟩]
    rfl
  have hnat : n.toUInt64.toNat = n := UInt64.toNat_ofNat_of_lt' (by change n < 2 ^ 64; omega)
  rw [hfloat]
  refine within_pack h1 hn (within_mul hn (within_pack h1 hn ?_) ?_)
  · unfold UnpackedFloat.ofUInt64
    rw [hnat]
    exact within_ofNat hn
  · rw [unpack_one]
    change value _ _ ≤ ((1 : Nat) : ℚ)
    rw [value_one, Nat.cast_one]

/-- **A share of a whole number is at most the number**, after all roundings, if the number is below
`2 ^ 53`. -/
theorem truncated_le {n : Nat} (h1 : 1 ≤ n) (hn : n < 2 ^ 53) {x : Float}
    (hx : ¬ IsNegative x.toModel.unpack) :
    (Float.ofNat n * (1.0 - x)).toUInt64.toNat ≤ n := by
  refine toNat_toUInt64_le (atMost_pack h1 hn (atMost_mul hn (within_float h1 hn) ?_))
  refine atMost_pack (le_refl 1) (by norm_num) ?_
  rw [unpack_one]
  exact atMost_sub value_one hx

end Sluice.Binary64
