import Mathlib
import Sluice.Number.Binary64
import Sluice.Proofs.Number.Nearest
import Sluice.Proofs.Text.Digits

/-!
# The shortest decimal is read as the number it was written for

Seventeen digits are enough to tell any two numbers apart, so among the decimals with at most
seventeen digits there is one that is rounded to a given number.

* `Binary64.eq_of_parts` : a finite number is packed from its parts; `Binary64.finite_of_mem_unit` :
  a number between zero and one is finite;
* `Binary64.readsBack_iff` : what reads back lies where everything is rounded to the number;
* `Binary64.nearby_shortest` : so does the shortest decimal;
* `Binary64.ofDecimal_eq` : what lies there is read as the number.
-/

namespace Sluice.Binary64

open Float.Model Float.Model.UnpackedFloat

/-! ### Parts -/

/-- The sign of a number that is negative or not. -/
def signOf (negative : Bool) : Sign := if negative then .negative else .positive

theorem toNat_packComponents (s : Sign) (e : BitVec 11) (m : BitVec 52) :
    (packComponents Format.binary64 s e m).toNat =
      s.toBitVec.toNat * 2 ^ 63 + e.toNat * 2 ^ 52 + m.toNat := by
  change ((s.toBitVec ++ e) ++ m).toNat = _
  rw [BitVec.toNat_append, BitVec.toNat_append, ← Nat.shiftLeft_add_eq_or_of_lt e.isLt,
    ← Nat.shiftLeft_add_eq_or_of_lt m.isLt, Nat.shiftLeft_eq, Nat.shiftLeft_eq]
  ring

theorem eq_ofModel_pack {x : Float} {y : UnpackedFloat}
    (h : x.toBits.toNat = (UnpackedFloat.pack Format.binary64 y).toNat) :
    x = .ofModel (.pack y) := by
  obtain ⟨⟨bits, valid⟩⟩ := x
  have hbits : bits = UInt64.ofBitVec (UnpackedFloat.pack Format.binary64 y) :=
    UInt64.toNat_inj.1 h
  subst hbits
  rfl

theorem toNat_signOf (negative : Bool) :
    (signOf negative).toBitVec.toNat = if negative then 1 else 0 := by
  cases negative <;> rfl

theorem bits_of_parts {x : Float} {negative : Bool} {m : Nat} {e : Int}
    (h : parts x = .finite negative m e) :
    ∃ field : Nat, field < 2047 ∧
      x.toBits.toNat = (if negative then 1 else 0) * 2 ^ 63 + field * 2 ^ 52 + m % 2 ^ 52 ∧
      (field = 0 ∧ m < 2 ^ 52 ∧ e = -1074 ∨
        0 < field ∧ 2 ^ 52 ≤ m ∧ m < 2 ^ 53 ∧ e = (field : Int) - 1075) := by
  have hlt : x.toBits.toNat < 2 ^ 64 := x.toBits.toNat_lt
  unfold parts at h
  dsimp only at h
  generalize x.toBits.toNat = bits at h hlt
  have hsign (hneg : (bits / 9223372036854775808 == 1) = negative) :
      (if negative then 1 else 0) = bits / 9223372036854775808 := by
    subst hneg
    have : bits / 9223372036854775808 < 2 := by omega
    split
    · simp_all
    · simp_all
      omega
  split_ifs at h with hfull hinf hzero
  · obtain ⟨hneg, rfl, rfl⟩ := Parts.finite.inj h
    refine ⟨0, by norm_num, ?_, .inl ⟨rfl, by omega, rfl⟩⟩
    rw [hsign hneg]
    omega
  · obtain ⟨hneg, rfl, rfl⟩ := Parts.finite.inj h
    refine ⟨bits / 4503599627370496 % 2048, by omega, ?_, .inr ⟨by omega, by omega, by omega, rfl⟩⟩
    rw [hsign hneg]
    omega

/-- **A finite number is packed from its parts.** -/
theorem eq_of_parts {x : Float} {negative : Bool} {m : Nat} {e : Int}
    (h : parts x = .finite negative m e) (hm : 0 < m) :
    ∃ hc : Canonical m e, e ≤ 971 ∧
      x = .ofModel (.pack (.finite (signOf negative) m e hc.pos)) := by
  obtain ⟨field, hfield, hbits, hkind⟩ := bits_of_parts h
  have hc : Canonical m e := ⟨hm, by omega, by omega, by omega⟩
  have he : e ≤ 971 := by omega
  refine ⟨hc, he, eq_ofModel_pack ?_⟩
  have hfield' : (BitVec.ofNat 11 (if 2 ^ 52 ≤ m then (e + 1075).toNat else 0)).toNat = field := by
    rw [BitVec.toNat_ofNat]
    split <;> omega
  rw [hbits, pack_finite _ hc he, toNat_packComponents, toNat_signOf, hfield', BitVec.toNat_ofNat]

theorem eq_zero_of_parts {x : Float} {negative : Bool} {e : Int}
    (h : parts x = .finite negative 0 e) : x = if negative then -0.0 else 0.0 := by
  obtain ⟨field, hfield, hbits, hkind⟩ := bits_of_parts h
  obtain ⟨rfl, -, -⟩ := hkind.resolve_right (by omega)
  have hx : x = .ofModel (.pack (.zero (signOf negative))) := by
    refine eq_ofModel_pack (hbits.trans ?_)
    cases negative <;> rfl
  rw [hx]
  cases negative <;> rfl

theorem unpack_special {x : Float} (h : ∀ negative m e, parts x ≠ .finite negative m e) :
    x.toModel.unpack = .notANumber ∨ ∃ s, x.toModel.unpack = .infinity s := by
  have hfield : x.toBits.toNat / 4503599627370496 % 2048 = 2047 := by
    by_contra hne
    unfold parts at h
    simp only [hne, if_false] at h
    split_ifs at h
    · exact h _ _ _ rfl
    · exact h _ _ _ rfl
  have hexp : @unpackExponent Format.binary64 x.toModel.toBits.toBitVec = -1#11 := by
    apply BitVec.eq_of_toNat_eq
    change x.toBits.toNat >>> 52 % 2 ^ 11 = 2047
    rwa [Nat.shiftRight_eq_div_pow]
  unfold Float.Model.unpack UnpackedFloat.unpack
  rw [hexp]
  dsimp only
  rw [if_pos rfl]
  split_ifs
  · exact .inr ⟨_, rfl⟩
  · exact .inl rfl

theorem finite_of_mem_unit {x : Float} (h0 : 0.0 ≤ x) (h1 : x ≤ 1.0) :
    ∃ negative m e, parts x = .finite negative m e := by
  by_contra h
  push Not at h
  have h0' : (UnpackedFloat.le (.zero .positive) x.toModel.unpack) = true := of_decide_eq_true h0
  have h1' : (UnpackedFloat.le x.toModel.unpack (1.0 : Float).toModel.unpack) = true :=
    of_decide_eq_true h1
  rcases unpack_special h with hx | ⟨s, hx⟩
  · rw [hx] at h0'
    cases h0'
  · rw [hx] at h0' h1'
    cases s
    · cases h0'
    · rw [unpack_one] at h1'
      cases h1'

/-! ### Reading back -/

/-- What a decimal fraction stands for. -/
def Decimal.value (d : Decimal) : ℚ := d.digits * 10 ^ d.exp

theorem zpow_toNat (b : ℚ) (k : Int) : b ^ k = b ^ k.toNat / b ^ (-k).toNat := by
  rcases Int.le_total 0 k with hk | hk
  · obtain ⟨n, rfl⟩ := Int.eq_ofNat_of_zero_le hk
    simp
  · obtain ⟨n, hn⟩ := Int.eq_ofNat_of_zero_le (Int.neg_nonneg.2 hk)
    obtain rfl : k = -(n : Int) := by omega
    simp

theorem ratio_pos (num : Nat) (e2 e10 : Int) : 0 < (ratio num e2 e10).2 :=
  Nat.mul_pos (Nat.pow_pos (by decide)) (Nat.pow_pos (by decide))

theorem ratio_eq (num : Nat) (e2 e10 : Int) :
    ((ratio num e2 e10).1 : ℚ) / (ratio num e2 e10).2 = num * 2 ^ e2 / 10 ^ e10 := by
  simp only [ratio, Nat.pow_eq]
  push_cast
  rw [zpow_toNat 2 e2, zpow_toNat 10 e10]
  field_simp

theorem ratio_le_ratio {a b a' b' : Nat} (hb : 0 < b) (hb' : 0 < b') :
    a * b' ≤ a' * b ↔ (a : ℚ) / b ≤ a' / b' := by
  rw [div_le_div_iff₀ (by exact_mod_cast hb) (by exact_mod_cast hb')]
  exact_mod_cast Iff.rfl

theorem ratio_lt_ratio {a b a' b' : Nat} (hb : 0 < b) (hb' : 0 < b') :
    a * b' < a' * b ↔ (a : ℚ) / b < a' / b' := by
  rw [div_lt_div_iff₀ (by exact_mod_cast hb) (by exact_mod_cast hb')]
  exact_mod_cast Iff.rfl

theorem ends_eq {m : Nat} {e : Int} (hm : 0 < m) :
    (((4 * m - if m = 4503599627370496 ∧ -1074 < e then 1 else 2 : Nat) : ℚ) * 2 ^ (e - 2) =
      (m - reach m e) * 2 ^ e) ∧
    (((4 * m + 2 : Nat) : ℚ) * 2 ^ (e - 2) = (m + 1 / 2) * 2 ^ e) := by
  have hpow : (2 : ℚ) ^ (e - 2) = 2 ^ e / 4 := by
    rw [zpow_sub₀ (by norm_num)]
    norm_num
  have hreach : reach m e = if m = 4503599627370496 ∧ -1074 < e then 1 / 4 else 1 / 2 := by
    unfold reach
    norm_num
  rw [hpow, hreach]
  constructor
  · split
    · rw [Nat.cast_sub (by omega)]
      push_cast
      ring
    · rw [Nat.cast_sub (by omega)]
      push_cast
      ring
  · push_cast
    ring

/-- **What reads back lies where everything is rounded to the number.** -/
theorem readsBack_iff {m d : Nat} {e k : Int} (hm : 0 < m) :
    readsBack m e d k = true ↔ Nearby m e (Decimal.value ⟨d, k⟩) := by
  obtain ⟨hlo, hhi⟩ := ends_eq (e := e) hm
  have hvalue : ((ratio d 0 (-k)).1 : ℚ) / (ratio d 0 (-k)).2 = Decimal.value ⟨d, k⟩ := by
    rw [ratio_eq, Decimal.value, zpow_neg, div_inv_eq_mul, zpow_zero, mul_one]
  unfold readsBack
  simp only
  generalize (if m = 4503599627370496 ∧ -1074 < e then 1 else 2 : Nat) = b at hlo ⊢
  have hlo' := ratio_eq (4 * m - b) (e - 2) 0
  have hhi' := ratio_eq (4 * m + 2) (e - 2) 0
  rw [zpow_zero, div_one, hlo] at hlo'
  rw [zpow_zero, div_one, hhi] at hhi'
  have hq := ratio_pos d 0 (-k)
  have hr := ratio_pos (4 * m - b) (e - 2) 0
  have hs := ratio_pos (4 * m + 2) (e - 2) 0
  rcases Nat.mod_two_eq_zero_or_one m with heven | hodd
  · rw [if_pos heven, Bool.and_eq_true, decide_eq_true_iff, decide_eq_true_iff,
      ratio_le_ratio hr hq, ratio_le_ratio hq hs, hlo', hhi', hvalue]
    exact ⟨fun h => ⟨h.1, h.2, fun hodd => absurd hodd (by omega)⟩, fun h => ⟨h.below, h.above⟩⟩
  · rw [if_neg (by omega), Bool.and_eq_true, decide_eq_true_iff, decide_eq_true_iff,
      ratio_lt_ratio hr hq, ratio_lt_ratio hq hs, hlo', hhi', hvalue]
    exact ⟨fun h => ⟨h.1.le, h.2.le, fun _ => h⟩, fun h => h.odd hodd⟩

/-! ### Seventeen digits -/

theorem length_toDigits_spec {n : Nat} (hn : 0 < n) :
    10 ^ ((Nat.toDigits 10 n).length - 1) ≤ n ∧ n < 10 ^ (Nat.toDigits 10 n).length := by
  have hpos : 0 < (Nat.toDigits 10 n).length := List.length_pos_iff.2 Nat.toDigits_ne_nil
  refine ⟨?_, (Digits.length_decimal_le hpos).1 (le_refl _)⟩
  rcases Nat.eq_zero_or_pos ((Nat.toDigits 10 n).length - 1) with hzero | hmore
  · rw [hzero]
    exact hn
  · by_contra hlt
    have := (Digits.length_decimal_le hmore).2 (not_le.1 hlt)
    change (Nat.toDigits 10 n).length ≤ _ at this
    omega

theorem floor_div {p q : Nat} (hq : 0 < q) :
    ((p / q : Nat) : ℚ) ≤ p / q ∧ (p : ℚ) / q < (p / q : Nat) + 1 := by
  have hq' : (0 : ℚ) < q := by exact_mod_cast hq
  rw [le_div_iff₀ hq', div_lt_iff₀ hq']
  constructor
  · exact_mod_cast Nat.div_mul_le_self p q
  · have := Nat.lt_div_mul_add hq (a := p)
    rw [add_mul, one_mul]
    exact_mod_cast this

/-- The first digit of a number stands at its leading place. -/
theorem leadingPlace_spec {m : Nat} {e : Int} (hc : Canonical m e) :
    (10 : ℚ) ^ leadingPlace m e ≤ value m e ∧ value m e < (10 : ℚ) ^ (leadingPlace m e + 1) := by
  have hratio := ratio_eq m e (-330)
  have hfloor := floor_div (p := (ratio m e (-330)).1) (ratio_pos m e (-330))
  unfold leadingPlace
  simp only
  generalize (ratio m e (-330)).1 / (ratio m e (-330)).2 = n at hfloor ⊢
  rw [hratio, zpow_neg, div_inv_eq_mul] at hfloor
  change (n : ℚ) ≤ value m e * 10 ^ (330 : Int) ∧ value m e * 10 ^ (330 : Int) < n + 1 at hfloor
  have hten : (2 : ℚ) ^ (1074 : Nat) ≤ 10 ^ (330 : Nat) := by
    exact_mod_cast (by decide +kernel : 2 ^ 1074 ≤ 10 ^ 330)
  have hn : 0 < n := by
    have hleast : (2 : ℚ) ^ (-1074 : Int) ≤ value m e :=
      (two_zpow_le.2 hc.least).trans (le_value hc.pos)
    have hone : (1 : ℚ) < n + 1 := by
      refine lt_of_le_of_lt ?_ hfloor.2
      calc (1 : ℚ) = 2 ^ (-1074 : Int) * 2 ^ (1074 : Nat) := by
            rw [zpow_neg, zpow_ofNat, inv_mul_cancel₀ (by positivity)]
        _ ≤ value m e * 10 ^ (330 : Int) := by
            rw [zpow_ofNat]
            exact mul_le_mul hleast hten (by positivity) (value_nonneg m e)
    exact_mod_cast (by linarith : (0 : ℚ) < n)
  obtain ⟨hlo, hhi⟩ := length_toDigits_spec hn
  have hpos : 0 < (Nat.toDigits 10 n).length := List.length_pos_iff.2 Nat.toDigits_ne_nil
  generalize (Nat.toDigits 10 n).length = l at hlo hhi hpos
  have hlo' : (10 : ℚ) ^ (l - 1) ≤ n := by exact_mod_cast hlo
  have hhi' : (n : ℚ) + 1 ≤ 10 ^ l := by exact_mod_cast hhi
  have hscale (k : Int) : (10 : ℚ) ^ (k - 330) * 10 ^ (330 : Int) = 10 ^ k := by
    rw [← zpow_add₀ (by norm_num), sub_add_cancel]
  constructor
  · refine le_of_mul_le_mul_right (a := 10 ^ (330 : Int)) ?_ (by positivity)
    rw [show (l : Int) - 331 = ((l - 1 : Nat) : Int) - 330 by omega, hscale, zpow_natCast]
    exact hlo'.trans hfloor.1
  · refine lt_of_mul_lt_mul_right (a := 10 ^ (330 : Int)) ?_ (by positivity)
    rw [show (l : Int) - 331 + 1 = (l : Int) - 330 by omega, hscale, zpow_natCast]
    exact hfloor.2.trans_le hhi'

/-- Seventeen digits are closer together than the ends of what is rounded to a number. -/
theorem ten_zpow_lt {m : Nat} {e k : Int} (hc : Canonical m e) (hk : leadingPlace m e = k + 16) :
    (10 : ℚ) ^ k < (reach m e + 1 / 2) * 2 ^ e := by
  have hlead := (leadingPlace_spec hc).1
  rw [hk, zpow_add₀ (by norm_num), value] at hlead
  have hpow : (0 : ℚ) < 2 ^ e := by positivity
  have hm : (m : ℚ) + 1 ≤ 2 ^ 53 := by exact_mod_cast hc.lt
  unfold reach
  split
  · rename_i hmin
    have hm' : (m : ℚ) = 2 ^ 52 := by exact_mod_cast hmin.1
    rw [hm'] at hlead
    norm_num at hlead
    linarith
  · norm_num at hlead hm
    nlinarith

theorem readsBack_of_lt {m d : Nat} {e k : Int} (hm : 0 < m)
    (hlo : value m e - reach m e * 2 ^ e < d * 10 ^ k)
    (hhi : d * 10 ^ k < value m e + 1 / 2 * 2 ^ e) : readsBack m e d k = true := by
  have hlo' : (m - reach m e) * 2 ^ e < d * 10 ^ k := by rwa [sub_mul]
  have hhi' : d * 10 ^ k < (m + 1 / 2) * (2 : ℚ) ^ e := by rwa [add_mul]
  exact (readsBack_iff hm).2 ⟨hlo'.le, hhi'.le, fun _ => ⟨hlo', hhi'⟩⟩

/-- Of the two seventeen-digit decimals around a number one reads back. -/
theorem onGrid?_seventeen {m : Nat} {e : Int} (hc : Canonical m e) :
    (onGrid? m e (leadingPlace m e) 17).isSome := by
  generalize hk : leadingPlace m e - (17 : Nat) + 1 = k
  have hwide := ten_zpow_lt (k := k) hc (by omega)
  have hreach : 0 < reach m e * 2 ^ e := mul_pos (reach_pos m e) (by positivity)
  have hhalf : (0 : ℚ) < 1 / 2 * 2 ^ e := by positivity
  have hfloor := floor_div (p := (ratio m e k).1) (ratio_pos m e k)
  rw [ratio_eq, le_div_iff₀ (by positivity), div_lt_iff₀ (by positivity)] at hfloor
  change _ ≤ value m e ∧ value m e < _ at hfloor
  unfold onGrid?
  simp only [hk]
  generalize (ratio m e k).1 / (ratio m e k).2 = d at hfloor ⊢
  rw [add_mul] at hwide
  rw [add_mul, one_mul] at hfloor
  rcases lt_or_ge (value m e) (d * 10 ^ k + reach m e * 2 ^ e) with hnear | hfar
  · have hdown : readsBack m e d k = true := readsBack_of_lt hc.pos (by linarith) (by linarith)
    rw [hdown]
    split <;> simp_all
  · have hup : readsBack m e (d + 1) k = true := by
      refine readsBack_of_lt hc.pos ?_ ?_ <;> push_cast <;> linarith
    rw [hup]
    split <;> simp_all

theorem readsBack_of_onGrid? {m n : Nat} {e place : Int} {d : Decimal}
    (h : onGrid? m e place n = some d) : readsBack m e d.digits d.exp = true := by
  unfold onGrid? at h
  dsimp only at h
  split at h
  · rename_i hdown hup
    obtain rfl := Option.some.inj h
    dsimp only
    split
    · exact hdown
    · exact hup
  · obtain rfl := Option.some.inj h
    assumption
  · obtain rfl := Option.some.inj h
    assumption
  · cases h

/-! ### The shortest decimal -/

theorem Decimal.value_stripZeros (fuel : Nat) (d : Decimal) :
    (d.stripZeros fuel).value = d.value := by
  induction fuel generalizing d with
  | zero => rfl
  | succ fuel ih =>
    unfold stripZeros
    split
    · rename_i h
      rw [ih]
      have hdigits : (d.digits : ℚ) = (d.digits / 10 : Nat) * 10 := by
        exact_mod_cast (Nat.div_mul_cancel (Nat.dvd_of_mod_eq_zero h.2)).symm
      rw [value, value, hdigits, zpow_add_one₀ (by norm_num)]
      ring
    · rfl

/-- **The shortest decimal of a number lies where everything is rounded to the number.** -/
theorem nearby_shortest {m : Nat} {e : Int} (hc : Canonical m e) :
    Nearby m e (shortest m e).value := by
  have hfound : ((List.range 17).findSome? fun n =>
      onGrid? m e (leadingPlace m e) (n + 1)).isSome := by
    rw [List.findSome?_isSome_iff]
    exact ⟨16, by simp, onGrid?_seventeen hc⟩
  unfold shortest
  rw [if_neg hc.pos.ne']
  dsimp only
  split
  · rename_i d hd
    obtain ⟨n, -, hn⟩ := List.exists_of_findSome?_eq_some hd
    rw [Decimal.value_stripZeros]
    exact (readsBack_iff hc.pos).1 (readsBack_of_onGrid? hn)
  · rename_i hnone
    rw [hnone] at hfound
    cases hfound

/-! ### Reading -/

/-- **What lies where everything is rounded to a number is read as the number**, if it is written
with places behind the point. -/
theorem ofDecimal_eq {m n p : Nat} {e : Int} (hn : 0 < n) (hp : 0 < p) (hc : Canonical m e)
    (he : e ≤ 971) (hv : Nearby m e (n / 10 ^ p)) :
    ofDecimal n (-(p : Int)) = .ofModel (.pack (.finite .positive m e hc.pos)) := by
  obtain ⟨hlo, hhi⟩ := length_toDigits_spec hn
  unfold ofDecimal
  dsimp only
  generalize (Nat.toDigits 10 n).length = l at hlo hhi
  have hlo' : (10 : ℚ) ^ (l - 1) ≤ n := by exact_mod_cast hlo
  have hhi' : (n : ℚ) < 10 ^ l := by exact_mod_cast hhi
  have hsmall : ¬ (l : Int) + -(p : Int) < -330 := by
    intro hlt
    have hle := hv.two_zpow_le hc
    rw [zpow_neg, zpow_ofNat, le_div_iff₀ (by positivity), inv_mul_le_iff₀ (by positivity)] at hle
    have hten : (2 : ℚ) ^ (1075 : Nat) ≤ 10 ^ (331 : Nat) := by
      exact_mod_cast (by decide +kernel : 2 ^ 1075 ≤ 10 ^ 331)
    have hpow : (10 : ℚ) ^ (331 : Nat) * 10 ^ l ≤ 10 ^ p := by
      rw [← pow_add]
      exact pow_le_pow_right₀ (by norm_num) (by omega)
    have hlt' : (2 : ℚ) ^ (1075 : Nat) * n < 10 ^ (331 : Nat) * 10 ^ l :=
      mul_lt_mul' hten hhi' n.cast_nonneg (by positivity)
    exact absurd (hle.trans_lt hlt') (not_lt.2 hpow)
  have hlarge : ¬ 310 < (l : Int) + -(p : Int) := by
    intro hlt
    have hle := hv.lt_two_zpow hc he
    rw [zpow_ofNat, div_lt_iff₀ (by positivity)] at hle
    have hten : (2 : ℚ) ^ (1024 : Nat) ≤ 10 ^ (310 : Nat) := by
      exact_mod_cast (by decide +kernel : 2 ^ 1024 ≤ 10 ^ 310)
    have hpow : (10 : ℚ) ^ (310 : Nat) * 10 ^ p ≤ 10 ^ (l - 1) := by
      rw [← pow_add]
      exact pow_le_pow_right₀ (by norm_num) (by omega)
    have hle' : (2 : ℚ) ^ (1024 : Nat) * 10 ^ p ≤ 10 ^ (310 : Nat) * 10 ^ p :=
      mul_le_mul_of_nonneg_right hten (by positivity)
    exact absurd (hle.trans_le (hle'.trans (hpow.trans hlo'))) (lt_irrefl _)
  rw [if_neg (not_or.2 ⟨hn.ne', hsmall⟩), if_neg hlarge, decide_eq_true (by omega),
    Int.natAbs_neg, Int.natAbs_natCast]
  exact ofScientific_eq hn hp hc hv

theorem signed_finite {m : Nat} {e : Int} (hc : Canonical m e) (he : e ≤ 971) (negative : Bool) :
    (if negative then -Float.ofModel (.pack (.finite .positive m e hc.pos))
      else .ofModel (.pack (.finite .positive m e hc.pos))) =
        .ofModel (.pack (.finite (signOf negative) m e hc.pos)) := by
  cases negative
  · rfl
  · change Float.ofModel (.pack (UnpackedFloat.neg (Float.Model.unpack _))) = _
    rw [unpack_pack .positive hc he]
    rfl

/-- **A finite number is read from any decimal that stands for what its shortest decimal stands
for.** -/
theorem ofDecimal_shortest {x : Float} {negative : Bool} {m n p : Nat} {e : Int}
    (h : parts x = .finite negative m e) (hp : 0 < p)
    (hv : (n : ℚ) / 10 ^ p = (shortest m e).value) :
    (ofDecimal n (-(p : Int))).isInf = false ∧
      (if negative then -ofDecimal n (-(p : Int)) else ofDecimal n (-(p : Int))) = x := by
  -- Zero has no leading digit and is read apart; its sign is kept.
  rcases Nat.eq_zero_or_pos m with rfl | hm
  · have hn : n = 0 := by
      have hzero : (shortest 0 e).value = 0 := by simp [shortest, Decimal.value]
      rw [hzero, div_eq_zero_iff] at hv
      exact_mod_cast hv.resolve_right (by positivity)
    have hread : ofDecimal n (-(p : Int)) = 0.0 := by
      unfold ofDecimal
      exact if_pos (.inl hn)
    rw [hread, eq_zero_of_parts h]
    exact ⟨rfl, by cases negative <;> rfl⟩
  · obtain ⟨hc, he, rfl⟩ := eq_of_parts h hm
    have hnearby := nearby_shortest hc
    rw [← hv] at hnearby
    have hn : 0 < n := by
      have hpos := (by positivity : (0 : ℚ) < 2 ^ (-1075 : Int)).trans_le (hnearby.two_zpow_le hc)
      rcases Nat.eq_zero_or_pos n with rfl | hn
      · simp at hpos
      · exact hn
    rw [ofDecimal_eq hn hp hc he hnearby, signed_finite hc he]
    refine ⟨?_, rfl⟩
    change (Float.Model.unpack _).isInf = false
    rw [unpack_pack .positive hc he]
    rfl

theorem isNaN_of_parts {x : Float} {negative : Bool} {m : Nat} {e : Int}
    (h : parts x = .finite negative m e) : x.isNaN = false := by
  rcases Nat.eq_zero_or_pos m with rfl | hm
  · rw [eq_zero_of_parts h]
    cases negative <;> rfl
  · obtain ⟨hc, he, rfl⟩ := eq_of_parts h hm
    change (Float.Model.unpack _).isNaN = false
    rw [unpack_pack _ hc he]
    rfl

/-! ### Places in front of and behind the point -/

/-- Digits as they stand in front of a point: there are some, and no zero stands before others. -/
structure Leading (ws : List Char) : Prop where
  digits : ∀ c ∈ ws, c.isDigit
  nonempty : ws ≠ []
  trimmed : ws = ['0'] ∨ ws.head? ≠ some '0'

theorem leading_toDigits (n : Nat) : Leading (Nat.toDigits 10 n) := by
  refine ⟨fun c hc => Nat.isDigit_of_mem_toDigits (by decide) (by decide) hc, Nat.toDigits_ne_nil,
    ?_⟩
  rcases Nat.eq_zero_or_pos n with rfl | hn
  · exact .inl rfl
  · refine .inr fun hhead => ?_
    obtain ⟨r, hr⟩ := List.head?_eq_some_iff.1 hhead
    exact Digits.decimal_ne_zero_cons hn r hr

theorem positional_whole {d : Decimal} (h : 0 ≤ d.exp) : ∃ ws,
    positional true d = ws ++ '.' :: ['0'] ∧ Leading ws ∧
      (Digits.value (ws ++ ['0']) : ℚ) / 10 ^ 1 = d.value := by
  generalize hk : (if d.digits = 0 then 0 else d.exp.toNat) = k
  have hlead := leading_toDigits d.digits
  refine ⟨Nat.toDigits 10 d.digits ++ List.replicate k '0', ?_, ⟨?_, ?_, ?_⟩, ?_⟩
  · simp [positional, h, hk]
  · intro c hc
    rcases List.mem_append.1 hc with hc | hc
    · exact hlead.digits c hc
    · rw [(List.mem_replicate.1 hc).2]
      rfl
  · exact List.append_ne_nil_of_left_ne_nil hlead.nonempty _
  · rcases hlead.trimmed with hzero | hhead
    · have hdigits : d.digits = 0 := by
        have := congrArg Digits.value hzero
        rwa [show Nat.toDigits 10 d.digits = Digits.decimal d.digits from rfl,
          Digits.value_decimal] at this
      rw [if_pos hdigits] at hk
      subst hk
      exact .inl (by rw [hzero]; rfl)
    · refine .inr ?_
      rwa [List.head?_append_of_ne_nil _ hlead.nonempty]
  · have hvalue : Digits.value (Nat.toDigits 10 d.digits ++ List.replicate k '0' ++ ['0']) =
        10 ^ (k + 1) * d.digits := by
      rw [List.append_assoc, ← List.replicate_succ', Digits.value_append_zeros]
      congr 1
      exact Digits.value_decimal d.digits
    rw [hvalue, Decimal.value]
    by_cases hdigits : d.digits = 0
    · simp [hdigits]
    · rw [if_neg hdigits] at hk
      rw [← Int.toNat_of_nonneg h, hk, zpow_natCast, pow_succ]
      push_cast
      field_simp

theorem positional_fraction {d : Decimal} (h : d.exp < 0) : ∃ ws ps,
    positional true d = ws ++ '.' :: ps ∧ Leading ws ∧ (∀ c ∈ ps, c.isDigit) ∧ ps ≠ [] ∧
      (Digits.value (ws ++ ps) : ℚ) / 10 ^ ps.length = d.value := by
  obtain ⟨k, hk⟩ := Int.eq_ofNat_of_zero_le (Int.neg_nonneg.2 h.le)
  have hexp : d.exp = -(k : Int) := by omega
  have hpos : 0 < k := by omega
  generalize hds : Digits.padded (k + 1) d.digits = ds
  have hlength : k < ds.length := by
    rw [← hds, Digits.padded, List.length_append, List.length_replicate]
    omega
  have hdigits : ∀ c ∈ ds, c.isDigit := fun c hc => Digits.isDigit_of_mem_padded (hds ▸ hc)
  have hsplit : ds.take (ds.length - k) ++ ds.drop (ds.length - k) = ds :=
    List.take_append_drop _ _
  refine ⟨ds.take (ds.length - k), ds.drop (ds.length - k), ?_, ⟨?_, ?_, ?_⟩, ?_, ?_, ?_⟩
  · rw [← hds]
    simp only [positional, if_neg (not_le.2 h), hk]
    rfl
  · exact fun c hc => hdigits c (List.mem_of_mem_take hc)
  · refine List.ne_nil_of_length_pos ?_
    rw [List.length_take]
    omega
  · rw [← hds, Digits.padded]
    rcases Nat.lt_or_ge k (Digits.decimal d.digits).length with hlong | hshort
    · -- the digits reach over the point
      have hnone : k + 1 - (Digits.decimal d.digits).length = 0 := by omega
      rw [hnone, List.replicate_zero, List.nil_append]
      have hlead := leading_toDigits d.digits
      refine .inr ?_
      rw [List.head?_take, if_neg (by omega)]
      rcases hlead.trimmed with hzero | hhead
      · have : (Digits.decimal d.digits).length = 1 := congrArg List.length hzero
        omega
      · exact hhead
    · -- a zero has been put in front of the point
      obtain ⟨j, hj⟩ : ∃ j, k + 1 - (Digits.decimal d.digits).length = j + 1 :=
        ⟨k - (Digits.decimal d.digits).length, by omega⟩
      refine .inl ?_
      rw [hj, List.replicate_succ, List.cons_append, List.length_cons, List.length_append,
        List.length_replicate, show j + (Digits.decimal d.digits).length + 1 - k = 1 by omega]
      rfl
  · exact fun c hc => hdigits c (List.mem_of_mem_drop hc)
  · refine List.ne_nil_of_length_pos ?_
    rw [List.length_drop]
    omega
  · rw [hsplit, List.length_drop, ← hds, Digits.value_padded, hds,
      show ds.length - (ds.length - k) = k by omega, Decimal.value, hexp, zpow_neg, zpow_natCast,
      div_eq_mul_inv]

/-- **Positional notation** has digits before and behind its point that stand for the decimal. -/
theorem positional_spec (d : Decimal) : ∃ ws ps,
    positional true d = ws ++ '.' :: ps ∧ Leading ws ∧ (∀ c ∈ ps, c.isDigit) ∧ ps ≠ [] ∧
      (Digits.value (ws ++ ps) : ℚ) / 10 ^ ps.length = d.value := by
  rcases Int.lt_or_le d.exp 0 with hneg | hnonneg
  · exact positional_fraction hneg
  · obtain ⟨ws, htext, hlead, hvalue⟩ := positional_whole hnonneg
    exact ⟨ws, ['0'], htext, hlead, by simp, by simp, hvalue⟩

end Sluice.Binary64
