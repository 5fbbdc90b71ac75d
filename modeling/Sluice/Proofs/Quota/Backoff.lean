import Sluice.Proofs.Number.Rounding
import Sluice.Quota.Backoff

/-!
# The formula of the delays

The ceiling of a delay is computed with numbers that saturate and are cut off. It is what the
formula says all the same, as long as a factor of `2 ^ 31` is enough to come up to the longest delay
or the hint. A delay is never longer than its ceiling, nor shorter than a millisecond.

* `Backoff.nanos_ceiling` : the ceiling in plain numbers; `Backoff.ceiling_mono` : it grows with the
  attempt and with the hint;
* `Backoff.le_delay`, `Backoff.delay_le` : the bounds of a delay;
* `Spread.isPossible_iff`, `Spread.admits_choose` : there is a number to draw, and chance draws one;
* `Backoff.isPossible` : there always is one if no delay is longer than 285 years;
* `Backoff.delays_obey_formula` : all that the formula says.
-/

namespace Sluice

theorem Duration.micros64_le (d : Duration) : d.micros64.toNat * 1000 ≤ d.nanos := by
  have hmod : d.micros64.toNat ≤ d.micros := by
    change (UInt64.ofNat d.micros).toNat ≤ _
    rw [UInt64.toNat_ofNat']
    exact Nat.mod_le _ _
  have : d.micros = d.nanos / 1000 := rfl
  omega

/-! ### Numbers to draw -/

namespace Spread

variable {s : Spread}

/-- **What chance chooses lies in the range**, if there is anything in it. -/
theorem admits_choose (hs : s.isPossible = true) (n : UInt64) : s.admits (s.choose n) := by
  cases s with
  | fixed d => trivial
  | drawn low high =>
    have hle : low.toNat ≤ high.toNat := UInt64.le_iff_toNat_le.1 (of_decide_eq_true hs)
    have := high.toNat_lt
    simp only [choose]
    split_ifs with hn
    · exact hn
    · have hrem := Nat.mod_lt n.toNat (y := high.toNat - low.toNat + 1) (by omega)
      have heq : (low.toNat + n.toNat % (high.toNat - low.toNat + 1)).toUInt64.toNat =
          low.toNat + n.toNat % (high.toNat - low.toNat + 1) :=
        UInt64.toNat_ofNat_of_lt' (by change _ < 2 ^ 64; omega)
      constructor <;> rw [UInt64.le_iff_toNat_le, heq] <;> omega

theorem isPossible_iff : s.isPossible = true ↔ ∃ n, s.admits n := by
  constructor
  · intro hs
    exact ⟨_, admits_choose hs 0⟩
  · rintro ⟨n, hn⟩
    cases s with
    | fixed d => rfl
    | drawn low high => exact decide_eq_true (UInt64.le_trans hn.1 hn.2)

end Spread

namespace Backoff

variable (b : Backoff) (attempt : UInt32) (hint : Duration)

theorem nanos_shortest : shortest.nanos = 1000000 := rfl

/-! ### The ceiling -/

/-- **The ceiling in plain numbers.** Nothing saturates below the longest delay. -/
theorem nanos_ceiling : (b.ceiling attempt hint).nanos =
    max (min (min (b.base.nanos * 2 ^ min attempt.toNat 31) b.longest.nanos) hint.nanos)
      1000000 := by
  have hpow : 2 ^ min attempt.toNat 31 ≤ 2 ^ 31 :=
    Nat.pow_le_pow_right (by decide) (Nat.min_le_right _ _)
  have hfactor : min (Nat.pow 2 (min attempt.toNat 31)) 4294967295 = 2 ^ min attempt.toNat 31 :=
    Nat.min_eq_left (Nat.le_trans hpow (by decide))
  have := b.longest.nanos_lt
  unfold ceiling
  dsimp only
  rw [hfactor, Duration.nanos_max, Duration.nanos_min, Duration.nanos_min, Duration.scale,
    Duration.nanos_clamp, nanos_shortest]
  omega

theorem le_ceiling : 1000000 ≤ (b.ceiling attempt hint).nanos := by
  rw [nanos_ceiling]
  omega

theorem ceiling_le : (b.ceiling attempt hint).nanos ≤ max hint.nanos 1000000 := by
  rw [nanos_ceiling]
  omega

theorem ceiling_le_longest :
    (b.ceiling attempt hint).nanos ≤ max b.longest.nanos 1000000 := by
  rw [nanos_ceiling]
  omega

/-- **The ceiling grows with the attempt and with the hint.** -/
theorem ceiling_mono {attempt attempt' : UInt32} {hint hint' : Duration}
    (hattempt : attempt ≤ attempt') (hhint : hint ≤ hint') :
    b.ceiling attempt hint ≤ b.ceiling attempt' hint' := by
  have hle : attempt.toNat ≤ attempt'.toNat := UInt32.le_iff_toNat_le.1 hattempt
  have hpow : 2 ^ min attempt.toNat 31 ≤ 2 ^ min attempt'.toNat 31 :=
    Nat.pow_le_pow_right (by decide) (by omega)
  have hscaled := Nat.mul_le_mul_left b.base.nanos hpow
  rw [Duration.le_def] at hhint ⊢
  rw [nanos_ceiling, nanos_ceiling]
  omega

/-- **The ceiling is that of the formula**, if the factor that is used up at the 31st attempt is
enough for it. -/
theorem nanos_ceiling_eq
    (h : min b.longest.nanos hint.nanos ≤ b.base.nanos * 2 ^ 31) : (b.ceiling attempt hint).nanos =
      max (min (min (b.base.nanos * 2 ^ attempt.toNat) b.longest.nanos) hint.nanos) 1000000 := by
  rw [nanos_ceiling]
  by_cases hle : attempt.toNat ≤ 31
  · rw [Nat.min_eq_left hle]
  · -- Both factors are enough, so that they do not matter.
    have hlast : 31 ≤ attempt.toNat := by omega
    have hscaled : b.base.nanos * 2 ^ 31 ≤ b.base.nanos * 2 ^ attempt.toNat :=
      Nat.mul_le_mul_left _ (Nat.pow_le_pow_right (by decide) hlast)
    rw [Nat.min_eq_right hlast]
    generalize b.base.nanos * 2 ^ attempt.toNat = x at hscaled ⊢
    generalize b.base.nanos * 2 ^ 31 = y at h hscaled ⊢
    omega

/-! ### Delays -/

theorem spread_cases : b.spread attempt hint = .fixed (b.ceiling attempt hint) ∨
    ∃ low, b.spread attempt hint = .drawn low (b.ceiling attempt hint).micros64 := by
  unfold spread
  dsimp only
  split
  · exact Or.inl rfl
  · exact Or.inr ⟨_, rfl⟩

theorem le_delay (n : UInt64) : 1000000 ≤ ((b.spread attempt hint).delay n).nanos := by
  rcases b.spread_cases attempt hint with hs | ⟨low, hs⟩
  · rw [hs]
    exact b.le_ceiling attempt hint
  · rw [hs, Spread.delay, Duration.nanos_max, nanos_shortest]
    omega

theorem delay_le {n : UInt64} (hn : (b.spread attempt hint).admits n) :
    ((b.spread attempt hint).delay n).nanos ≤ (b.ceiling attempt hint).nanos := by
  have hlow := b.le_ceiling attempt hint
  rcases b.spread_cases attempt hint with hs | ⟨low, hs⟩
  · rw [hs]
    exact Nat.le_refl _
  · -- Whole microseconds cut the ceiling down, and so do their low 64 bits.
    rw [hs] at hn ⊢
    have hhigh := UInt64.le_iff_toNat_le.1 hn.2
    have hmicros := (b.ceiling attempt hint).micros64_le
    rw [Spread.delay, Duration.nanos_max, Duration.nanos_ofMicros, nanos_shortest]
    omega

/-! ### There is a delay -/

theorem not_isNegative_of_not_lt {x : Float} (h : ¬ x < 0.0) :
    ¬ Binary64.IsNegative x.toModel.unpack := by
  intro hx
  refine h ?_
  refine decide_eq_true ?_
  change x.toModel.unpack.lt (.zero .positive) = true
  generalize x.toModel.unpack = u at hx
  cases u with
  | notANumber => exact hx.elim
  | infinity s =>
    obtain rfl : s = .negative := hx
    rfl
  | zero s => exact hx.elim
  | finite s m e hm =>
    obtain rfl : s = .negative := hx
    rfl

theorem not_isNegative_share (x : Float) : ¬ Binary64.IsNegative (share x).toModel.unpack := by
  unfold share
  split_ifs with h h'
  · exact id
  · rintro ⟨⟩
  · exact not_isNegative_of_not_lt h

variable {b attempt hint}

/-- **There is a delay to choose** if the ceiling is less than `2 ^ 53` microseconds. Above that a
share of the ceiling may be rounded to more than the ceiling. -/
theorem isPossible_spread (h : (b.ceiling attempt hint).nanos < 2 ^ 53 * 1000) :
    (b.spread attempt hint).isPossible = true := by
  have hlow := b.le_ceiling attempt hint
  have hmicros : (b.ceiling attempt hint).micros64.toNat = (b.ceiling attempt hint).nanos / 1000 :=
    UInt64.toNat_ofNat_of_lt' (by change _ / 1000 < 2 ^ 64; omega)
  unfold spread
  dsimp only
  split_ifs
  · rfl
  · -- A whole number of so few digits is passed by no rounding.
    refine decide_eq_true (UInt64.le_iff_toNat_le.2 ?_)
    exact Binary64.truncated_le (by omega) (by omega) (not_isNegative_share _)

/-- There is a sleep to choose after every denial. -/
def IsPossible (b : Backoff) : Prop :=
  ∀ attempt hint, (b.spread attempt hint).isPossible = true

/-- **There always is a sleep to choose** if the longest one is shorter than `2 ^ 53`
microseconds. -/
theorem isPossible (h : b.longest.nanos < 2 ^ 53 * 1000) : b.IsPossible := by
  intro attempt hint
  have := b.ceiling_le_longest attempt hint
  exact isPossible_spread (by omega)

/-! ### The formula -/

/-- **What the formula says**, in unbounded numbers of nanoseconds. -/
structure Obeys (b : Backoff) : Prop where
  /-- Later attempts and longer hints have no lower ceilings. -/
  attempt_mono : ∀ attempt attempt' hint, attempt ≤ attempt' →
    b.ceiling attempt hint ≤ b.ceiling attempt' hint
  hint_mono : ∀ attempt hint hint', hint ≤ hint' →
    b.ceiling attempt hint ≤ b.ceiling attempt hint'
  /-- The ceiling doubles with every attempt up to the longest delay or the hint, and is not less
  than a millisecond. -/
  ceiling_eq : ∀ attempt hint, min b.longest.nanos hint.nanos ≤ b.base.nanos * 2 ^ 31 →
    (b.ceiling attempt hint).nanos =
      max (min (min (b.base.nanos * 2 ^ attempt.toNat) b.longest.nanos) hint.nanos) 1000000
  /-- Whichever number is drawn, the delay is a millisecond or more and at most the ceiling, -/
  delay_mem : ∀ attempt hint n, (b.spread attempt hint).admits n →
    Duration.ofMillis 1 ≤ (b.spread attempt hint).delay n ∧
      (b.spread attempt hint).delay n ≤ b.ceiling attempt hint
  /-- and so it is not longer than the hint and the longest delay, if these are a millisecond or
  more. -/
  delay_le : ∀ attempt hint n, (b.spread attempt hint).admits n →
    (b.spread attempt hint).delay n ≤ max hint (.ofMillis 1) ∧
      (b.spread attempt hint).delay n ≤ max b.longest (.ofMillis 1)
  /-- There is a number to draw if the ceiling has less than `2 ^ 53` microseconds. -/
  exists_delay : ∀ attempt hint, (b.ceiling attempt hint).nanos < 2 ^ 53 * 1000 →
    ∃ n, (b.spread attempt hint).admits n

/-- **The delays obey the formula**, whatever the bounds, the share that is left to chance, the
attempt and the hint. -/
theorem delays_obey_formula (b : Backoff) : b.Obeys where
  attempt_mono attempt attempt' hint h := b.ceiling_mono h (Nat.le_refl hint.nanos)
  hint_mono attempt hint hint' h := b.ceiling_mono (UInt32.le_refl attempt) h
  ceiling_eq attempt hint h := b.nanos_ceiling_eq attempt hint h
  delay_mem attempt hint n hn := ⟨b.le_delay attempt hint n, b.delay_le attempt hint hn⟩
  delay_le attempt hint n hn := by
    have hdelay := b.delay_le attempt hint hn
    have hhint := b.ceiling_le attempt hint
    have hlongest := b.ceiling_le_longest attempt hint
    rw [Duration.le_def, Duration.le_def, Duration.nanos_max, Duration.nanos_max]
    exact ⟨Nat.le_trans hdelay hhint, Nat.le_trans hdelay hlongest⟩
  exists_delay attempt hint h := Spread.isPossible_iff.1 (isPossible_spread h)

/-- Delays of centuries, of which next to nothing is left to chance. -/
def patient : Backoff := ⟨.ofSeconds 10000000000, .ofSeconds 10000000000, 1e-17⟩

/-- Under a ceiling that needs 54 bits in microseconds there may be no number to draw: the share of
it that is not left to chance is rounded to more than the ceiling. -/
theorem nothing_drawn : ¬ ∃ n, (patient.spread 0 ⟨9007199254740995000, by decide⟩).admits n := by
  rw [← Spread.isPossible_iff]
  decide +kernel

end Backoff

end Sluice
