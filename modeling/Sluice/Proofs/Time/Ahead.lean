import Sluice.Proofs.Time.Line
import Sluice.Time.Clock
import Mathlib.Tactic.ByContra

/-!
# What lies ahead of a clock

A clock that starts in a leap second goes on to the end of it before the next second begins. So
what passes until it shows a point in time is not always a difference on the line of time.

* `Timestamp.ahead` : what passes on a clock from one point to another;
* `Timestamp.since_le_ahead` : a difference of times, as a denial reports it, never counts more;
* `Instant.ahead_clock` : it grows less as the clock goes on;
* `Instant.le_clock_iff` : a clock shows a point in time from the instant on that lies so far ahead.
-/

namespace Sluice

namespace Timestamp

variable {a b t : Timestamp} {d : Duration}

theorem isLeap_eq_true : t.isLeap = true ↔ 1000000000 ≤ t.nanos := by
  simp [isLeap]

/-- Nanoseconds that pass on a clock from `a` to `b`: a second more than lie between the two on the
line if the clock has to leave a leap second. -/
def ahead (a b : Timestamp) : Int :=
  b.line - a.line + if a.isLeap ∧ a.secs < b.secs then 1000000000 else 0

theorem ahead_eq (ha : a.isLeap = false) : a.ahead b = b.line - a.line := by
  simp [ahead, ha]

theorem ahead_pos (h : a < b) : 0 < a.ahead b := by
  rw [lt_def] at h
  have := a.nanos_lt
  unfold ahead isLeap line
  split_ifs with hleap <;> simp only [decide_eq_true_eq] at hleap <;> omega

/-- A difference of times counts at most what passes on a clock. -/
theorem nanosSince_le_ahead (h : a < b) : b.nanosSince a ≤ a.ahead b := by
  rw [lt_def] at h
  unfold nanosSince ahead line
  dsimp only
  split_ifs with hclock hleap <;> try omega
  -- A leap second that counts is left behind.
  exact absurd ⟨hclock.2, by omega⟩ hleap

theorem since_le_ahead (h : a < b) : ((b.since a).nanos : Int) ≤ a.ahead b := by
  have hpos := ahead_pos h
  have hle := nanosSince_le_ahead h
  rw [since, Duration.nanos_clamp]
  omega

/-- Where in its second a leap second would be if it were none. -/
def leveled (a : Timestamp) : Timestamp :=
  ⟨a.secs, a.nanos % 1000000000, a.first_le, a.le_last, by omega, by omega⟩

theorem isLeap_leveled : a.leveled.isLeap = false :=
  isLeap_eq_false.2 (Nat.mod_lt _ (by decide))

theorem line_leveled (ha : a.isLeap = true) : a.leveled.line = a.line - 1000000000 := by
  have := isLeap_eq_true.1 ha
  have := a.nanos_lt
  unfold line leveled
  dsimp only
  omega

theorem windowEnd_of_stays (ha : a.isLeap = true) (hd : a.nanos + d.nanos < 2000000000) :
    (windowEnd a d).secs = a.secs ∧ (windowEnd a d).nanos = a.nanos + d.nanos := by
  have := isLeap_eq_true.1 ha
  have hadd : a.add? d = ofParts? a.secs (a.nanos + d.nanos) := by
    unfold add? Duration.parts
    dsimp only
    rw [if_pos (by omega), Nat.mod_eq_of_lt (by omega)]
  have hparts : ∃ t, ofParts? a.secs (a.nanos + d.nanos) = some t := by
    refine ⟨_, dif_pos ⟨a.first_le, a.le_last, hd, ?_⟩⟩
    have := a.leap
    omega
  obtain ⟨t, ht⟩ := hparts
  unfold windowEnd
  rw [hadd, ht]
  exact ofParts?_eq_some.1 ht

theorem windowEnd_of_leaves (ha : a.isLeap = true) (hd : 2000000000 ≤ a.nanos + d.nanos) :
    windowEnd a d = windowEnd a.leveled d := by
  have := isLeap_eq_true.1 ha
  unfold windowEnd add? Duration.parts leveled
  dsimp only
  rw [if_neg (by omega), if_neg (by omega), Nat.mod_mod]


/-- No clock saturates before it is beyond the calendar. -/
theorem line_windowEnd_clamp (ha : a.isLeap = false) (n : Nat) :
    (windowEnd a (.clamp n)).line = min (a.line + n) latest.line := by
  have hspan : latest.line - a.line < 18446744073709551616 * 1000000000 - 1 := by
    have := a.first_le
    change (8210266876799 * 1000000000 + 999999999 : Int) - (_ * 1000000000 + _) < _
    omega
  rw [line_windowEnd ha, Duration.nanos_clamp]
  omega

/-- From a leap second a window leads to another point of it, or to where it would lead from the
second before. -/
theorem windowEnd_clamp_of_isLeap (ha : a.isLeap = true) (n : Nat) :
    (windowEnd a (.clamp n)).secs = a.secs ∧ (windowEnd a (.clamp n)).nanos = a.nanos + n ∨
      2000000000 ≤ a.nanos + n ∧ (windowEnd a (.clamp n)).isLeap = false ∧
        (windowEnd a (.clamp n)).line = min (a.line - 1000000000 + n) latest.line := by
  have hnanos := Duration.nanos_clamp n
  rcases Nat.lt_or_ge (a.nanos + (Duration.clamp n).nanos) 2000000000 with hstays | hleaves
  · obtain ⟨hsecs, hn⟩ := windowEnd_of_stays ha hstays
    exact Or.inl ⟨hsecs, by omega⟩
  · rw [windowEnd_of_leaves ha hleaves, line_windowEnd_clamp isLeap_leveled, line_leveled ha]
    exact Or.inr ⟨by omega, isLeap_windowEnd isLeap_leveled _, rfl⟩

/-- What is ahead grows less as time passes. -/
theorem ahead_windowEnd {n : Nat} (hlt : windowEnd a (.clamp n) < b) (hb : b ≤ latest) :
    (windowEnd a (.clamp n)).ahead b = a.ahead b - n := by
  have hbefore : windowEnd a (.clamp n) < latest := lt_of_lt_of_le hlt hb
  cases ha : a.isLeap with
  | false =>
    have hleap : (windowEnd a (.clamp n)).isLeap = false := isLeap_windowEnd ha _
    have hline := (lt_iff_line hleap isLeap_latest).1 hbefore
    rw [ahead_eq hleap, ahead_eq ha]
    rw [line_windowEnd_clamp ha] at hline ⊢
    omega
  | true =>
    have hnanos := isLeap_eq_true.1 ha
    rcases windowEnd_clamp_of_isLeap ha n with ⟨hsecs, hnanos'⟩ | ⟨hover, hleap, hline⟩
    · have hleap : (windowEnd a (.clamp n)).isLeap = true := isLeap_eq_true.2 (by omega)
      unfold ahead line
      rw [ha, hleap, hsecs, hnanos']
      omega
    · have hbelow := (lt_iff_line hleap isLeap_latest).1 hbefore
      -- The clock has left the leap second, and what it has not reached is later still.
      have hsecs : a.secs < b.secs := by
        have := isLeap_eq_false.1 hleap
        rw [lt_def] at hlt
        unfold line at hline hbelow
        omega
      rw [ahead_eq hleap, ahead, if_pos ⟨ha, hsecs⟩]
      omega

theorem ahead_le_of_le_windowEnd {n : Nat} (hb : b.isLeap = false)
    (hle : b ≤ windowEnd a (.clamp n)) : a.ahead b ≤ n := by
  cases ha : a.isLeap with
  | false =>
    have hline := (le_iff_line hb (isLeap_windowEnd ha _)).1 hle
    rw [line_windowEnd_clamp ha] at hline
    rw [ahead_eq ha]
    omega
  | true =>
    have hnanos := isLeap_eq_true.1 ha
    rcases windowEnd_clamp_of_isLeap ha n with ⟨hsecs, hnanos'⟩ | ⟨hover, hleap, hline⟩
    · rw [le_def] at hle
      have := isLeap_eq_false.1 hb
      unfold ahead line
      split_ifs <;> omega
    · have hle := (le_iff_line hb hleap).1 hle
      unfold ahead
      split_ifs <;> omega

end Timestamp

namespace Instant

variable {start r : Timestamp} {i : Instant}

theorem ahead_clock (hi : 0 ≤ i) (hlt : clock start i < r) (hr : r ≤ Timestamp.latest) :
    (clock start i).ahead r = start.ahead r - i := by
  have hahead := Timestamp.ahead_windowEnd hlt hr
  rwa [Int.toNat_of_nonneg hi] at hahead

/-- **A clock shows a point in time** from the instant on that lies so far ahead. -/
theorem le_clock_iff (hi : 0 ≤ i) (hleap : r.isLeap = false) :
    r ≤ clock start i ↔ start.ahead r ≤ i := by
  constructor
  · intro hle
    have hahead := Timestamp.ahead_le_of_le_windowEnd hleap hle
    rwa [Int.toNat_of_nonneg hi] at hahead
  · intro hle
    by_contra hnot
    have hlt : clock start i < r := by
      rw [Timestamp.lt_def]
      rw [Timestamp.le_def] at hnot
      omega
    have hpos := Timestamp.ahead_pos hlt
    rw [ahead_clock hi hlt (Timestamp.le_latest hleap)] at hpos
    omega

end Instant

end Sluice
