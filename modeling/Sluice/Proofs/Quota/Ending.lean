import Sluice.Proofs.Quota.Atomic
import Sluice.Proofs.Quota.Hint

/-!
# How windows end

A window ends its length after its start, or with the calendar. Until then there is something to
wait for, and a denial says how long. One case is lost: a leap second at the end of a day is not
counted from the next day on, so that from within it there may seem to be nothing to wait for.

* `Timestamp.wait?` : the time from one point to another, if the other does not come first;
  `Timestamp.since_eq_wait?` : a denial tells it, and no time instead of none;
* `Timestamp.Hides` : a leap second hides what comes right after it;
  `Timestamp.exists_wait?_iff` : there is something to wait for unless it is hidden;
* `Timestamp.windowEnd_eq_of_line`, `Timestamp.windowEnd_eq_latest` : where a window ends;
* `Timestamp.Ends` : all that holds of the end of a window; `Timestamp.windows_end` : it holds of
  every window that does not start in a leap second;
* `Timestamp.windows_end_hidden` : a denial right before midnight that says not to wait at all.
-/

namespace Sluice

namespace Timestamp

variable {start start' t r u : Timestamp} {d d' hint : Duration}

/-! ### The time to wait -/

/-- The time from a point to another one, unless the other comes first. -/
def wait? (t r : Timestamp) : Option Duration :=
  if 0 ≤ r.nanosSince t then Duration.ofNanos? (r.nanosSince t).toNat else none

theorem ofNanos?_nanosSince (t r : Timestamp) :
    ∃ w, Duration.ofNanos? (r.nanosSince t).toNat = some w ∧
      w.nanos = (r.nanosSince t).toNat := by
  have hway := Ledger.natAbs_nanosSince_le r t
  have hlt : (r.nanosSince t).toNat < 18446744073709551616 * 1000000000 := by
    unfold Ledger.longestWay at hway
    omega
  exact ⟨⟨_, hlt⟩, dif_pos hlt, rfl⟩

/-- **What a denial tells**: the time to wait, and no time if the other point comes first. -/
theorem since_eq_wait? (t r : Timestamp) : r.since t = (t.wait? r).getD .zero := by
  obtain ⟨w, hw, -⟩ := ofNanos?_nanosSince t r
  rw [since, Duration.clamp, wait?]
  split_ifs with hle
  · rw [hw, Option.getD_some, Option.getD_some]
  · rw [Int.toNat_eq_zero.2 (Int.le_of_not_le hle)]
    rfl

theorem exists_wait?_iff_pos :
    (∃ w, t.wait? r = some w ∧ 0 < w.nanos) ↔ 0 < r.nanosSince t := by
  obtain ⟨w, hw, hnanos⟩ := ofNanos?_nanosSince t r
  rw [wait?]
  constructor
  · rintro ⟨v, hv, hpos⟩
    split_ifs at hv
    rw [hw] at hv
    cases hv
    omega
  · intro hpos
    rw [if_pos (Int.le_of_lt hpos)]
    exact ⟨w, hw, by omega⟩

/-! ### Leap seconds at the end of a day -/

/-- A point in the leap second at the end of a day hides another one, which lies no further in the
next day than this one does in the leap second. -/
def Hides (t r : Timestamp) : Prop := t.isLeap = true ∧ t.secs % 86400 = 86399 ∧ r.line ≤ t.line

theorem not_hides (h : t.isLeap = false) : ¬ t.Hides r := by
  intro hhides
  rw [hhides.1] at h
  cases h

/-- **The way to a later point is counted** unless that point is hidden. -/
theorem nanosSince_pos_iff (hr : r.isLeap = false) (h : t < r) :
    0 < r.nanosSince t ↔ ¬ t.Hides r := by
  have hnanos := t.nanos_lt
  -- A leap second stands at the end of a minute, at 86399 seconds or at least 60 seconds earlier.
  have hleap := t.leap
  rw [← Int.emod_emod_of_dvd t.secs (show (60 : Int) ∣ 86400 by decide)] at hleap
  rw [isLeap_eq_false] at hr
  rw [lt_def] at h
  unfold nanosSince Hides line isLeap
  simp only [decide_eq_true_eq]
  split_ifs <;> omega

theorem exists_wait?_iff (hr : r.isLeap = false) (h : t < r) :
    (∃ w, t.wait? r = some w ∧ 0 < w.nanos) ↔ ¬ t.Hides r :=
  exists_wait?_iff_pos.trans (nanosSince_pos_iff hr h)

/-! ### Where a window ends -/

theorem windowEnd_eq_of_line (hstart : start.isLeap = false) (hu : u.isLeap = false)
    (hline : u.line = start.line + d.nanos) : windowEnd start d = u := by
  refine eq_of_line (isLeap_windowEnd hstart d) hu ?_
  rw [line_windowEnd hstart, ← hline]
  exact Int.min_eq_left (line_le_latest hu)

theorem windowEnd_eq_latest (hstart : start.isLeap = false)
    (hnone : ∀ u : Timestamp, u.isLeap = false → u.line ≠ start.line + d.nanos) :
    windowEnd start d = latest := by
  unfold windowEnd
  cases hadd : start.add? d with
  | none => rfl
  | some u =>
    obtain ⟨hu, hline⟩ := add?_eq_some hstart hadd
    exact absurd hline (hnone u hu)

theorem le_windowEnd (hstart : start.isLeap = false) (d : Duration) : start ≤ windowEnd start d := by
  rw [le_iff_line hstart (isLeap_windowEnd hstart d), line_windowEnd hstart]
  have := line_le_latest hstart
  omega

theorem windowEnd_mono (hstart : start.isLeap = false) (hstart' : start'.isLeap = false)
    (hle : start ≤ start') (hd : d ≤ d') : windowEnd start d ≤ windowEnd start' d' := by
  rw [le_iff_line hstart hstart'] at hle
  rw [Duration.le_def] at hd
  rw [le_iff_line (isLeap_windowEnd hstart d) (isLeap_windowEnd hstart' d'), line_windowEnd hstart,
    line_windowEnd hstart']
  omega

theorem windowEnd_of_longestWay_lt (hstart : start.isLeap = false)
    (hd : Ledger.longestWay < d.nanos) : windowEnd start d = latest := by
  refine windowEnd_eq_latest hstart fun u hu hline => ?_
  have := start.first_le
  have := u.le_last
  rw [isLeap_eq_false] at hu
  unfold Ledger.longestWay at hd
  rw [line, line] at hline
  omega

/-! ### The end of a window -/

theorem denied_iff {b : Bucket} {cost : UInt32} (hleap : (b.roll t).resetAt.isLeap = false)
    (hlt : t < (b.roll t).resetAt) (hdenied : (b.take cost t).1 = .denied hint) :
    t.wait? (b.roll t).resetAt = some hint ∧ 0 < hint.nanos ↔ ¬ t.Hides (b.roll t).resetAt := by
  have hhint : hint = ((t.wait? (b.roll t).resetAt).getD .zero) := by
    rw [← since_eq_wait?]
    rw [Bucket.take_fst] at hdenied
    split_ifs at hdenied
    exact (Outcome.denied.inj hdenied).symm
  rw [← exists_wait?_iff hleap hlt]
  constructor
  · intro h
    exact ⟨hint, h⟩
  · rintro ⟨w, hw, hpos⟩
    rw [hw, Option.getD_some] at hhint
    rw [hhint]
    exact ⟨hw, hpos⟩

/-- **What holds of the end of a window.** -/
structure Ends (start : Timestamp) (d : Duration) : Prop where
  /-- A window ends its length after its start, if the calendar has that point. -/
  eq_of_line : ∀ u : Timestamp, u.isLeap = false → u.line = start.line + d.nanos →
    windowEnd start d = u
  /-- Otherwise it ends with the calendar. -/
  eq_latest : (∀ u : Timestamp, u.isLeap = false → u.line ≠ start.line + d.nanos) →
    windowEnd start d = latest
  /-- So does every window that is too long to be measured. -/
  eq_latest_of_lt : Ledger.longestWay < d.nanos → windowEnd start d = latest
  /-- It does not end before its start. -/
  le : start ≤ windowEnd start d
  /-- A window that starts no earlier and is no shorter ends no earlier. -/
  mono : ∀ start' d', start'.isLeap = false → start ≤ start' → d ≤ d' →
    windowEnd start d ≤ windowEnd start' d'
  /-- As long as it lasts there is something to wait for, unless its end is hidden. -/
  wait : ∀ t, start ≤ t → t < windowEnd start d →
    ((∃ w, t.wait? (windowEnd start d) = some w ∧ 0 < w.nanos) ↔ ¬ t.Hides (windowEnd start d))
  /-- That is what a bucket tells when it denies a request in this window. -/
  denied : ∀ (b : Bucket) cost t hint, (b.roll t).resetAt = windowEnd start d → start ≤ t →
    t < windowEnd start d → (b.take cost t).1 = .denied hint →
      (t.wait? (windowEnd start d) = some hint ∧ 0 < hint.nanos ↔ ¬ t.Hides (windowEnd start d))

/-- **Windows end where they should**, saturate and keep their order. Apart from leap seconds at the
end of a day, every denial within a window tells a time to wait. -/
theorem windows_end (hstart : start.isLeap = false) (d : Duration) : Ends start d where
  eq_of_line _ := windowEnd_eq_of_line hstart
  eq_latest := windowEnd_eq_latest hstart
  eq_latest_of_lt := windowEnd_of_longestWay_lt hstart
  le := le_windowEnd hstart d
  mono _ _ := windowEnd_mono hstart
  wait _ _ hlt := exists_wait?_iff (isLeap_windowEnd hstart d) hlt
  denied b cost t hint hreset _ hlt hdenied := by
    have hleap := isLeap_windowEnd hstart d
    rw [← hreset] at hleap hlt ⊢
    exact denied_iff hleap hlt hdenied

/-- A nanosecond before 1970. -/
def beforeEpoch : Timestamp := (ofParts? (-1) 999999999).getD .epoch

/-- A nanosecond before the calendar ends. -/
def beforeLatest : Timestamp := (ofParts? 8210266876799 999999998).getD .epoch

/-- The longest window ends with the calendar, and a nanosecond before that there still is a
nanosecond to wait for. -/
theorem windows_end_longest : beforeEpoch.isLeap = false ∧
    windowEnd beforeEpoch .longest = latest ∧
    ∃ w, beforeLatest.wait? latest = some w ∧ 0 < w.nanos := by
  have hends : Ends beforeEpoch .longest := windows_end rfl .longest
  have hlatest : windowEnd beforeEpoch .longest = latest := hends.eq_latest_of_lt (by decide)
  refine ⟨rfl, hlatest, ?_⟩
  rw [← hlatest]
  refine (hends.wait _ ?_ ?_).2 (not_hides rfl)
  · decide
  · rw [hlatest]
    decide

/-- The last second of the year 2016. -/
def yearEnd : Timestamp := (ofParts? 1483228799 0).getD .epoch

/-- Half a second into the leap second that followed it. -/
def inLeapSecond : Timestamp := (ofParts? 1483228799 1500000000).getD .epoch

/-- **A denial may tell not to wait although the window goes on**: from within the leap second, the
first half second of the next day seems to be over. -/
theorem windows_end_hidden :
    yearEnd.isLeap = false ∧ yearEnd ≤ inLeapSecond ∧
      inLeapSecond < windowEnd yearEnd (.ofMillis 1200) ∧
      inLeapSecond.wait? (windowEnd yearEnd (.ofMillis 1200)) = none ∧
      ((Bucket.fresh "b" ⟨0, .ofMillis 1200⟩ yearEnd).take 1 inLeapSecond).1 = .denied .zero := by
  decide

end Timestamp

end Sluice
