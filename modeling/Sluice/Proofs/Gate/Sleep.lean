import Sluice.Gate.Basic
import Sluice.Proofs.Quota.Backoff
import Sluice.Proofs.Time.Clock

/-!
# How long a caller sleeps

After a denial a caller sleeps for at least a millisecond. If there is a sleep to choose, it is at
most as long as the hint, or a millisecond if the hint is shorter.

* `Gate.le_sleep`, `Gate.sleep_le` : what the formula of the delays says about the sleeps;
* `Gate.lt_wakeTick`, `Gate.le_wakeTick`, `Gate.wakeTick_le` : a caller wakes later than it fell
  asleep, no less than a millisecond later, and at the tick of its deadline at the latest.
-/

namespace Sluice

/-! ### Sleeps -/

namespace Gate

variable (g : Gate) {v : Visit} {hint delay : Duration} {now : Instant}

theorem le_sleep : 1000000 ≤ (g.sleep v hint).nanos := g.backoff.le_delay v.denials hint _

variable {g}

/-- **No sleep is longer than the hint**, or than a millisecond. -/
theorem sleep_le (hp : (g.backoff.spread v.denials hint).isPossible = true) :
    (g.sleep v hint).nanos ≤ max hint.nanos 1000000 := by
  have hadmits := Spread.admits_choose hp (g.chance v.caller v.denials)
  exact Nat.le_trans (g.backoff.delay_le v.denials hint hadmits)
    (g.backoff.ceiling_le v.denials hint)

theorem isLate_eq_false :
    isLate v now = false ↔ ∀ d, v.deadline = some d → now < d := by
  unfold isLate
  cases v.deadline <;> simp

theorem lt_of_not_late (hl : isLate v now = false) {d : Instant}
    (hd : v.deadline = some d) : now < d :=
  isLate_eq_false.1 hl d hd

theorem le_of_late (hl : isLate v now = true) {d : Instant} (hd : v.deadline = some d) :
    d ≤ now := by
  simpa [isLate, hd] using hl

/-- **A caller wakes later than it fell asleep.** -/
theorem lt_wakeTick (hl : isLate v now = false) (hdelay : 1000000 ≤ delay.nanos) :
    now < Tick.instant (wakeTick v now delay) := by
  refine Int.lt_of_lt_of_le ?_ (Tick.le_instant_atOrAfter _)
  cases hd : v.deadline with
  | none => exact Int.lt_add_of_pos_right _ (by omega)
  | some d =>
    have hlt := lt_of_not_late hl hd
    exact Int.lt_min.2 ⟨Int.lt_add_of_pos_right _ (by omega), hlt⟩

/-- A caller sleeps for a millisecond, or until its deadline if that comes first. -/
theorem le_wakeTick (hdelay : 1000000 ≤ delay.nanos) {d : Instant} (hd : v.deadline = some d) :
    now + 1000000 ≤ Tick.instant (wakeTick v now delay) ∨
      d ≤ Tick.instant (wakeTick v now delay) := by
  have hwake : min (now + delay.nanos) d ≤ Tick.instant (wakeTick v now delay) := by
    unfold wakeTick
    rw [hd]
    exact Tick.le_instant_atOrAfter _
  rcases Int.le_total (now + delay.nanos) d with hle | hle
  · rw [Int.min_eq_left hle] at hwake
    exact Or.inl (Int.le_trans (by omega) hwake)
  · rw [Int.min_eq_right hle] at hwake
    exact Or.inr hwake

theorem wakeTick_le {d : Instant} (hd : v.deadline = some d) :
    wakeTick v now delay ≤ Tick.atOrAfter d := by
  unfold wakeTick
  rw [hd]
  exact Tick.atOrAfter_mono (Int.min_le_right _ _)

end Gate

end Sluice
