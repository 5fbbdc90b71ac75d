import Sluice.Time.Calendar
import Mathlib.Tactic.SplitIfs
import Mathlib.Tactic.IntervalCases

/-!
# Days and dates

The date of a day exists, and the number of its day is the day.

An era has 400 years, counted from the first of March. `Calendar.yearOf` finds the year of a day of
an era without looking for it; it is right since it grows with the day and is right for the first
and the last day of every year.

* `Calendar.firstDay_yearOf_le`, `Calendar.lt_firstDay_yearOf` : a day lies in its year;
* `Calendar.monthFirst_monthOf_le`, `Calendar.lt_monthFirst_monthOf` : and in its month;
* `Calendar.dayNumber_dateOf` : the number of the day of a date;
* `Calendar.isValid_dateOf` : the day exists in its month.
-/

namespace Sluice.Calendar

/-! ### Years of an era -/

/-- The year of a day of an era. -/
def yearOf (day : Nat) : Nat := (day - day / 1460 + day / 36524 - day / 146096) / 365

/-- The first day of a year of an era; what would be the year 400 begins when the era is over. -/
def firstDay (year : Nat) : Nat := 365 * year + year / 4 - year / 100 + year / 400

theorem yearOf_firstDay : ∀ year < 400, yearOf (firstDay year) = year := by decide +kernel

theorem yearOf_lastDay : ∀ year < 400, yearOf (firstDay (year + 1) - 1) = year := by decide +kernel

theorem yearOf_le_succ {day : Nat} (h : day < 146096) : yearOf day ≤ yearOf (day + 1) := by
  unfold yearOf
  refine Nat.div_le_div_right ?_
  omega

theorem yearOf_mono {a b : Nat} (h : a ≤ b) (hb : b < 146097) : yearOf a ≤ yearOf b := by
  induction b, h using Nat.le_induction with
  | base => exact Nat.le_refl _
  | succ b _ ih => exact (ih (by omega)).trans (yearOf_le_succ (by omega))

theorem yearOf_lt {day : Nat} (h : day < 146097) : yearOf day < 400 :=
  Nat.lt_of_le_of_lt (yearOf_mono (Nat.le_pred_of_lt h) (by decide)) (by decide)

theorem firstDay_yearOf_le {day : Nat} (h : day < 146097) : firstDay (yearOf day) ≤ day := by
  by_contra hlt
  -- Otherwise the day comes no later than the last day of the year before.
  obtain ⟨year, hyear⟩ : ∃ year, yearOf day = year + 1 := by
    refine Nat.exists_eq_succ_of_ne_zero ?_
    intro hzero
    rw [hzero] at hlt
    exact hlt (Nat.zero_le _)
  have hy := yearOf_lt h
  rw [hyear] at hlt hy
  have hfirst : firstDay (year + 1) - 1 < 146097 := by unfold firstDay; omega
  have hmono := yearOf_mono (a := day) (by omega) hfirst
  rw [yearOf_lastDay year (by omega), hyear] at hmono
  omega

theorem lt_firstDay_yearOf {day : Nat} (h : day < 146097) : day < firstDay (yearOf day + 1) := by
  by_contra hle
  have hy := yearOf_lt h
  by_cases hlast : yearOf day + 1 < 400
  · have hmono := yearOf_mono (Nat.le_of_not_lt hle) h
    rw [yearOf_firstDay _ hlast] at hmono
    omega
  · have heq : yearOf day = 399 := by omega
    rw [heq] at hle
    exact hle h

/-! ### Months of a year -/

/-- The month of a day of a year, from March. -/
def monthOf (day : Nat) : Nat := (5 * day + 2) / 153

/-- The first day of a month of a year. -/
def monthFirst (month : Nat) : Nat := (153 * month + 2) / 5

theorem monthOf_lt {day : Nat} (h : day < 366) : monthOf day < 12 := by
  unfold monthOf
  omega

theorem monthFirst_monthOf_le (day : Nat) : monthFirst (monthOf day) ≤ day := by
  unfold monthFirst monthOf
  omega

theorem lt_monthFirst_monthOf (day : Nat) : day < monthFirst (monthOf day + 1) := by
  unfold monthFirst monthOf
  omega

theorem monthFirst_le_day {day month : Nat} (h : monthOf day = month) :
    monthFirst month ≤ day ∧ day < monthFirst (month + 1) :=
  ⟨h ▸ monthFirst_monthOf_le day, h ▸ lt_monthFirst_monthOf day⟩

/-! ### Dates -/

/-- The date of a day of a year of an era. -/
def dateIn (era : Int) (year day : Nat) : Date :=
  if monthOf day < 10 then
    ⟨year + era * 400, monthOf day + 3, day - monthFirst (monthOf day) + 1⟩
  else ⟨year + era * 400 + 1, monthOf day - 9, day - monthFirst (monthOf day) + 1⟩

/-- A day is a day of a year of an era. -/
structure Split (days era : Int) (year day : Nat) : Prop where
  year_lt : year < 400
  days_eq : days + 719468 = era * 146097 + (365 * year + year / 4 - year / 100 + day : Nat)
  /-- A year has a day more if it ends with a leap day. -/
  day_lt : day < 365 ∨ day = 365 ∧ isLeap (era * 400 + year + 1)
  date_eq : dateOf days = dateIn era year day

theorem day_lt_of_firstDay (era : Int) {year day : Nat} (hyear : year < 400)
    (h : firstDay year + day < firstDay (year + 1)) :
    day < 365 ∨ day = 365 ∧ isLeap (era * 400 + year + 1) := by
  unfold firstDay at h
  simp only [isLeap, Bool.and_eq_true, Bool.or_eq_true, beq_iff_eq, bne_iff_ne]
  omega

theorem dateOf_eq {days era : Int} {dayOfEra day : Nat} (hera : era = (days + 719468) / 146097)
    (hdoe : (dayOfEra : Int) = days + 719468 - era * 146097)
    (hday : day = dayOfEra - (365 * yearOf dayOfEra + yearOf dayOfEra / 4 - yearOf dayOfEra / 100))
    (hlt : day < 366) : dateOf days = dateIn era (yearOf dayOfEra) day := by
  have htoNat : (days + 719468 - (days + 719468) / 146097 * 146097).toNat = dayOfEra := by omega
  have hyear : (dayOfEra - dayOfEra / 1460 + dayOfEra / 36524 - dayOfEra / 146096) / 365 =
      yearOf dayOfEra := rfl
  have hmonth : (5 * day + 2) / 153 = monthOf day := rfl
  have hfirst : (153 * monthOf day + 2) / 5 = monthFirst (monthOf day) := rfl
  have hmonthlt := monthOf_lt hlt
  unfold dateOf
  dsimp only
  rw [htoNat, ← hera, hyear, ← hday, hmonth, hfirst]
  unfold dateIn
  split_ifs with h10
  · omega
  · rfl
  · rfl
  · omega

theorem exists_split (days : Int) : ∃ era year day, Split days era year day := by
  obtain ⟨era, hera⟩ : ∃ era, era = (days + 719468) / 146097 := ⟨_, rfl⟩
  obtain ⟨doe, hdoe⟩ : ∃ doe : Nat, (doe : Int) = days + 719468 - era * 146097 :=
    ⟨(days + 719468 - era * 146097).toNat, by omega⟩
  have hlt : doe < 146097 := by omega
  have hfirst := firstDay_yearOf_le hlt
  have hnext := lt_firstDay_yearOf hlt
  have hyear := yearOf_lt hlt
  have hstart : firstDay (yearOf doe) = 365 * yearOf doe + yearOf doe / 4 - yearOf doe / 100 := by
    unfold firstDay
    omega
  have hstep : firstDay (yearOf doe) + (doe - firstDay (yearOf doe)) <
      firstDay (yearOf doe + 1) := by
    omega
  have hday := day_lt_of_firstDay era hyear hstep
  refine ⟨era, yearOf doe, doe - firstDay (yearOf doe), hyear, ?_, hday, ?_⟩
  · rw [← hstart]
    omega
  · exact dateOf_eq hera hdoe (by rw [hstart]) (by omega)

variable {days era : Int} {year day : Nat}

theorem Split.day_lt_366 (h : Split days era year day) : day < 366 := by
  have := h.day_lt
  omega

/-- **The number of the day of a date is the day.** -/
theorem dayNumber_dateOf (days : Int) : dayNumber (dateOf days) = days := by
  obtain ⟨era, year, day, h⟩ := exists_split days
  have hmonth := monthOf_lt h.day_lt_366
  have hyear := h.year_lt
  have hdays := h.days_eq
  have hle := monthFirst_monthOf_le day
  -- Counted from March the months come out as they went in, and so do the years.
  have hback : ∀ d : Date, (if d.month ≤ 2 then d.year - 1 else d.year) = year + era * 400 →
      (d.month + 9) % 12 = monthOf day → d.day = day - monthFirst (monthOf day) + 1 →
      dayNumber d = days := by
    intro d hy hm hd
    unfold dayNumber
    dsimp only
    rw [hy, hm, hd]
    have hera : ((year : Int) + era * 400) / 400 = era := by omega
    rw [hera]
    unfold monthFirst at hle ⊢
    omega
  rw [h.date_eq]
  unfold dateIn
  split_ifs with h10
  · refine hback _ ?_ ?_ rfl
    · dsimp only
      rw [if_neg (by omega)]
    · dsimp only
      omega
  · refine hback _ ?_ ?_ rfl
    · dsimp only
      rw [if_pos (by omega)]
      omega
    · dsimp only
      omega

/-- **The date of a day exists.** -/
theorem isValid_dateOf (days : Int) : isValid (dateOf days) = true := by
  obtain ⟨era, year, day, h⟩ := exists_split days
  obtain ⟨m, hm⟩ : ∃ m, monthOf day = m := ⟨_, rfl⟩
  obtain ⟨hle, hlt⟩ := monthFirst_le_day hm
  have hmonth := hm ▸ monthOf_lt h.day_lt_366
  rw [h.date_eq, dateIn, hm]
  unfold isValid
  rw [Bool.and_eq_true, decide_eq_true_eq, decide_eq_true_eq]
  rcases h.day_lt with hday | ⟨rfl, hleap⟩
  · -- Without its leap day, the last day of February, a year has months of fixed lengths.
    have h28 (y : Int) : 28 ≤ if isLeap y = true then 29 else 28 := by split_ifs <;> omega
    unfold monthFirst at hle hlt ⊢
    interval_cases m
    all_goals simp only [Nat.reduceLT, reduceIte, Nat.reduceAdd, Nat.reduceSub, daysInMonth]
    all_goals first
      | omega
      | exact ⟨by omega, le_trans (by omega) (h28 _)⟩
  · have hm : m = 11 := hm.symm
    have hcomm : (year : Int) + era * 400 + 1 = era * 400 + year + 1 := by omega
    rw [hm, hcomm]
    simp only [Nat.reduceLT, reduceIte, Nat.reduceSub, daysInMonth, hleap]
    decide

/-- The year of a day between the first and the last of the calendar. -/
theorem year_dateOf {days : Int} (hfirst : -96465292 ≤ days) (hlast : days ≤ 95026236) :
    -262143 ≤ (dateOf days).year ∧ (dateOf days).year ≤ 262142 := by
  obtain ⟨era, year, day, h⟩ := exists_split days
  have hyear := h.year_lt
  have hdays := h.days_eq
  have hday := h.day_lt_366
  have hera : -656 ≤ era ∧ era ≤ 655 := by omega
  have hdate : (dateOf days).year = year + era * 400 + if day < 306 then 0 else 1 := by
    rw [h.date_eq, dateIn, monthOf]
    split_ifs <;> dsimp only <;> omega
  rw [hdate]
  -- Only the first and the last era are cut off.
  rcases Int.lt_or_le era (-655) with hlo | hlo
  · obtain rfl : era = -656 := by omega
    split_ifs <;> omega
  rcases Int.lt_or_le 654 era with hhi | hhi
  · obtain rfl : era = 655 := by omega
    split_ifs <;> omega
  split_ifs <;> omega

end Sluice.Calendar
