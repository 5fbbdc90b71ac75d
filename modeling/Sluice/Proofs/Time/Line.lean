import Sluice.Time.Timestamp
import Mathlib.Tactic.SplitIfs

/-!
# The line of time

Apart from leap seconds a point in time is a number of nanoseconds, and the arithmetic of the
calendar is arithmetic on that number.

* `Timestamp.line` is the number; `Timestamp.lt_iff_line` compares two points by it;
* `Timestamp.line_windowEnd` : a window ends its length after its start, or at the end of the
  calendar;
* `Timestamp.line_ofMillis?_millis` : whole milliseconds cut the number down, before 1970 too.
-/

namespace Sluice

namespace Timestamp

/-- Nanoseconds from 1970. Within a leap second it runs ahead of the second that follows. -/
def line (t : Timestamp) : Int := t.secs * 1000000000 + t.nanos

variable {a b t : Timestamp}

theorem isLeap_eq_false : t.isLeap = false ↔ t.nanos < 1000000000 := by
  simp [isLeap]

/-! ### Order -/

theorem lt_iff_line (ha : a.isLeap = false) (hb : b.isLeap = false) : a < b ↔ a.line < b.line := by
  rw [isLeap_eq_false] at ha hb
  rw [lt_def, line, line]
  omega

theorem le_iff_line (ha : a.isLeap = false) (hb : b.isLeap = false) : a ≤ b ↔ a.line ≤ b.line := by
  rw [isLeap_eq_false] at ha hb
  rw [le_def, line, line]
  omega

theorem eq_of_line (ha : a.isLeap = false) (hb : b.isLeap = false) (h : a.line = b.line) :
    a = b := by
  rw [isLeap_eq_false] at ha hb
  rw [line, line] at h
  exact Timestamp.ext (by omega) (by omega)

theorem lt_of_lt_of_le {c : Timestamp} (h : a < b) (h' : b ≤ c) : a < c := by
  rw [lt_def] at h ⊢
  rw [le_def] at h'
  omega

theorem le_of_lt (h : a < b) : a ≤ b := by
  rw [lt_def] at h
  rw [le_def]
  omega

theorem isLeap_latest : latest.isLeap = false := by decide

/-- A point that is no leap second lies on the calendar. -/
theorem le_latest (h : t.isLeap = false) : t ≤ latest := by
  rw [isLeap_eq_false] at h
  have := t.le_last
  change t.secs < 8210266876799 ∨ t.secs = 8210266876799 ∧ t.nanos ≤ 999999999
  omega

/-! ### Parts -/

theorem ofParts?_eq_some {s : Int} {n : Nat} :
    ofParts? s n = some t ↔ t.secs = s ∧ t.nanos = n := by
  unfold ofParts?
  split_ifs with h
  · constructor
    · intro ht
      cases ht
      exact ⟨rfl, rfl⟩
    · intro ht
      exact congrArg some (Timestamp.ext ht.1.symm ht.2.symm)
  · constructor
    · intro ht
      cases ht
    · rintro ⟨rfl, rfl⟩
      exact absurd ⟨t.first_le, t.le_last, t.nanos_lt, t.leap⟩ h

theorem ofParts?_eq_none {s : Int} {n : Nat} (hn : n < 1000000000)
    (h : ofParts? s n = none) : s < -8334601228800 ∨ 8210266876799 < s := by
  unfold ofParts? at h
  split_ifs at h with hs
  omega

/-! ### Windows -/

/-- Within a second of the calendar a sum carries into the seconds. -/
theorem add?_eq_ofParts? (ha : a.isLeap = false) (d : Duration) :
    a.add? d = ofParts? (a.secs + ((a.nanos + d.nanos) / 1000000000 : Nat))
      ((a.nanos + d.nanos) % 1000000000) := by
  rw [isLeap_eq_false] at ha
  unfold add? Duration.parts
  dsimp only
  rw [if_neg (by omega)]
  congr 1 <;> omega

theorem add?_eq_some {d : Duration} (ha : a.isLeap = false) (h : a.add? d = some b) :
    b.isLeap = false ∧ b.line = a.line + d.nanos := by
  rw [add?_eq_ofParts? ha, ofParts?_eq_some] at h
  rw [isLeap_eq_false, line, line]
  omega

theorem add?_eq_none {d : Duration} (ha : a.isLeap = false) (h : a.add? d = none) :
    latest.line < a.line + d.nanos := by
  rw [add?_eq_ofParts? ha] at h
  have hs := ofParts?_eq_none (by omega) h
  have := a.first_le
  change (8210266876799 * 1000000000 + 999999999 : Int) < a.secs * 1000000000 + a.nanos + d.nanos
  omega

theorem line_le_latest (h : t.isLeap = false) : t.line ≤ latest.line :=
  (le_iff_line h isLeap_latest).1 (le_latest h)

theorem isLeap_windowEnd (ha : a.isLeap = false) (d : Duration) :
    (windowEnd a d).isLeap = false := by
  unfold windowEnd
  cases h : a.add? d with
  | none => exact isLeap_latest
  | some b => exact (add?_eq_some ha h).1

/-- **A window ends its length after its start**, or at the end of the calendar. -/
theorem line_windowEnd (ha : a.isLeap = false) (d : Duration) :
    (windowEnd a d).line = min (a.line + d.nanos) latest.line := by
  unfold windowEnd
  cases h : a.add? d with
  | none =>
    have := add?_eq_none ha h
    rw [Option.getD_none]
    omega
  | some b =>
    obtain ⟨hl, hb⟩ := add?_eq_some ha h
    have := line_le_latest hl
    rw [Option.getD_some]
    omega

theorem windowEnd_le_latest (ha : a ≤ latest) (d : Duration) : windowEnd a d ≤ latest := by
  by_cases hl : a.isLeap = false
  · exact le_latest (isLeap_windowEnd hl d)
  rw [isLeap_eq_false] at hl
  -- A leap second on the calendar is not its last second, and a sum leaves it or its second.
  have hs : a.secs < 8210266876799 := by
    change a.secs < 8210266876799 ∨ a.secs = 8210266876799 ∧ a.nanos ≤ 999999999 at ha
    omega
  unfold windowEnd
  cases h : a.add? d with
  | none => exact le_latest isLeap_latest
  | some b =>
    rw [Option.getD_some]
    by_cases hb : b.isLeap = false
    · exact le_latest hb
    · rw [isLeap_eq_false] at hb
      unfold add? at h
      dsimp only at h
      split_ifs at h <;> obtain ⟨hbs, hbn⟩ := ofParts?_eq_some.1 h
      · exact Or.inl (hbs ▸ hs)
      · omega

/-! ### Milliseconds -/

theorem ofMillis?_eq_some {ms : Int} (h : ofMillis? ms = some t) :
    t.isLeap = false ∧ t.line = ms * 1000000 := by
  obtain ⟨hs, hn⟩ := ofParts?_eq_some.1 h
  rw [isLeap_eq_false, line]
  omega

theorem millis_eq_of_ofMillis? {ms : Int} (h : ofMillis? ms = some t) : t.millis = ms := by
  obtain ⟨hs, hn⟩ := ofParts?_eq_some.1 h
  rw [millis]
  omega

/-- Only a point beyond the calendar is lost when it is kept in whole milliseconds. -/
theorem exists_ofMillis?_millis (h : t ≤ latest) : ∃ u, ofMillis? t.millis = some u := by
  change t.secs < 8210266876799 ∨ t.secs = 8210266876799 ∧ t.nanos ≤ 999999999 at h
  have := t.first_le
  have := t.nanos_lt
  cases hu : ofMillis? t.millis with
  | some u => exact ⟨u, rfl⟩
  | none =>
    have hs := ofParts?_eq_none (by omega) hu
    rw [millis] at hs
    omega

/-- Whole milliseconds cut a point down to the start of its millisecond. -/
theorem line_ofMillis?_millis {u : Timestamp} (h : ofMillis? t.millis = some u) :
    u.line = t.line / 1000000 * 1000000 := by
  rw [(ofMillis?_eq_some h).2, millis, line]
  omega

end Timestamp

end Sluice
