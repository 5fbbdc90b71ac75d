import Sluice.Time.Rfc3339
import Sluice.Proofs.Text.Digits
import Sluice.Proofs.Text.Utf8
import Sluice.Proofs.Time.Calendar

/-!
# Written points in time are read again

What `Rfc3339.write` writes is read field by field; the reader is looser than the writer, so each
lemma is about a written field and whatever follows it.

* `Rfc3339.natural?_digits` : a row of digits is a number if the reader stops where the row ends;
* `Rfc3339.year?_yearChars` : years below 0 and above 9999 have a sign, and as many digits as they
  need;
* `Rfc3339.fraction?_fractionChars` : a fraction of no, three, six or nine places;
* `Timestamp.ofText?_text` : a point in time is read from its text, a leap second included;
* `Timestamp.utf8ByteSize_text_le` : the text has 33 bytes at most.
-/

namespace Sluice

namespace Rfc3339

variable {rest : List Char}

/-! ### Numbers -/

theorem isBlank_of_isDigit {c : Char} (h : c.isDigit) : Text.isBlank c = false := by
  simp only [Char.isDigit, ge_iff_le, Bool.and_eq_true, decide_eq_true_eq] at h
  have hlo : 48 ≤ c.toNat := h.1
  have hhi : c.toNat ≤ 57 := h.2
  simp only [Text.isBlank, Bool.or_eq_false_iff, Bool.and_eq_false_iff, decide_eq_false_iff_not,
    beq_eq_false_iff_ne]
  omega

theorem skip_cons {c : Char} (h : Text.isBlank c = false) : skip (c :: rest) = c :: rest := by
  rw [skip, List.dropWhile_cons_of_neg (by simp [h])]

theorem skip_append {ds : List Char} (hne : ds ≠ []) (hds : ∀ c ∈ ds, c.isDigit) :
    skip (ds ++ rest) = ds ++ rest := by
  obtain ⟨c, cs, rfl⟩ := List.exists_cons_of_ne_nil hne
  exact skip_cons (isBlank_of_isDigit (hds c List.mem_cons_self))

theorem natural?_digits {most : Nat} {ds : List Char} (hne : ds ≠ []) (hds : ∀ c ∈ ds, c.isDigit)
    (hmost : ds.length ≤ most)
    (hrest : (rest.take (most - ds.length)).takeWhile Char.isDigit = []) :
    natural? most (ds ++ rest) = some (Digits.value ds, rest) := by
  have hdigits : digits most (ds ++ rest) = ds := by
    rw [digits, List.take_append, List.take_of_length_le hmost,
      List.takeWhile_append_of_pos hds, hrest, List.append_nil]
  have hempty : ds.isEmpty = false := by simpa using hne
  simp only [natural?, hdigits, hempty, Bool.false_eq_true, if_false, List.drop_left]

/-- A number as wide as the reader reads needs no end. -/
theorem natural?_padded {width n : Nat} (hwidth : 0 < width) (h : n < 10 ^ width) :
    natural? width (Digits.padded width n ++ rest) = some (n, rest) := by
  have hlen := Digits.length_padded hwidth h
  rw [natural?_digits Digits.padded_ne_nil (fun _ => Digits.isDigit_of_mem_padded) hlen.le
    (by simp [hlen]), Digits.value_padded]

theorem number?_padded {width n : Nat} (hwidth : 0 < width) (h : n < 10 ^ width) :
    number? width (Digits.padded width n ++ rest) = some (n, rest) := by
  rw [number?, skip_append Digits.padded_ne_nil (fun _ => Digits.isDigit_of_mem_padded),
    natural?_padded hwidth h]

theorem natural?_padded_dash (n : Nat) :
    natural? (Digits.padded 4 n ++ '-' :: rest).length (Digits.padded 4 n ++ '-' :: rest) =
      some (n, '-' :: rest) := by
  rw [natural?_digits Digits.padded_ne_nil (fun _ => Digits.isDigit_of_mem_padded) (by simp),
    Digits.value_padded]
  -- The dash is the first character that the reader may still take.
  simp only [List.length_append, List.length_cons, Nat.add_sub_cancel_left, List.take_succ_cons]
  exact List.takeWhile_cons_of_neg (by decide)

/-! ### Fields -/

theorem year?_yearChars (y : Int) :
    year? (yearChars y ++ '-' :: rest) = some (y, '-' :: rest) := by
  unfold yearChars
  split_ifs with hfour hneg
  · have hlt : y.toNat < 10 ^ 4 := by omega
    have hne : Digits.padded 4 y.toNat ≠ [] := Digits.padded_ne_nil
    obtain ⟨c, cs, hcs⟩ := List.exists_cons_of_ne_nil hne
    have hc : c.isDigit := Digits.isDigit_of_mem_padded (hcs ▸ List.mem_cons_self)
    have hread : natural? 4 (Digits.padded 4 y.toNat ++ '-' :: rest) =
        some (y.toNat, '-' :: rest) :=
      natural?_padded (by decide) hlt
    rw [hcs] at hread ⊢
    rw [year?, List.cons_append, skip_cons (isBlank_of_isDigit hc)]
    -- A digit is no sign.
    split
    · rename_i heq
      cases heq
      exact absurd hc (by decide)
    · rename_i heq
      cases heq
      exact absurd hc (by decide)
    · rw [← List.cons_append, hread, Option.map_some]
      dsimp only
      rw [Int.toNat_of_nonneg hfour.1]
  · rw [List.cons_append, year?, skip_cons (by decide)]
    simp only [natural?_padded_dash, Option.map_some, Option.some.injEq, Prod.mk.injEq, and_true]
    omega
  · rw [List.cons_append, year?, skip_cons (by decide)]
    simp only [natural?_padded_dash, Option.map_some, Option.some.injEq, Prod.mk.injEq, and_true]
    omega

theorem mark?_self {m : Char} (h : Text.isBlank m = false) : mark? m (m :: rest) = some rest := by
  rw [mark?, skip_cons h]
  exact if_pos rfl

/-- A fraction written with `width` places is filled up to nine. -/
theorem fraction?_padded {width n : Nat} (hwidth : 0 < width) (hnine : width ≤ 9)
    (h : n < 10 ^ width) (hrest : rest.takeWhile Char.isDigit = []) :
    fraction? ('.' :: Digits.padded width n ++ rest) = some (10 ^ (9 - width) * n, rest) := by
  have hlen := Digits.length_padded hwidth h
  have hds : (Digits.padded width n ++ rest).takeWhile Char.isDigit = Digits.padded width n := by
    rw [List.takeWhile_append_of_pos fun _ => Digits.isDigit_of_mem_padded, hrest, List.append_nil]
  have hempty : (Digits.padded width n).isEmpty = false := by simpa using Digits.padded_ne_nil
  have htake : (Digits.padded width n ++ List.replicate 9 '0').take 9 =
      Digits.padded width n ++ List.replicate (9 - width) '0' := by
    rw [List.take_append, List.take_of_length_le (hlen.trans_le hnine), hlen, List.take_replicate,
      Nat.min_eq_left (by omega)]
  simp only [fraction?, List.cons_append, hds, hempty, Bool.false_eq_true, if_false, htake,
    Digits.value_append_zeros, Digits.value_padded, List.drop_left]

theorem fraction?_fractionChars {nanos : Nat} (h : nanos < 1000000000) :
    fraction? (fractionChars nanos ++ ['Z']) = some (nanos, ['Z']) := by
  have hstop : ['Z'].takeWhile Char.isDigit = [] := by decide
  unfold fractionChars
  split_ifs with h0 h3 h6
  · rw [h0]
    rfl
  · rw [fraction?_padded (by decide) (by decide) (by omega) hstop]
    congr 2
    omega
  · rw [fraction?_padded (by decide) (by decide) (by omega) hstop]
    congr 2
    omega
  · rw [fraction?_padded (by decide) (by decide) (by omega) hstop]
    congr 2
    omega

/-! ### Points in time -/

theorem isDate_date (t : Timestamp) : isDate t.date := by
  have hfirst := t.first_le
  have hlast := t.le_last
  have hyear : -262143 ≤ t.date.year ∧ t.date.year ≤ 262142 :=
    Calendar.year_dateOf (by omega) (by omega)
  have hvalid : Calendar.isValid t.date := Calendar.isValid_dateOf _
  rw [isDate, hvalid, Bool.and_true, Bool.and_eq_true, decide_eq_true_eq, decide_eq_true_eq]
  exact hyear

theorem lt_of_isValid {d : Date} (h : Calendar.isValid d) : d.month < 10 ^ 2 ∧ d.day < 10 ^ 2 := by
  simp only [Calendar.isValid, Bool.and_eq_true, decide_eq_true_eq] at h
  obtain ⟨hone, hle⟩ := h
  unfold Calendar.daysInMonth at hle
  split at hle
  · split_ifs at hle <;> omega
  all_goals omega

/-- The parts of the clock make up the second of the day. -/
theorem clock_eq {t : Timestamp} {hour minute second : Nat}
    (h : t.clock = (hour, minute, second)) :
    hour < 24 ∧ minute < 60 ∧ second < 60 ∧
      t.secs = t.secs / 86400 * 86400 + (hour * 3600 + minute * 60 + second : Nat) := by
  simp only [Timestamp.clock, Prod.mk.injEq] at h
  omega

/-- The second 60 is the last second of its minute and a thousand million nanoseconds. -/
theorem ofParts?_leap (t : Timestamp) {second : Nat} {secs : Int} {nanos : Nat}
    (hsecond : second < 60) (hface : t.secs % 60 = second)
    (hsecs : secs = t.secs + ((second + t.nanos / 1000000000 -
      (second + t.nanos / 1000000000) / 60 : Nat) - second))
    (hnanos : nanos = t.nanos % 1000000000 + (second + t.nanos / 1000000000) / 60 * 1000000000) :
    Timestamp.ofParts? secs nanos = some t := by
  have hlt := t.nanos_lt
  have hleap := t.leap
  obtain ⟨rfl, rfl⟩ : secs = t.secs ∧ nanos = t.nanos := by
    -- Within a leap second the minute has 59 behind it; without, the clock face shows the second.
    rcases hleap with hleap | hleap
    all_goals constructor <;> omega
  exact dif_pos ⟨t.first_le, t.le_last, hlt, hleap⟩

theorem write_eq {t : Timestamp} {hour minute second : Nat}
    (h : t.clock = (hour, minute, second)) :
    write t = yearChars t.date.year ++ '-' :: (Digits.padded 2 t.date.month ++ '-' ::
      (Digits.padded 2 t.date.day ++ 'T' :: (Digits.padded 2 hour ++ ':' ::
        (Digits.padded 2 minute ++ ':' :: (Digits.padded 2 (second + t.nanos / 1000000000) ++
          (fractionChars (t.nanos % 1000000000) ++ ['Z'])))))) := by
  unfold write fields dateChars clockChars
  rw [h]
  simp

theorem read?_write (t : Timestamp) : read? (write t) = some t := by
  obtain ⟨hour, minute, second, hclock⟩ : ∃ h m s, t.clock = (h, m, s) := ⟨_, _, _, rfl⟩
  obtain ⟨hhour, hminute, hsecond, hsecs⟩ := clock_eq hclock
  have hnanos := t.nanos_lt
  have hdate := isDate_date t
  have hvalid : Calendar.isValid t.date := Calendar.isValid_dateOf _
  obtain ⟨hmonth, hday⟩ := lt_of_isValid hvalid
  have hdash (r : List Char) : mark? '-' ('-' :: r) = some r := mark?_self (by decide)
  have hcolon (r : List Char) : mark? ':' (':' :: r) = some r := mark?_self (by decide)
  have htwo {n : Nat} (h : n < 10 ^ 2) (r : List Char) :
      number? 2 (Digits.padded 2 n ++ r) = some (n, r) := number?_padded (by decide) h
  have hzone : zone? ['Z'] = some (0, []) := rfl
  have hend : (skip []).isEmpty := rfl
  -- Date and separator first: the reader takes three separators, which `rw` cannot pass.
  rw [write_eq hclock, read?, year?_yearChars]
  dsimp only [Option.bind_eq_bind, Option.bind_some]
  simp only [hdash, Option.bind_some, htwo hmonth, htwo hday]
  rw [htwo (by omega), Option.bind_some, hcolon, Option.bind_some, htwo (by omega),
    Option.bind_some, hcolon, Option.bind_some, htwo (by omega), Option.bind_some,
    fraction?_fractionChars (Nat.mod_lt _ (by decide)), Option.bind_some, hzone, Option.bind_some]
  rw [if_pos ⟨hend, hdate, hhour, hminute, by omega⟩]
  refine ofParts?_leap t hsecond ?_ ?_ rfl
  · omega
  · rw [Timestamp.date, Calendar.dayNumber_dateOf]
    omega

/-! ### Lengths -/

theorem length_yearChars_le {y : Int} (h : y.natAbs < 10 ^ 6) : (yearChars y).length ≤ 7 := by
  unfold yearChars
  split_ifs with hfour
  · exact Digits.length_padded_le (by decide) (by decide) (by omega)
  all_goals exact Nat.succ_le_succ (Digits.length_padded_le (by decide) (by decide) h)

theorem length_fractionChars_le {nanos : Nat} (h : nanos < 1000000000) :
    (fractionChars nanos).length ≤ 10 := by
  unfold fractionChars
  split_ifs with h0 h3 h6
  · exact Nat.zero_le _
  all_goals exact Nat.succ_le_succ (Digits.length_padded_le (by decide) (by decide) (by omega))

/-- **The text of a point in time has 33 characters at most**, as many as a year beyond 9999 and
nine places of a second take. -/
theorem length_write_le (t : Timestamp) : (write t).length ≤ 33 := by
  obtain ⟨hour, minute, second, hclock⟩ : ∃ h m s, t.clock = (h, m, s) := ⟨_, _, _, rfl⟩
  obtain ⟨hhour, hminute, hsecond, -⟩ := clock_eq hclock
  have hnanos := t.nanos_lt
  have hdate := isDate_date t
  have hvalid : Calendar.isValid t.date := Calendar.isValid_dateOf _
  obtain ⟨hmonth, hday⟩ := lt_of_isValid hvalid
  have hyear : (yearChars t.date.year).length ≤ 7 := by
    simp only [isDate, Bool.and_eq_true, decide_eq_true_eq] at hdate
    exact length_yearChars_le (by omega)
  have hfraction : (fractionChars (t.nanos % 1000000000)).length ≤ 10 :=
    length_fractionChars_le (Nat.mod_lt _ (by decide))
  have htwo {n : Nat} (h : n < 10 ^ 2) : (Digits.padded 2 n).length = 2 :=
    Digits.length_padded (by decide) h
  rw [write_eq hclock]
  simp only [List.length_append, List.length_cons, List.length_nil]
  rw [htwo hmonth, htwo hday, htwo (by omega), htwo (by omega), htwo (by omega)]
  omega

theorem toNat_lt_of_mem_yearChars {y : Int} : ∀ c ∈ yearChars y, c.toNat < 128 := by
  unfold yearChars
  split_ifs
  · exact fun _ => Digits.toNat_lt_of_mem_padded
  all_goals exact List.forall_mem_cons.2 ⟨by decide, fun _ => Digits.toNat_lt_of_mem_padded⟩

theorem toNat_lt_of_mem_fractionChars {nanos : Nat} : ∀ c ∈ fractionChars nanos, c.toNat < 128 := by
  unfold fractionChars
  split_ifs
  · exact List.forall_mem_nil _
  all_goals exact List.forall_mem_cons.2 ⟨by decide, fun _ => Digits.toNat_lt_of_mem_padded⟩

theorem toNat_lt_of_mem_write (t : Timestamp) : ∀ c ∈ write t, c.toNat < 128 := by
  obtain ⟨hour, minute, second, hclock⟩ : ∃ h m s, t.clock = (h, m, s) := ⟨_, _, _, rfl⟩
  have hdigits (n : Nat) : ∀ c ∈ Digits.padded 2 n, c.toNat < 128 :=
    fun _ => Digits.toNat_lt_of_mem_padded
  rw [write_eq hclock]
  simp only [List.forall_mem_append, List.forall_mem_cons]
  exact ⟨toNat_lt_of_mem_yearChars, by decide, hdigits _, by decide, hdigits _, by decide,
    hdigits _, by decide, hdigits _, by decide, hdigits _, toNat_lt_of_mem_fractionChars,
    by decide, List.forall_mem_nil _⟩

end Rfc3339

/-- **A point in time is read from its text.** -/
theorem Timestamp.ofText?_text (t : Timestamp) : ofText? t.text = some t := by
  rw [ofText?, text, String.toList_ofList, Rfc3339.read?_write]

/-- **The text of a point in time has 33 bytes at most.** -/
theorem Timestamp.utf8ByteSize_text_le (t : Timestamp) : t.text.utf8ByteSize ≤ 33 := by
  rw [← Utf8.length_ofString, Utf8.ofString, text, String.toList_ofList,
    Utf8.length_encode_of_lt (Rfc3339.toNat_lt_of_mem_write t)]
  exact Rfc3339.length_write_le t

end Sluice
