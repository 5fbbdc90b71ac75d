import Sluice.Proofs.Quota.Rows
import Mathlib.Algebra.Order.Ring.Int

/-!
# Bursts

A window starts with the first call after the end of the one before, so an interval of time may
meet the windows of a bucket anywhere. An interval as long as `n` windows meets at most `n + 1` of
them, and sees at most `n + 1` times the limit.

* `Backing.kept_end` : a window whose end is cut down still lasts as long as from any multiple of
  the grain before its start, unless the calendar ends first;
* `Bucket.Paced` : the windows that an interval has met so far; `Bucket.Paced.take` carries it
  through a request for a unit;
* `Store.Plain` : requests for single units of a bucket, with a clock that does not step back;
* `Store.burst_bounded` : the bound, in memory and over rows.
-/

namespace Sluice

open Store (Op Use)

/-- The start of the last millisecond of the calendar. -/
def Timestamp.brink : Int := Timestamp.latest.line / 1000000 * 1000000

/-! ### Ends of windows -/

namespace Backing

variable {σ : Type} {k : Backing σ}

theorem le_cut (hk : k.Lawful) {a x : Int} (ha : (k.grain : Int) ∣ a) (h : a ≤ x) :
    a ≤ x / k.grain * k.grain := by
  have hpos : (0 : Int) < k.grain := Int.natCast_pos.2 (grain_pos hk)
  calc a = a / k.grain * k.grain := (Int.ediv_mul_cancel ha).symm
    _ ≤ x / k.grain * k.grain :=
      Int.mul_le_mul_of_nonneg_right (Int.ediv_le_ediv hpos h) (Int.le_of_lt hpos)

theorem grain_dvd_of_keep (hk : k.Lawful) {b : Bucket} (hl : b.resetAt.isLeap = false)
    (h : k.keep b = .ok b) : (k.grain : Int) ∣ b.resetAt.line := by
  have hline := (hk.stamp_line _ _ hl (keep_ok h).1).2
  exact Dvd.intro_left _ hline.symm

theorem brink_le_cut (hk : k.Lawful) {x : Int} (h : Timestamp.latest.line ≤ x) :
    Timestamp.brink ≤ x / k.grain * k.grain := by
  have hdvd := grain_dvd_of_mod hk (n := 1000000) rfl
  refine le_cut hk (hdvd.trans (Int.dvd_mul_left _ _)) (Int.le_trans ?_ h)
  decide

/-- **A kept window lasts its length** from any multiple of the grain before its start, unless the
calendar ends first. -/
theorem kept_end (hk : k.Lawful) {now r : Timestamp} {w : Duration} (hw : w.nanos % 1000000 = 0)
    (hnow : now.isLeap = false) (hr : k.stamp (windowEnd now w) = .ok r) {a : Int}
    (ha : (k.grain : Int) ∣ a) (hle : a ≤ now.line) :
    a + w.nanos ≤ r.line ∨ Timestamp.brink ≤ r.line := by
  rw [(hk.stamp_line _ _ (Timestamp.isLeap_windowEnd hnow w) hr).2,
    Timestamp.line_windowEnd hnow w]
  rcases Int.le_total (now.line + w.nanos) Timestamp.latest.line with h | h
  · left
    rw [Int.min_eq_left h]
    exact le_cut hk (Int.dvd_add ha (grain_dvd_of_mod hk hw)) (by omega)
  · right
    rw [Int.min_eq_right h]
    exact brink_le_cut hk (Int.le_refl _)

theorem lt_kept_end (hk : k.Lawful) {now r : Timestamp} {w : Duration} (hw : w.nanos % 1000000 = 0)
    (hpos : 0 < w.nanos) (hnow : now.isLeap = false) (hr : k.stamp (windowEnd now w) = .ok r) :
    now.line < r.line ∨ Timestamp.brink ≤ r.line := by
  -- The last multiple of the grain before the start is less than a grain away.
  have hg : (0 : Int) < k.grain := Int.natCast_pos.2 (grain_pos hk)
  have hgw : k.grain ≤ w.nanos :=
    Nat.le_of_dvd hpos (hk.grain_dvd.trans (Nat.dvd_of_mod_eq_zero hw))
  have hlt : now.line < (now.line / k.grain + 1) * k.grain := Int.lt_ediv_add_one_mul_self _ hg
  rw [Int.add_mul, Int.one_mul] at hlt
  refine (kept_end hk hw hnow hr (Int.dvd_mul_left _ _) (Int.ediv_mul_le _ (by omega))).imp_left ?_
  intro h
  omega

end Backing

/-! ### Buckets at a steady pace -/

namespace Bucket

/-- A bucket that has its limits from the store, and no correction. -/
structure Steady (limits : Limits) (b : Bucket) : Prop where
  limit_eq : b.limit = limits.limit
  remaining_le : b.remaining ≤ b.limit
  isLeap_resetAt : b.resetAt.isLeap = false
  /-- A window that is too long to be kept never ends. -/
  window_eq : (b.window = limits.window ∧ limits.window.nanos < 18446744073709551616 * 1000000) ∨
    Timestamp.brink ≤ b.resetAt.line

variable {limits : Limits} {now : Timestamp} {b c : Bucket}

theorem steady_fresh (id : String) (hnow : now.isLeap = false) :
    (Bucket.fresh id limits now).Steady limits := by
  refine ⟨rfl, UInt32.le_refl _, Timestamp.isLeap_windowEnd hnow _, ?_⟩
  by_cases hw : limits.window.nanos < 18446744073709551616 * 1000000
  · exact Or.inl ⟨rfl, hw⟩
  · -- A window that is too long to be kept reaches past the end of the calendar from anywhere.
    right
    show Timestamp.brink ≤ (windowEnd now limits.window).line
    have hfirst := now.first_le
    rw [Timestamp.line_windowEnd hnow, Timestamp.line]
    show (8210266876799999000000 : Int) ≤ min _ 8210266876799999999999
    omega

/-- Before the last millisecond a window that never ends is not over. -/
theorem Steady.window_of_not_lt (hb : b.Steady limits) (hnow : now.isLeap = false)
    (hbrink : now.line < Timestamp.brink) (h : ¬ now < b.resetAt) : b.window = limits.window := by
  rw [Timestamp.lt_iff_line hnow hb.isLeap_resetAt] at h
  rcases hb.window_eq with hw | hr
  · exact hw.1
  · omega

theorem Steady.take (hb : b.Steady limits) (hnow : now.isLeap = false)
    (hbrink : now.line < Timestamp.brink) : (b.take 1 now).2.Steady limits := by
  have hle := b.left_le now hb.remaining_le
  refine ⟨by rw [take_limit, hb.limit_eq], ?_, ?_, ?_⟩
  · rw [take_remaining, take_limit]
    split_ifs with h
    · have := b.toNat_left 1 now h
      rw [UInt32.le_iff_toNat_le] at hle ⊢
      omega
    · exact hle
  · rw [take_resetAt, roll_resetAt]
    split_ifs
    · exact hb.isLeap_resetAt
    · exact Timestamp.isLeap_windowEnd hnow _
  · rw [take_window, take_resetAt, roll_resetAt]
    refine hb.window_eq.imp_right fun hr => ?_
    rwa [if_pos]
    rw [Timestamp.lt_iff_line hnow hb.isLeap_resetAt]
    omega

theorem Steady.keep {σ : Type} {k : Backing σ} (hk : k.Lawful) (hb : b.Steady limits)
    (hw : limits.window.nanos % 1000000 = 0) (hc : k.keep b = .ok c) : c.Steady limits := by
  obtain ⟨hr, -, hwin, hl, hrem⟩ := Backing.keep_ok hc
  obtain ⟨hleap, hline⟩ := hk.stamp_line _ _ hb.isLeap_resetAt hr
  refine ⟨hl.trans hb.limit_eq, by rw [hrem, hl]; exact hb.remaining_le, hleap, ?_⟩
  rcases hb.window_eq with ⟨hbw, hlt⟩ | hr
  · exact Or.inl ⟨by rw [hwin, hbw, hk.span_eq _ hw hlt], hlt⟩
  · right
    rw [hline]
    exact Backing.le_cut hk
      ((Backing.grain_dvd_of_mod hk (n := 1000000) rfl).trans (Int.dvd_mul_left _ _)) hr

/-- What `count` grants from the time `t` on and the units left make up at most the limits of the
windows met since, and the last of these has not ended too soon. -/
def Paced (limits : Limits) (t : Int) (n count : Nat) (b : Bucket) : Prop :=
  count = 0 ∨ ∃ i ≤ n, count + b.remaining.toNat ≤ (i + 1) * limits.limit.toNat ∧
    (t + i * limits.window.nanos < b.resetAt.line ∨ Timestamp.brink ≤ b.resetAt.line)

theorem Steady.toNat_left_le (hb : b.Steady limits) (now : Timestamp) :
    (b.left now).toNat ≤ limits.limit.toNat := by
  rw [← UInt32.le_iff_toNat_le, ← hb.limit_eq]
  exact b.left_le now hb.remaining_le

section Take

variable {σ : Type} {k : Backing σ} {t : Int} {n count : Nat} (hk : k.Lawful)
  (hw : limits.window.nanos % 1000000 = 0) (hpos : 0 < limits.window.nanos)
  (hnow : now.isLeap = false) (ht : t ≤ now.line)

include hk hw hpos hnow ht

/-- The first window that an interval meets, if it begins now. -/
theorem paced_of_kept_end (hb : b.Steady limits)
    (hend : k.stamp (windowEnd now limits.window) = .ok c.resetAt)
    (hrem : c.remaining = (b.take 1 now).2.remaining) :
    c.Paced limits t n (0 + if 1 ≤ b.left now then 1 else 0) := by
  refine Or.inr ⟨0, Nat.zero_le _, ?_, ?_⟩
  · have hle := hb.toNat_left_le now
    rw [hrem, granted_add_remaining]
    omega
  · refine (Backing.lt_kept_end hk hw hpos hnow hend).imp_left fun h => ?_
    rw [Int.natCast_zero, Int.zero_mul]
    omega

/-- **A request for a unit stays at the pace** of the windows that the interval meets. -/
theorem Paced.take (hp : b.Paced limits t n count) (hb : b.Steady limits)
    (hkeep : k.keep b = .ok b) (hbrink : now.line < Timestamp.brink)
    (hn : now.line < t + n * limits.window.nanos) (hc : k.keep (b.take 1 now).2 = .ok c) :
    c.Paced limits t n (count + if 1 ≤ b.left now then 1 else 0) := by
  obtain ⟨hend, -, -, -, hrem⟩ := Backing.keep_ok hc
  have hsum := granted_add_remaining b now count
  have hleft := hb.toNat_left_le now
  rw [take_resetAt, roll_resetAt] at hend
  by_cases hin : now < b.resetAt
  · -- The window goes on, and its end has been kept before.
    rw [if_pos hin, (Backing.keep_ok hkeep).1] at hend
    have hreset := Except.ok.inj hend
    have hleft : b.left now = b.remaining := if_pos hin
    rw [Timestamp.lt_iff_line hnow hb.isLeap_resetAt] at hin
    rcases hp with rfl | ⟨i, hi, hle, hlast⟩
    · refine Or.inr ⟨0, Nat.zero_le _, by rw [hrem]; omega, Or.inl ?_⟩
      rw [Int.natCast_zero, Int.zero_mul, ← hreset]
      omega
    · refine Or.inr ⟨i, hi, ?_, by rwa [← hreset]⟩
      rw [hrem, hsum, hleft]
      exact hle
  · -- A window begins now, and the interval has not met it before.
    rw [if_neg hin, hb.window_of_not_lt hnow hbrink hin] at hend
    rw [Timestamp.lt_iff_line hnow hb.isLeap_resetAt] at hin
    rcases hp with rfl | ⟨i, hi, hle, hlast⟩
    · exact paced_of_kept_end hk hw hpos hnow ht hb hend hrem
    · have hstart : t + i * limits.window.nanos < b.resetAt.line := hlast.resolve_right (by omega)
      have hlater : i < n := by
        have hmul : (i : Int) * limits.window.nanos < n * limits.window.nanos := by omega
        exact Int.ofNat_lt.1 (Int.lt_of_mul_lt_mul_right hmul (by omega))
      refine Or.inr ⟨i + 1, hlater, ?_, ?_⟩
      · rw [hrem, hsum, Nat.add_mul (i + 1)]
        omega
      · have hdvd := Backing.grain_dvd_of_keep hk hb.isLeap_resetAt hkeep
        refine (Backing.kept_end hk hw hnow hend hdvd (by omega)).imp_left fun h => ?_
        rw [Int.natCast_add, Int.add_mul]
        omega

end Take

theorem Paced.count_le {limits : Limits} {t : Int} {n count : Nat} {b : Bucket}
    (h : b.Paced limits t n count) : count ≤ (n + 1) * limits.limit.toNat := by
  rcases h with rfl | ⟨i, hi, hle, -⟩
  · exact Nat.zero_le _
  · have hmul := Nat.mul_le_mul_right limits.limit.toNat (Nat.succ_le_succ hi)
    rw [Nat.succ_eq_add_one, Nat.succ_eq_add_one] at hmul
    omega

end Bucket

/-! ### Runs -/

/-- A run asks for single units of a bucket and does not correct it. Its clock does not step back,
has no leap seconds and stays before the last millisecond of the calendar. -/
structure Store.Plain (limits : Limits) (id : String) (us : List Use) : Prop where
  limits_eq : ∀ u ∈ us, u.limits = limits
  op_eq : ∀ u ∈ us, u.op.id? = some id → u.op = .get id ∨ u.op = .take id 1
  sorted : us.Pairwise fun u v => u.now ≤ v.now
  isLeap_now : ∀ u ∈ us, u.now.isLeap = false
  now_lt : ∀ u ∈ us, u.now.line < Timestamp.brink

theorem Store.Plain.of_append {limits : Limits} {id : String} {us vs : List Use}
    (h : Store.Plain limits id (us ++ vs)) : Store.Plain limits id us where
  limits_eq u hu := h.limits_eq u (List.mem_append_left _ hu)
  op_eq u hu := h.op_eq u (List.mem_append_left _ hu)
  sorted := (List.pairwise_append.1 h.sorted).1
  isLeap_now u hu := h.isLeap_now u (List.mem_append_left _ hu)
  now_lt u hu := h.now_lt u (List.mem_append_left _ hu)

theorem Store.Plain.line_le {limits : Limits} {id : String} {us : List Use} {u : Use}
    (h : Store.Plain limits id (us ++ [u])) : ∀ v ∈ us, v.now.line ≤ u.now.line := by
  intro v hv
  have hle : v.now ≤ u.now := (List.pairwise_append.1 h.sorted).2.2 v hv u (by simp)
  rwa [Timestamp.le_iff_line (h.isLeap_now v (by simp [hv])) (h.isLeap_now u (by simp))] at hle

namespace Backing

variable {σ : Type} (k : Backing σ)

/-- How many requests for units of a bucket are granted from one time on and before another. -/
def grantsWithin (id : String) (lo hi : Int) (us : List Use) : Nat :=
  (k.trace us).countP fun x =>
    x.2.op.id? = some id ∧ lo ≤ x.2.now.line ∧ x.2.now.line < hi ∧ k.grants x.1 x.2

/-- How many of them an interval as long as `n` windows sees. -/
def seen (limits : Limits) (id : String) (t : Int) (n : Nat) (us : List Use) : Nat :=
  k.grantsWithin id t (t + n * limits.window.nanos) us

variable {k} {limits : Limits} {id : String} {t hi : Int} {n : Nat} {us : List Use} {u : Use}

theorem grantsWithin_snoc (id : String) (lo hi : Int) (us : List Use) (u : Use) :
    k.grantsWithin id lo hi (us ++ [u]) = k.grantsWithin id lo hi us +
      if u.op.id? = some id ∧ lo ≤ u.now.line ∧ u.now.line < hi ∧ k.grants (k.run us) u then 1
      else 0 := by
  simp [grantsWithin, trace_snoc, List.countP_append, List.countP_singleton]

theorem grantsWithin_eq_zero (h : ∀ u ∈ us, u.now.line < t) :
    k.grantsWithin id t hi us = 0 := by
  induction us using List.reverseRecOn with
  | nil => rfl
  | append_singleton us u ih =>
    have hu := h u (by simp)
    rw [grantsWithin_snoc, ih fun v hv => h v (by simp [hv]), if_neg]
    rintro ⟨-, hle, -⟩
    omega

theorem seen_snoc : k.seen limits id t n (us ++ [u]) = k.seen limits id t n us +
    if u.op.id? = some id ∧ t ≤ u.now.line ∧ u.now.line < t + n * limits.window.nanos ∧
      k.grants (k.run us) u then 1 else 0 := grantsWithin_snoc ..

/-- What an interval of `n` windows has seen of a run. -/
structure Paces (k : Backing σ) (limits : Limits) (id : String) (t : Int) (n : Nat)
    (us : List Use) : Prop where
  absent : k.look id (k.run us) = none → k.seen limits id t n us = 0
  steady : ∀ b, k.look id (k.run us) = some (.ok b) → b.Steady limits
  /-- As long as the interval is not over, no more windows have begun than it can meet. -/
  paced : (∀ u ∈ us, u.now.line < t + n * limits.window.nanos) →
    ∀ b, k.look id (k.run us) = some (.ok b) → b.Paced limits t n (k.seen limits id t n us)
  bound : k.seen limits id t n us ≤ (n + 1) * limits.limit.toNat

theorem Paces.of_look {c : Bucket} (hl : k.look id (k.run us) = some (.ok c))
    (hc : c.Steady limits)
    (hp : (∀ u ∈ us, u.now.line < t + n * limits.window.nanos) →
      c.Paced limits t n (k.seen limits id t n us))
    (hle : k.seen limits id t n us ≤ (n + 1) * limits.limit.toNat) :
    k.Paces limits id t n us := by
  refine ⟨?_, ?_, ?_, hle⟩
  · intro h
    rw [hl] at h
    cases h
  · intro b hb
    rw [hl] at hb
    cases hb
    exact hc
  · intro hus b hb
    rw [hl] at hb
    cases hb
    exact hp hus

theorem paces_nil (hk : k.Lawful) : k.Paces limits id t n [] := by
  have hnone : k.look id (k.run []) = none := hk.look_empty id
  refine ⟨fun _ => rfl, ?_, ?_, Nat.zero_le _⟩
  · intro b hb
    rw [hnone] at hb
    cases hb
  · intro _ b hb
    rw [hnone] at hb
    cases hb

/-- The bucket that a call finds has been kept, or it is fresh and nothing has been granted. -/
theorem Paces.found (h : k.Paces limits id t n us) {now : Timestamp} {b : Bucket}
    (hnow : now.isLeap = false) (hb : k.found limits now id (k.run us) = .ok b) :
    b.Steady limits ∧ (k.look id (k.run us) = some (.ok b) ∨ b = .fresh id limits now ∧
      k.seen limits id t n us = 0) := by
  rcases found_eq_ok hb with hl | ⟨hl, rfl⟩
  · exact ⟨h.steady b hl, Or.inl hl⟩
  · exact ⟨Bucket.steady_fresh id hnow, Or.inr ⟨rfl, h.absent hl⟩⟩

theorem kept_of_plain (hk : k.Lawful) (hus : Store.Plain limits id (us ++ [u]))
    (hid : u.op.id? = some id) : ∃ b c, k.found limits u.now id (k.run us) = .ok b ∧
      k.keep (u.op.act u.now b) = .ok c ∧ k.look id (k.run (us ++ [u])) = some (.ok c) := by
  have hcal : ∀ v ∈ us ++ [u], v.op.id? = some id → v.OnCalendar := by
    intro v hv hvid
    refine ⟨Timestamp.le_latest (hus.isLeap_now v hv), ?_⟩
    intro j s hop
    rcases hus.op_eq v hv hvid with h | h
    · rw [h] at hop
      cases hop
    · rw [h] at hop
      cases hop
  have hlook := look_after hk u id (k.run us)
  rw [if_pos hid, hus.limits_eq u (by simp), ← run_snoc] at hlook
  obtain ⟨c, hc, -⟩ := readable_run hk hcal hlook
  rw [hc] at hlook
  cases hb : k.found limits u.now id (k.run us) with
  | error e =>
    rw [hb] at hc
    cases hc
  | ok b =>
    rw [hb] at hc
    exact ⟨b, c, rfl, hc, hlook⟩

section Step

variable (hk : k.Lawful) (hw : limits.window.nanos % 1000000 = 0) (hpos : 0 < limits.window.nanos)
  (h : k.Paces limits id t n us) (hus : Store.Plain limits id (us ++ [u]))

include hk h

theorem Paces.frame (hid : u.op.id? ≠ some id) : k.Paces limits id t n (us ++ [u]) := by
  have hlook : k.look id (k.run (us ++ [u])) = k.look id (k.run us) := by
    rw [run_snoc, look_after hk, if_neg hid]
  have hcount : k.seen limits id t n (us ++ [u]) = k.seen limits id t n us := by
    rw [seen_snoc, if_neg fun hc => hid hc.1, Nat.add_zero]
  refine ⟨?_, ?_, ?_, ?_⟩
  · intro hl
    rw [hcount]
    exact h.absent (hlook ▸ hl)
  · intro b hb
    exact h.steady b (hlook ▸ hb)
  · intro hin b hb
    rw [hcount]
    exact h.paced (fun v hv => hin v (by simp [hv])) b (hlook ▸ hb)
  · rw [hcount]
    exact h.bound

include hw hus

theorem Paces.get (hop : u.op = .get id) : k.Paces limits id t n (us ++ [u]) := by
  have hid : u.op.id? = some id := by rw [hop]; rfl
  have hnow := hus.isLeap_now u (by simp)
  obtain ⟨b, c, hb, hc, hlook⟩ := kept_of_plain hk hus hid
  obtain ⟨hsteady, hfound⟩ := h.found hnow hb
  rw [hop] at hc
  have hcount : k.seen limits id t n (us ++ [u]) = k.seen limits id t n us := by
    rw [seen_snoc, if_neg, Nat.add_zero]
    rintro ⟨-, -, -, hg⟩
    simp [grants, hop] at hg
  refine Paces.of_look hlook (hsteady.keep hk hw hc) ?_ (hcount ▸ h.bound)
  intro hin
  rw [hcount]
  rcases hfound with hl | ⟨-, hzero⟩
  · have hkeep := hk.keep_look _ _ _ hl
    rw [Op.act, hkeep] at hc
    cases hc
    exact h.paced (fun v hv => hin v (by simp [hv])) b hl
  · exact Or.inl hzero

include hpos

theorem Paces.paced_take (hop : u.op = .take id 1) (hlo : t ≤ u.now.line)
    (hhi : u.now.line < t + n * limits.window.nanos) {b c : Bucket}
    (hb : k.found limits u.now id (k.run us) = .ok b) (hc : k.keep (b.take 1 u.now).2 = .ok c) :
    c.Paced limits t n (k.seen limits id t n (us ++ [u])) := by
  have hid : u.op.id? = some id := by rw [hop]; rfl
  have hnow := hus.isLeap_now u (by simp)
  have hbrink := hus.now_lt u (by simp)
  have hgrants : k.grants (k.run us) u = decide (1 ≤ b.left u.now) :=
    grants_take hk hop (by rwa [hus.limits_eq u (by simp)])
  have hcount : k.seen limits id t n (us ++ [u]) =
      k.seen limits id t n us + if 1 ≤ b.left u.now then 1 else 0 := by
    rw [seen_snoc, hgrants]
    simp [hid, hlo, hhi]
  obtain ⟨hsteady, hfound⟩ := h.found hnow hb
  rw [hcount]
  rcases hfound with hl | ⟨rfl, hzero⟩
  · have hin : ∀ v ∈ us, v.now.line < t + n * limits.window.nanos := fun v hv =>
      Int.lt_of_le_of_lt (hus.line_le v hv) hhi
    have hkeep := hk.keep_look _ _ _ hl
    exact (h.paced hin b hl).take hk hw hpos hnow hlo hsteady hkeep hbrink hhi hc
  · obtain ⟨hend, -, -, -, hrem⟩ := keep_ok hc
    rw [Bucket.take_fresh_resetAt] at hend
    rw [hzero]
    exact Bucket.paced_of_kept_end hk hw hpos hnow hlo hsteady hend hrem

theorem Paces.take (hop : u.op = .take id 1) : k.Paces limits id t n (us ++ [u]) := by
  have hid : u.op.id? = some id := by rw [hop]; rfl
  have hnow := hus.isLeap_now u (by simp)
  obtain ⟨b, c, hb, hc, hlook⟩ := kept_of_plain hk hus hid
  rw [hop] at hc
  have hsteady := ((h.found hnow hb).1.take hnow (hus.now_lt u (by simp))).keep hk hw hc
  by_cases hlo : t ≤ u.now.line
  swap
  · -- The interval has not begun.
    have hzero : k.seen limits id t n (us ++ [u]) = 0 := by
      refine grantsWithin_eq_zero ?_
      intro v hv
      rcases List.mem_append.1 hv with hv | hv
      · have hle := hus.line_le v hv
        omega
      · rw [List.mem_singleton.1 hv]
        omega
    refine Paces.of_look hlook hsteady (fun _ => Or.inl hzero) ?_
    rw [hzero]
    exact Nat.zero_le _
  by_cases hhi : u.now.line < t + n * limits.window.nanos
  · have hpaced := h.paced_take hk hw hpos hus hop hlo hhi hb hc
    exact Paces.of_look hlook hsteady (fun _ => hpaced) hpaced.count_le
  · -- The interval is over.
    refine Paces.of_look hlook hsteady (fun hin => absurd (hin u (by simp)) hhi) ?_
    rw [seen_snoc, if_neg fun hc => hhi hc.2.2.1]
    exact h.bound

end Step

/-- **A plain run stays below the bound.** -/
theorem paces (hk : k.Lawful) (hw : limits.window.nanos % 1000000 = 0)
    (hpos : 0 < limits.window.nanos) (hus : Store.Plain limits id us) :
    k.Paces limits id t n us := by
  induction us using List.reverseRecOn with
  | nil => exact paces_nil hk
  | append_singleton us u ih =>
    have h := ih (hus.of_append)
    by_cases hid : u.op.id? = some id
    · rcases hus.op_eq u (by simp) hid with hop | hop
      · exact h.get hk hw hus hop
      · exact h.take hk hw hpos hus hop
    · exact h.frame hk hid

end Backing

/-- **A sliding interval as long as `n` windows sees at most `n + 1` times the limit**, in memory
and over rows, which cut the ends of windows down to milliseconds. -/
theorem Store.burst_bounded {limits : Limits} (hms : limits.window.nanos % 1000000 = 0)
    (hpos : 0 < limits.window.nanos) {id : String} {us : List Use}
    (hus : Store.Plain limits id us) (t : Int) (n : Nat) :
    Memory.backing.grantsWithin id t (t + n * limits.window.nanos) us ≤
        (n + 1) * limits.limit.toNat ∧
      Ledger.backing.grantsWithin id t (t + n * limits.window.nanos) us ≤
        (n + 1) * limits.limit.toNat :=
  ⟨(Backing.paces Memory.lawful hms hpos hus).bound,
    (Backing.paces Ledger.lawful hms hpos hus).bound⟩

/-- Requests 500, 999999 and 1000000 nanoseconds into 1970 for one unit a millisecond. -/
def Store.shortBurst : List Use :=
  [500, 999999, 1000000].map fun n =>
    ⟨⟨1, .ofMillis 1⟩, (Timestamp.ofParts? 0 n).getD .epoch, .take "b" 1⟩

theorem Store.plain_shortBurst : Store.Plain ⟨1, .ofMillis 1⟩ "b" Store.shortBurst where
  limits_eq := by decide
  op_eq := by decide
  sorted := by decide
  isLeap_now := by decide
  now_lt := by decide

/-- Rows attain the bound within a window's length, as they cut the end of the first window down. -/
theorem Store.burst_bounded_shortBurst :
    Ledger.backing.grantsWithin "b" 500 1000500 Store.shortBurst = 2 ∧
      Memory.backing.grantsWithin "b" 500 1000500 Store.shortBurst ≤ 2 ∧
      Ledger.backing.grantsWithin "b" 500 1000500 Store.shortBurst ≤ 2 :=
  ⟨by decide +kernel, Store.burst_bounded (by decide) (by decide) Store.plain_shortBurst 500 1⟩

end Sluice
