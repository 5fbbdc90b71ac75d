import Sluice.Proofs.Gate.Alone
import Sluice.Proofs.Quota.Hint
import Sluice.Proofs.Time.Ahead

/-!
# A lone caller and the end of a window

A bucket in memory is empty, and nobody but one caller asks for it. The hint of every denial is the
time that is left of the window, so that no sleep leads far beyond its end. But no sleep is shorter
than a millisecond and every sleep ends at a tick: who comes between two ticks, less than a
millisecond before the end of the window, oversleeps it by up to two.

* `Gate.readmission` : by when a caller wakes that sleeps until the end of a window at most;
* `Gate.instant_wakeTick_lt` : how far a sleep can lead;
* `Crowd.take_of_lt`, `Crowd.take_of_le` : what the store answers within the window and after it;
* `Crowd.leads_sleep` : within the window a caller is sent to sleep, and for how long;
* `Crowd.Readmits` : when the caller goes home and with what;
* `Crowd.readmitted_after_reset` : with a unit, less than a millisecond after the end of the window
  or so;
* `Crowd.oversleeps_reset` : it cannot be said more sharply;
* `Crowd.not_endsAt` : where no sleep can be chosen, the caller never goes home.
-/

namespace Sluice

/-! ### How far a sleep can lead -/

namespace Gate

/-- A caller that comes at an instant, before the end of a window, is awake again before this one: a
millisecond after the end, or two after it came if it came between two ticks and less than a
millisecond before the end. -/
def readmission (start reset : Instant) : Instant :=
  if start % 1000000 = 0 ∨ start + 1000000 ≤ reset then reset + 1000000 else start + 2000000

theorem readmission_tick (t : Tick) (reset : Instant) :
    readmission t.instant reset = reset + 1000000 :=
  if_pos (Or.inl (Int.mul_emod_left _ _))

theorem readmission_eq (start reset : Int) : readmission start reset =
    if start % 1000000 = 0 ∨ start + 1000000 ≤ reset then reset + 1000000
    else start + 2000000 := rfl

theorem le_readmission (start reset : Int) : reset + 1000000 ≤ readmission start reset := by
  rw [readmission_eq]
  split_ifs <;> omega

theorem instant_atOrAfter_lt {now i : Int} {delay : Nat} (hzero : 0 ≤ now) (hnow : now < i)
    (hdelay : (delay : Int) ≤ max (i - now) 1000000) :
    Tick.instant (Tick.atOrAfter (now + delay)) < readmission now i := by
  change (((now + delay + 999999) / 1000000).toNat : Int) * 1000000 < readmission now i
  rw [readmission_eq]
  split_ifs <;> omega

variable {v : Visit} {now i : Instant} {delay : Duration}

theorem instant_wakeTick_lt (hzero : 0 ≤ now) (hnow : now < i)
    (hdelay : (delay.nanos : Int) ≤ max (i - now) 1000000) :
    Tick.instant (wakeTick v now delay) < readmission now i := by
  have hle : wakeTick v now delay ≤ Tick.atOrAfter (now + delay.nanos) := by
    refine Tick.atOrAfter_mono ?_
    cases v.deadline with
    | none => exact Int.le_refl _
    | some d => exact Int.min_le_left _ _
  exact Int.lt_of_le_of_lt (Tick.instant_mono hle) (instant_atOrAfter_lt hzero hnow hdelay)

/-- When somebody goes home who comes at an instant and waits for its deadline: at the tick of the
deadline, or at once if it has passed. -/
def lateness (start deadline : Instant) : Instant :=
  if deadline ≤ start then start else (Tick.atOrAfter deadline).instant

end Gate

namespace Crowd

variable {h : Gatehouse (Catalog Bucket)} {limits : Limits} {b : Bucket} {caller : Caller}
  {s : Standing} {v : Visit} {now i : Instant} {t : Tick} {state : Catalog Bucket} {tally : Tally}
  {d : Instant}

/-! ### An empty bucket -/

theorem take_of_lt (hstore : h.store = Memory.store limits) (hb : state.find? v.bucket = some b)
    (hempty : b.remaining = 0) (hlt : Instant.clock h.start now < b.resetAt) :
    take h now v state = (.ok (.denied (b.resetAt.since (Instant.clock h.start now))),
      state.insert v.bucket b) := by
  have hcost : b.remaining < 1 := by
    rw [hempty]
    decide
  have hbucket := b.take_of_lt hlt hcost
  unfold take
  rw [hstore]
  simp only [Memory.store, Memory.lookup, hb, Option.getD_some, hbucket]

theorem take_of_le (hstore : h.store = Memory.store limits) (hb : state.find? v.bucket = some b)
    (hlimit : 1 ≤ b.limit) (hle : b.resetAt ≤ Instant.clock h.start now) :
    ∃ state', take h now v state = (.ok (.granted (b.limit - 1)), state') := by
  have hbucket := b.take_of_le hle hlimit
  unfold take
  rw [hstore]
  simp only [Memory.store, Memory.lookup, hb, Option.getD_some, hbucket]
  exact ⟨_, rfl⟩

/-! ### Waiting for the end of the window -/

theorem mayAsk_of_not_late (hcancel : caller.cancel = none) (hl : Gate.isLate v now = false) :
    caller.mayAsk v now = true := by
  simp [Caller.mayAsk, Caller.isCancelled, hcancel, hl]

theorem toNat_sub_lt {i j k : Int} (hlater : i < j) (hsoon : i < k) :
    (k - j).toNat < (k - i).toNat :=
  (Int.toNat_lt_toNat (Int.sub_pos.2 hsoon)).2 (Int.sub_lt_sub_left hlater k)

theorem due?_wake_of_cancel (hcancel : caller.cancel = none) :
    caller.due? (.waits v (.wake t)) = some t.instant := by
  simp [Caller.due?, hcancel]

section Waiting

variable (hlatency : h.latency = 0) (hstore : h.store = Memory.store limits)
  (hcancel : caller.cancel = none)

include hlatency hstore hcancel

theorem leads_granted (hlimit : 1 ≤ b.limit) (hv : s.asking? caller 0 = some v)
    (hdue : caller.due? s = some i) (hb : state.find? v.bucket = some b)
    (hl : Gate.isLate v (max now i) = false)
    (hle : b.resetAt ≤ Instant.clock h.start (max now i)) (tally : Tally) :
    ∃ cs state' tally', Leads h (alone caller s now state tally) cs
      (alone caller (.ended (max now i) v (.granted (b.limit - 1))) (max now i) state' tally') := by
  obtain ⟨state', htake⟩ := take_of_le hstore hb hlimit hle
  exact ⟨_, _, _, leads_answered hv hdue hlatency (mayAsk_of_not_late hcancel hl) htake
    hear_granted⟩

variable (hp : h.gate.backoff.IsPossible) (hempty : b.remaining = 0)

include hp hempty

/-- **Within the window a caller is sent to sleep** until its deadline at most, and not far beyond
the end of the window. -/
theorem leads_sleep (hv : s.asking? caller 0 = some v) (hdue : caller.due? s = some i)
    (hb : state.find? v.bucket = some b) (hl : Gate.isLate v (max now i) = false)
    (hzero : 0 ≤ now) (hlt : Instant.clock h.start (max now i) < b.resetAt) (tally : Tally) :
    ∃ cs u state' tally', max (max now i) (Tick.instant u) = Tick.instant u ∧
      max now i < Tick.instant u ∧ (∀ d, v.deadline = some d → u ≤ Tick.atOrAfter d) ∧
      (b.resetAt ≤ Timestamp.latest →
        Tick.instant u < Gate.readmission (max now i) (h.start.ahead b.resetAt)) ∧
      state'.find? v.bucket = some b ∧
      Leads h (alone caller s now state tally) cs
        (alone caller (.waits { v with denials := Gate.countDenial v.denials } (.wake u))
          (max now i) state' tally') := by
  have htake := take_of_lt hstore hb hempty hlt
  have hdelay : 1000000 ≤
      (h.gate.sleep v (b.resetAt.since (Instant.clock h.start (max now i)))).nanos :=
    h.gate.le_sleep
  have hlater := Gate.lt_wakeTick hl hdelay
  refine ⟨_, _, _, _, max_eq_right (le_of_lt hlater), hlater,
    fun d hd => Gate.wakeTick_le hd, fun hreset => ?_, ?_, leads_answered hv hdue hlatency
      (mayAsk_of_not_late hcancel hl) htake (hear_of_isPossible (hp _ _))⟩
  · -- The hint does not lead beyond the end of the window, nor does a sleep that it bounds.
    have hzero : 0 ≤ max now i := le_trans hzero (le_max_left _ _)
    have hahead := Instant.ahead_clock hzero hlt hreset
    have hpos := Timestamp.ahead_pos hlt
    have hsince := Timestamp.since_le_ahead hlt
    have hsleep :=
      Gate.sleep_le (hp v.denials (b.resetAt.since (Instant.clock h.start (max now i))))
    rw [hahead] at hpos hsince
    refine Gate.instant_wakeTick_lt hzero (Int.sub_pos.1 hpos) ?_
    exact le_trans (Int.ofNat_le.2 hsleep) (by rw [Nat.cast_max]; exact max_le_max_right _ hsince)
  · rw [Catalog.find?_insert, if_pos rfl]

/-- **A caller is granted a unit** before an instant by which every sleep is over, if its deadline
is not earlier than that. -/
theorem leads_unit (hlimit : 1 ≤ b.limit) (hreset : b.resetAt ≤ Timestamp.latest) {bound : Instant}
    (hv : s.asking? caller 0 = some v) (hdue : caller.due? s = some i)
    (hd : ∀ d, v.deadline = some d → bound ≤ d) (now : Instant) (hzero : 0 ≤ now)
    (hb : state.find? v.bucket = some b) (hsoon : max now i < bound)
    (hbound : Gate.readmission (max now i) (h.start.ahead b.resetAt) ≤ bound) (tally : Tally) :
    ∃ cs at' v' state' tally', b.resetAt ≤ Instant.clock h.start at' ∧ at' < bound ∧
      Leads h (alone caller s now state tally) cs
        (alone caller (.ended at' v' (.granted (b.limit - 1))) at' state' tally') := by
  -- The attempts come later and later; only the first one may come between two ticks.
  induction hk : (bound - max now i).toNat using Nat.strongRecOn
    generalizing s v now i state tally with
  | ind k ih =>
  subst hk
  have hl : Gate.isLate v (max now i) = false :=
    Gate.isLate_eq_false.2 fun d hd' => lt_of_lt_of_le hsoon (hd d hd')
  by_cases hlt : Instant.clock h.start (max now i) < b.resetAt
  · obtain ⟨cs, u, state', tally', hmax, hlater, -, hsoon', hb', hleads⟩ :=
      leads_sleep hlatency hstore hcancel hp hempty hv hdue hb hl hzero hlt tally
    have hnear := le_trans (Gate.le_readmission _ _) hbound
    obtain ⟨cs', at', v', state'', tally'', hreset', hsoon'', hleads'⟩ :=
      ih (bound - max (max now i) u.instant).toNat (by rw [hmax]; exact toNat_sub_lt hlater hsoon)
        (v := { v with denials := Gate.countDenial v.denials }) rfl (due?_wake_of_cancel hcancel)
        hd (max now i) (le_trans hzero (le_max_left _ _)) hb'
        (by rw [hmax]; exact lt_of_lt_of_le (hsoon' hreset) hbound)
        (by rwa [hmax, Gate.readmission_tick]) tally' rfl
    exact ⟨_, at', v', state'', tally'', hreset', hsoon'', hleads.trans hleads'⟩
  · have hle := Timestamp.not_lt_iff.1 hlt
    obtain ⟨cs, state', tally', hleads⟩ :=
      leads_granted hlatency hstore hcancel hlimit hv hdue hb hl hle tally
    exact ⟨_, _, _, _, _, hle, hsoon, hleads⟩

/-- **A caller goes home at its deadline** if the window does not end before. -/
theorem leads_away (hv : s.asking? caller 0 = some v) (hdue : caller.due? s = some i)
    (hd : v.deadline = some d)
    (hbefore : ∀ j, 0 ≤ j → j < d → Instant.clock h.start j < b.resetAt) (now : Instant)
    (hzero : 0 ≤ now) (hb : state.find? v.bucket = some b) (tally : Tally) :
    ∃ cs at' v' state' tally', at' = Gate.lateness (max now i) d ∧
      Leads h (alone caller s now state tally) cs
        (alone caller (.ended at' v' .late) at' state' tally') := by
  -- The attempts come later and later, the last one at the tick of the deadline.
  induction hk : (d - max now i).toNat using Nat.strongRecOn
    generalizing s v now i state tally with
  | ind k ih =>
  subst hk
  cases hl : Gate.isLate v (max now i) with
  | true =>
    refine ⟨_, _, _, _, _, ?_, leads_late hv hdue ?_ hl⟩
    · exact (if_pos (Gate.le_of_late hl hd)).symm
    · simp [Caller.isCancelled, hcancel]
  | false =>
    have hlt := Gate.lt_of_not_late hl hd
    have hzero' : 0 ≤ max now i := le_trans hzero (le_max_left _ _)
    obtain ⟨cs, u, state', tally', hmax, hlater, hle, -, hb', hleads⟩ :=
      leads_sleep hlatency hstore hcancel hp hempty hv hdue hb hl hzero (hbefore _ hzero' hlt) tally
    obtain ⟨cs', at', v', state'', tally'', hat, hleads'⟩ :=
      ih (d - max (max now i) u.instant).toNat (by rw [hmax]; exact toNat_sub_lt hlater hlt)
        (v := { v with denials := Gate.countDenial v.denials }) rfl (due?_wake_of_cancel hcancel)
        hd (max now i) hzero' hb' tally' rfl
    refine ⟨_, at', v', state'', tally'', ?_, hleads.trans hleads'⟩
    rw [hat, hmax]
    unfold Gate.lateness
    rw [if_neg (not_le_of_gt hlt)]
    split_ifs with hpast
    · exact le_antisymm (Tick.instant_mono (hle d hd)) (Tick.instant_mono (Tick.atOrAfter_le hpast))
    · rfl

end Waiting

/-! ### The end of the window -/

/-- A caller that comes alone goes home at an instant with a verdict. -/
def EndsAt {σ : Type} (h : Gatehouse σ) (caller : Caller) (state : σ) (at' : Instant)
    (verdict : Verdict) : Prop :=
  ∃ fuel v, ((ofCallers [caller] state).run h fuel).callers = [(caller, .ended at' v verdict)]

theorem Leads.endsAt {σ : Type} {h : Gatehouse σ} {state state' : σ} {cs : List Call}
    {at' : Instant} {verdict : Verdict} {tally : Tally}
    (hl : Leads h (alone caller .coming 0 state .zero) cs
      (alone caller (.ended at' v verdict) at' state' tally)) :
    EndsAt h caller state at' verdict := by
  obtain ⟨fuel, hrun, -⟩ := hl.run
  refine ⟨fuel, v, ?_⟩
  rw [ofCallers_singleton, hrun]
  rfl

theorem EndsAt.eq {σ : Type} {h : Gatehouse σ} {state : σ} {i j : Instant} {x y : Verdict}
    (hi : EndsAt h caller state i x) (hj : EndsAt h caller state j y) : i = j := by
  obtain ⟨m, v, hm⟩ := hi
  obtain ⟨n, w, hn⟩ := hj
  have hrun := run_eq_run (next?_of_due? (h := h) hm rfl) (next?_of_due? hn rfl)
  rw [hrun, hn] at hm
  have heq := (congrArg (·.map (·.2)) hm).symm
  simp only [List.map_cons, List.map_nil, List.cons.injEq, Standing.ended.injEq, and_true] at heq
  exact heq.1

/-- **When a caller that comes to a bucket alone goes home**, and with what. The instant at which
the window of the bucket ends lies so far ahead as the clock at the start of the run says. -/
structure Readmits (h : Gatehouse (Catalog Bucket)) (state : Catalog Bucket) (id : String)
    (b : Bucket) (start : Instant) : Prop where
  /-- That is when the clock shows the end of the window, if this is not in a leap second. -/
  clock : b.resetAt.isLeap = false → ∀ i, 0 ≤ i →
    (b.resetAt ≤ Instant.clock h.start i ↔ h.start.ahead b.resetAt ≤ i)
  /-- Without a deadline, or with one that comes late enough, the caller has a unit less than a
  millisecond after that. Only if it comes between two ticks, less than a millisecond before the end
  of the window, it may be two milliseconds after it came. -/
  granted : ∀ deadline,
    (∀ d, deadline = some d → Gate.readmission start (h.start.ahead b.resetAt) ≤ d) →
      ∃ at', b.resetAt ≤ Instant.clock h.start at' ∧
        at' < Gate.readmission start (h.start.ahead b.resetAt) ∧
        EndsAt h ⟨start, id, deadline, none⟩ state at' (.granted (b.limit - 1))
  /-- If the clock does not show the end of the window before the deadline, the caller goes home
  without a unit at the tick of its deadline, or at once if it comes later. -/
  late : ∀ d, (∀ i, 0 ≤ i → i < d → Instant.clock h.start i < b.resetAt) →
    EndsAt h ⟨start, id, some d, none⟩ state (Gate.lateness start d) .late

/-- **A lone caller is readmitted when the window ends**, whenever it comes. The end of the window
has to be on the calendar, for the clock does not go beyond. -/
theorem readmitted_after_reset (h : Gatehouse (Catalog Bucket)) (hlatency : h.latency = 0)
    (hp : h.gate.backoff.IsPossible) (hstore : h.store = Memory.store limits)
    (state : Catalog Bucket) (id : String) (b : Bucket) (hb : state.find? id = some b)
    (hlimit : 1 ≤ b.limit) (hempty : b.remaining = 0) (start : Instant) (hstart : 0 ≤ start)
    (hlt : Instant.clock h.start start < b.resetAt) (hreset : b.resetAt ≤ Timestamp.latest) :
    Readmits h state id b start := by
  have hcancel (deadline : Option Instant) : (Caller.mk start id deadline none).cancel = none := rfl
  have hmax : max 0 start = start := max_eq_right hstart
  have hahead := Timestamp.ahead_pos hlt
  rw [Instant.ahead_clock hstart hlt hreset] at hahead
  refine ⟨fun hleap i hi => Instant.le_clock_iff hi hleap, fun deadline hd => ?_,
    fun d hbefore => ?_⟩
  -- Granted: from its first attempt on all its sleeps are over before `Gate.readmission`.
  · have hnear := Gate.le_readmission start (h.start.ahead b.resetAt)
    have hbefore : start < h.start.ahead b.resetAt + 1000000 :=
      Int.lt_trans (Int.sub_pos.1 hahead) (Int.lt_add_of_pos_right _ (by decide))
    obtain ⟨cs, at', v, state', tally', hreset', hsoon', hleads⟩ :=
      leads_unit hlatency hstore (hcancel deadline) hp hempty hlimit hreset (s := .coming) rfl rfl
        hd 0 (le_refl 0) hb (by rw [hmax]; exact lt_of_lt_of_le hbefore hnear) (by rw [hmax]) .zero
    exact ⟨at', hreset', hsoon', hleads.endsAt⟩
  · obtain ⟨cs, at', v, state', tally', hat, hleads⟩ :=
      leads_away hlatency hstore (hcancel (some d)) hp hempty (s := .coming) rfl rfl rfl hbefore 0
        (le_refl 0) hb .zero
    rw [hmax] at hat
    exact hat ▸ hleads.endsAt

/-- A bucket of one unit that is empty for a while. -/
def drained (r : Timestamp) : Bucket := ⟨"b", 1, 0, r, .ofMillis 1000, .epoch⟩

/-- A gate without chance before a store in memory. -/
def memoryHouse (b : Backoff) : Gatehouse (Catalog Bucket) :=
  ⟨⟨b, fun _ _ => 0⟩, Memory.store .standard, .epoch, 0⟩

/-- A caller that comes more than three milliseconds after the start, between two ticks, to a window
that ends between two ticks. -/
theorem readmitted_after_reset_drained :
    let h := memoryHouse .standard
    let b := drained (.ofNanos 700500000)
    let state := Catalog.empty.insert "b" b
    (h.latency = 0 ∧ h.gate.backoff.IsPossible ∧ h.store = Memory.store .standard ∧
      state.find? "b" = some b ∧ 1 ≤ b.limit ∧ b.remaining = 0 ∧
      0 ≤ (3300000 : Instant) ∧ Instant.clock h.start 3300000 < b.resetAt ∧
      b.resetAt ≤ Timestamp.latest) ∧ Readmits h state "b" b 3300000 := by
  have hp : Backoff.standard.IsPossible := Backoff.isPossible (by decide)
  refine ⟨⟨rfl, hp, rfl, rfl, by decide, rfl, by decide, by decide, by decide⟩, ?_⟩
  exact readmitted_after_reset (memoryHouse .standard) rfl hp rfl _ _ _ rfl (by decide) rfl
    3300000 (by decide) (by decide) (by decide)

/-- **A caller may oversleep the end of a window by more than a millisecond.** Of a window that ends
after 0.9 milliseconds a caller that comes after 0.3 hears that 0.6 are left. It sleeps for a
millisecond until the next tick, which is the second one. -/
theorem oversleeps_reset :
    let h := memoryHouse .standard
    let b := drained (.ofNanos 900000)
    let caller : Caller := ⟨300000, "b", none, none⟩
    let state := Catalog.empty.insert "b" b
    h.start.ahead b.resetAt = 900000 ∧ Instant.clock h.start caller.start < b.resetAt ∧
      EndsAt h caller state 2000000 (.granted 0) ∧
      ∀ at' verdict, EndsAt h caller state at' verdict →
        h.start.ahead b.resetAt + 1000000 < at' := by
  have hends : EndsAt (memoryHouse .standard) ⟨300000, "b", none, none⟩
      (Catalog.empty.insert "b" (drained (.ofNanos 900000))) 2000000 (.granted 0) :=
    ⟨4, ⟨0, "b", none, 1⟩, by decide +kernel⟩
  refine ⟨by decide, by decide, hends, fun at' verdict h => ?_⟩
  rw [h.eq hends]
  decide

/-- A caller that cannot choose a sleep never goes home. -/
theorem not_endsAt {at' : Instant} {verdict : Verdict} (hlatency : h.latency = 0)
    (hstart : 0 ≤ caller.start)
    (hstore : h.store = Memory.store limits) (hcancel : caller.cancel = none)
    (hempty : b.remaining = 0) (hb : state.find? caller.bucket = some b)
    (hl : Gate.isLate (caller.visit 0) caller.start = false)
    (hlt : Instant.clock h.start caller.start < b.resetAt)
    (hp : (h.gate.backoff.spread (caller.visit 0).denials
      (b.resetAt.since (Instant.clock h.start caller.start))).isPossible = false) :
    ¬ EndsAt h caller state at' verdict := by
  rintro ⟨fuel, v, hrun⟩
  exact never_home hlatency hstart (mayAsk_of_not_late hcancel hl)
    (take_of_lt hstore hb hempty hlt) hp fuel at' v verdict hrun

end Crowd

end Sluice
