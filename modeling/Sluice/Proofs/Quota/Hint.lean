import Sluice.Proofs.Quota.Rows

/-!
# Hints of denials

A denied request is told how long the window lasts. This is exact: before the window has ended the
same request is denied again, and from then on it is granted.

* `Timestamp.add?_since` : the time from one point to a later one leads from the one to the other;
* `Store.Use.Leapless`, `Backing.leapless_run` : without leap seconds in what is given to a store
  no window ends in one;
* `Bucket.take_of_denied` : a request that does not exceed the limit is denied only within a window,
  and changes nothing;
* `Store.Use.Spares` : calls that leave a bucket as it is;
* `Backing.Hints` : what a denial promises; `Store.hints_exact` : both stores keep the promise.
-/

namespace Sluice

open Store (Op Use)

/-! ### The time to a later point -/

namespace Timestamp

variable {a b t : Timestamp}

theorem not_lt_iff : ¬ a < b ↔ b ≤ a := by
  rw [lt_def, le_def]
  omega

theorem nanosSince_eq (ha : a.isLeap = false) (hb : b.isLeap = false) :
    nanosSince a b = a.line - b.line := by
  unfold nanosSince line
  rw [ha, hb]
  simp only [Bool.false_eq_true, and_false, if_false]
  omega

theorem nanos_since (ha : a.isLeap = false) (hb : b.isLeap = false) (h : b < a) :
    ((a.since b).nanos : Int) = a.line - b.line := by
  have hlt := (lt_iff_line hb ha).1 h
  have hfirst := b.first_le
  have hlast := a.le_last
  have hnanos := isLeap_eq_false.1 ha
  have hshort : a.line - b.line < 18446744073709551616 * 1000000000 - 1 := by
    rw [line, line]
    omega
  rw [since, nanosSince_eq ha hb, Duration.nanos_clamp]
  omega

theorem add?_since (ha : a.isLeap = false) (hb : b.isLeap = false) (h : b < a) :
    b.add? (a.since b) = some a := by
  have hnanos := nanos_since ha hb h
  cases hadd : b.add? (a.since b) with
  | none =>
    have hover := add?_eq_none hb hadd
    have hle := line_le_latest ha
    omega
  | some c =>
    obtain ⟨hc, hline⟩ := add?_eq_some hb hadd
    exact congrArg some (eq_of_line hc ha (by omega))

theorem since_pos (ha : a.isLeap = false) (hb : b.isLeap = false) (h : b < a) :
    0 < (a.since b).nanos := by
  have hnanos := nanos_since ha hb h
  have hlt := (lt_iff_line hb ha).1 h
  omega

end Timestamp

/-! ### Denials -/

namespace Bucket

variable {b : Bucket} {cost : UInt32} {now : Timestamp} {r : Duration}

theorem take_of_lt (hnow : now < b.resetAt) (hcost : b.remaining < cost) :
    b.take cost now = (.denied (b.resetAt.since now), b) := by
  have hroll : b.roll now = b := by
    unfold roll isOver
    simp [hnow]
  rw [take_eq, left, if_pos hnow, if_neg (UInt32.not_le.2 hcost), hroll]

/-- **A request that does not exceed the limit is denied only within a window**, with the time that
is left of the window, and changes nothing. -/
theorem take_of_denied (hcost : cost ≤ b.limit) (h : (b.take cost now).1 = .denied r) :
    now < b.resetAt ∧ b.remaining < cost ∧ r = b.resetAt.since now ∧ (b.take cost now).2 = b := by
  have hleft : ¬ cost ≤ b.left now := by
    intro hle
    rw [take_fst, if_pos hle] at h
    cases h
  have hnow : now < b.resetAt := by
    by_contra hover
    rw [left, if_neg hover] at hleft
    exact hleft hcost
  rw [left, if_pos hnow] at hleft
  have hremaining := UInt32.not_le.1 hleft
  rw [take_of_lt hnow hremaining] at h ⊢
  exact ⟨hnow, hremaining, (Outcome.denied.inj h).symm, rfl⟩

theorem take_of_le (hnow : b.resetAt ≤ now) (hcost : cost ≤ b.limit) :
    b.take cost now = (.granted (b.limit - cost), { b with
      remaining := b.limit - cost, resetAt := windowEnd now b.window, updatedAt := now }) := by
  have hover : ¬ now < b.resetAt := Timestamp.not_lt_iff.2 hnow
  have hleft : b.left now = b.limit := if_neg hover
  rw [take_eq, hleft, if_pos hcost, roll, if_pos ((isOver_iff b now).2 hover)]

end Bucket

/-! ### Calls without leap seconds -/

/-- No time that a call gives to a store is a leap second. -/
def Store.Use.Leapless (u : Use) : Prop :=
  u.now.isLeap = false ∧ ∀ id s, u.op = .correct id s → s.resetAt.isLeap = false

/-- A call leaves a bucket as it is: it is about another one or about all of them, only looks, or
asks for more than there is before the window has ended. -/
def Store.Use.Spares (id : String) (b : Bucket) (u : Use) : Prop :=
  u.op.id? = some id → u.op = .get id ∨
    ∃ cost, u.op = .take id cost ∧ u.now < b.resetAt ∧ b.remaining < cost

namespace Backing

variable {σ : Type} {k : Backing σ} {us vs : List Use} {u : Use} {id : String} {st : σ}
  {b c : Bucket} {limits : Limits} {now : Timestamp} {cost : UInt32}

theorem isLeap_resetAt_act (hu : u.Leapless) (hb : b.resetAt.isLeap = false) :
    (u.op.act u.now b).resetAt.isLeap = false := by
  obtain ⟨limits, now, op⟩ := u
  cases op with
  | get id => exact hb
  | take id cost =>
    change (b.take cost now).2.resetAt.isLeap = false
    rw [Bucket.take_resetAt, Bucket.roll_resetAt]
    split_ifs
    · exact hb
    · exact Timestamp.isLeap_windowEnd hu.1 _
  | correct id s => exact hu.2 id s rfl
  | list => exact hb

theorem isLeap_resetAt_keep (hk : k.Lawful) (hb : b.resetAt.isLeap = false)
    (hc : k.keep b = .ok c) : c.resetAt.isLeap = false :=
  (hk.stamp_line _ _ hb (keep_ok hc).1).1

/-- **Without leap seconds in what is given to a store no window ends in one.** -/
theorem leapless_run (hk : k.Lawful) (hus : ∀ u ∈ us, u.Leapless)
    (hb : k.look id (k.run us) = some (.ok b)) : b.resetAt.isLeap = false := by
  induction us using List.reverseRecOn generalizing b with
  | nil =>
    rw [run_nil, hk.look_empty] at hb
    cases hb
  | append_singleton us u ih =>
    have hu := hus u (by simp)
    have ih := fun b => @ih b fun v hv => hus v (by simp [hv])
    rw [run_snoc, look_after hk] at hb
    split_ifs at hb with hid
    · cases hf : k.found u.limits u.now id (k.run us) with
      | error e =>
        rw [hf] at hb
        cases hb
      | ok a =>
        rw [hf] at hb
        refine isLeap_resetAt_keep hk (isLeap_resetAt_act hu ?_) (Option.some.inj hb)
        rcases found_eq_ok hf with hl | ⟨-, rfl⟩
        · exact ih a hl
        · exact Timestamp.isLeap_windowEnd hu.1 _
    · exact ih b hb

/-! ### Calls that leave a bucket as it is -/

theorem look_after_of_spares (hk : k.Lawful) (hb : k.look id st = some (.ok b))
    (hu : u.Spares id b) : k.look id (k.after u st) = some (.ok b) := by
  by_cases hid : u.op.id? = some id
  · refine look_after_of_keep hk hid (found_of_look hb) ?_
    rcases hu hid with hop | ⟨cost, hop, hnow, hcost⟩
    · rw [hop]
      exact hk.keep_look _ _ _ hb
    · rw [hop]
      change k.keep (b.take cost u.now).2 = .ok b
      rw [Bucket.take_of_lt hnow hcost]
      exact hk.keep_look _ _ _ hb
  · rw [look_after hk, if_neg hid, hb]

theorem look_run_of_spares (hk : k.Lawful) (hb : k.look id (k.run us) = some (.ok b))
    (hvs : ∀ v ∈ vs, v.Spares id b) : k.look id (k.run (us ++ vs)) = some (.ok b) := by
  induction vs using List.reverseRecOn with
  | nil => rwa [List.append_nil]
  | append_singleton vs v ih =>
    rw [← List.append_assoc, run_snoc]
    exact look_after_of_spares hk (ih fun w hw => hvs w (by simp [hw])) (hvs v (by simp))

theorem take_run_of_spares (hk : k.Lawful) (hb : k.look id (k.run us) = some (.ok b))
    (hvs : ∀ v ∈ vs, v.Spares id b) (limits : Limits) (t : Timestamp) (cost : UInt32) :
    ((k.store limits).take t id cost (k.run (us ++ vs))).1 = .ok (b.take cost t).1 := by
  rw [(hk.take_acts limits t id cost).answer, found_of_look (look_run_of_spares hk hb hvs)]
  rfl

/-! ### What a denial promises -/

/-- **What a denial after some calls promises** to a request that does not exceed the limit. -/
structure Promise (k : Backing σ) (us : List Use) (id : String) (cost : UInt32) (now : Timestamp)
    (hint : Duration) (b : Bucket) : Prop where
  /-- The bucket is kept. -/
  look : k.look id (k.run us) = some (.ok b)
  /-- There is something to wait for. -/
  pos : 0 < hint.nanos
  /-- The wait leads to the end of the window. -/
  add? : now.add? hint = some b.resetAt
  /-- The denial has changed neither this bucket nor another one. -/
  unchanged : ∀ limits j,
    k.look j (k.run (us ++ [⟨limits, now, .take id cost⟩])) = k.look j (k.run us)
  /-- As long as nobody else touches the bucket, the request is granted exactly from then on. -/
  granted_iff : ∀ limits vs, (∀ v ∈ vs, v.Spares id b) → ∀ limits' t,
    (∃ n, ((k.store limits').take t id cost
        (k.run (us ++ ⟨limits, now, .take id cost⟩ :: vs))).1 = .ok (.granted n)) ↔ b.resetAt ≤ t
  /-- Before, it is denied with the time that is left. -/
  denied : ∀ limits vs, (∀ v ∈ vs, v.Spares id b) → ∀ limits' t, t < b.resetAt →
    ((k.store limits').take t id cost
      (k.run (us ++ ⟨limits, now, .take id cost⟩ :: vs))).1 = .ok (.denied (b.resetAt.since t))
  /-- The first grant starts a window with all units but those that it takes. -/
  renewed : ∀ limits vs, (∀ v ∈ vs, v.Spares id b) → ∀ limits' t, b.resetAt ≤ t →
    t ≤ Timestamp.latest → ∃ c,
      k.look id (k.run (us ++ ⟨limits, now, .take id cost⟩ :: vs ++
        [⟨limits', t, .take id cost⟩])) = some (.ok c) ∧
      c.limit = b.limit ∧ c.remaining = b.limit - cost ∧
      k.stamp (windowEnd t b.window) = .ok c.resetAt ∧
      (t.isLeap = false → c.resetAt.isLeap = false ∧ c.resetAt.line =
        min (t.line + b.window.nanos) Timestamp.latest.line / k.grain * k.grain)

/-- **Denials are exact** after some calls. -/
def Hints (k : Backing σ) (us : List Use) : Prop :=
  ∀ limits now id cost b hint, now.isLeap = false → k.found limits now id (k.run us) = .ok b →
    cost ≤ b.limit → ((k.store limits).take now id cost (k.run us)).1 = .ok (.denied hint) →
      k.Promise us id cost now hint b

/-- What a grant at the end of a window leaves. -/
theorem exists_renewed (limits : Limits) (hk : k.Lawful)
    (hb : k.look id (k.run us) = some (.ok b))
    (hcost : cost ≤ b.limit) (hnow : b.resetAt ≤ now) (hlatest : now ≤ Timestamp.latest) :
    ∃ c, k.look id (k.run (us ++ [⟨limits, now, .take id cost⟩])) = some (.ok c) ∧
      c.limit = b.limit ∧ c.remaining = b.limit - cost ∧
      k.stamp (windowEnd now b.window) = .ok c.resetAt := by
  obtain ⟨r, -, hr⟩ := hk.stamp_ok _ (Timestamp.windowEnd_le_latest hlatest b.window)
  obtain ⟨u, -, hu⟩ := hk.stamp_ok _ hlatest
  have htake := Bucket.take_of_le hnow hcost
  have hact : Op.act now b (.take id cost) = (b.take cost now).2 := rfl
  rw [htake] at hact
  obtain ⟨c, hc, hreset, -⟩ := exists_keep (k := k) (b := Op.act now b (.take id cost))
    (by rw [hact]; exact hr) (by rw [hact]; exact hu)
  obtain ⟨-, -, -, hlimit, hremaining⟩ := keep_ok hc
  refine ⟨c, ?_, by rw [hlimit, hact], by rw [hremaining, hact], by rw [hr, hreset]⟩
  rw [run_snoc]
  exact look_after_of_keep hk rfl (found_of_look hb) hc

/-- **A store that keeps its laws keeps what its denials promise.** -/
theorem hints (hk : k.Lawful) (hus : ∀ u ∈ us, u.Leapless) : k.Hints us := by
  intro limits now id cost b hint hnow hfound hcost hdenied
  rw [(hk.take_acts limits now id cost).answer, hfound] at hdenied
  obtain ⟨hlt, hremaining, rfl, hsame⟩ := Bucket.take_of_denied hcost (Except.ok.inj hdenied)
  -- A fresh bucket would have had enough.
  have hlook : k.look id (k.run us) = some (.ok b) := by
    rcases found_eq_ok hfound with hl | ⟨-, rfl⟩
    · exact hl
    · exact absurd hcost (UInt32.not_le.2 hremaining)
  have hleap := leapless_run hk hus hlook
  have hdenial (limits : Limits) : Use.Spares id b ⟨limits, now, .take id cost⟩ :=
    fun _ => Or.inr ⟨cost, rfl, hlt, hremaining⟩
  have hspares (limits : Limits) {vs : List Use} (hvs : ∀ v ∈ vs, v.Spares id b) :
      ∀ v ∈ ⟨limits, now, .take id cost⟩ :: vs, v.Spares id b :=
    List.forall_mem_cons.2 ⟨hdenial limits, hvs⟩
  refine ⟨hlook, Timestamp.since_pos hleap hnow hlt, Timestamp.add?_since hleap hnow hlt, ?_, ?_,
    ?_, ?_⟩
  · intro limits j
    by_cases hj : j = id
    · rw [hj, look_run_of_spares hk hlook (List.forall_mem_singleton.2 (hdenial limits)), hlook]
    · rw [run_snoc, look_after hk]
      exact if_neg fun hid => hj (Option.some.inj hid).symm
  · intro limits vs hvs limits' t
    rw [take_run_of_spares hk hlook (hspares limits hvs)]
    constructor
    · rintro ⟨n, hn⟩
      by_contra hle
      have hearly : t < b.resetAt := by
        by_contra hnot
        exact hle (Timestamp.not_lt_iff.1 hnot)
      rw [Bucket.take_of_lt hearly hremaining] at hn
      cases hn
    · intro hle
      exact ⟨_, by rw [Bucket.take_of_le hle hcost]⟩
  · intro limits vs hvs limits' t hearly
    rw [take_run_of_spares hk hlook (hspares limits hvs), Bucket.take_of_lt hearly hremaining]
  · intro limits vs hvs limits' t hle hlatest
    obtain ⟨c, hc, hlimit, hrem, hstamp⟩ := exists_renewed limits' hk
      (look_run_of_spares hk hlook (hspares limits hvs)) hcost hle hlatest
    refine ⟨c, hc, hlimit, hrem, hstamp, fun ht => ?_⟩
    rw [← Timestamp.line_windowEnd ht]
    exact hk.stamp_line _ _ (Timestamp.isLeap_windowEnd ht _) hstamp

end Backing

/-- **The hint of a denial is exact**, in memory and over rows: it leads to the end of the window,
and from then on the request is granted. -/
theorem Store.hints_exact {us : List Use} (hus : ∀ u ∈ us, u.Leapless) :
    Memory.backing.Hints us ∧ Ledger.backing.Hints us :=
  ⟨Backing.hints Memory.lawful hus, Backing.hints Ledger.lawful hus⟩

/-- This many nanoseconds into 1970. -/
def Timestamp.ofNanos (n : Nat) : Timestamp := (ofParts? 0 n).getD .epoch

/-- A unit a millisecond, of which the first is taken at once. -/
def Store.spent : List Use := [⟨⟨1, .ofMillis 1⟩, .ofNanos 500, .take "b" 1⟩]

/-- Rows tell a request for another unit to wait for the end of a window that they have cut down to
the first millisecond. -/
theorem Store.hints_exact_spent :
    Memory.backing.Promise spent "b" 1 (.ofNanos 600) (.clamp 999900)
        ⟨"b", 1, 0, .ofNanos 1000500, .ofMillis 1, .ofNanos 500⟩ ∧
      Ledger.backing.Promise spent "b" 1 (.ofNanos 600) (.clamp 999400)
        ⟨"b", 1, 0, .ofNanos 1000000, .ofMillis 1, .ofNanos 0⟩ := by
  have hus : ∀ u ∈ spent, u.Leapless := by
    intro u hu
    obtain rfl := List.mem_singleton.1 hu
    refine ⟨rfl, ?_⟩
    rintro id s ⟨⟩
  have hhints := Store.hints_exact hus
  exact ⟨hhints.1 ⟨1, .ofMillis 1⟩ _ _ _ _ _ rfl rfl (by decide) rfl,
    hhints.2 ⟨1, .ofMillis 1⟩ _ _ _ _ _ rfl rfl (by decide) rfl⟩

end Sluice
