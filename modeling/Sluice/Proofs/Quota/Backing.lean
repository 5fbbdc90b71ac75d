import Sluice.Quota.Memory
import Sluice.Proofs.Quota.Window
import Sluice.Proofs.Time.Line
import Mathlib.Data.List.Induction

/-!
# What all bucket stores have in common

The handles of a store share a state, and every operation concerns the one bucket that it names.

* `Backing` : a state with the handles to it, and what can be seen of its buckets;
* `Backing.Lawful` : an operation finds a bucket, makes a fresh one if there is none, changes it as
  `Bucket.take` or `Bucket.correct` says and puts it back; the other buckets stay as they are;
* `Backing.look_after` : what any call does to any bucket, in one equation;
* `Backing.readable_run` : a bucket stays readable as long as no time given for it lies beyond the
  calendar;
* `Memory.lawful` : buckets in memory are kept as they are.

A kept bucket may have lost something: points in time are cut down to a multiple of
`Backing.grain`, and a point beyond the calendar is lost altogether.
-/

namespace Sluice

/-! ### Calls -/

namespace Store

/-- What can be asked of a store. -/
inductive Op where
  /-- The bucket of an id. -/
  | get (id : String)
  /-- Units of the bucket of an id. -/
  | take (id : String) (cost : UInt32)
  /-- To overwrite the bucket of an id with what the remote reported. -/
  | correct (id : String) (s : Snapshot)
  /-- All buckets. -/
  | list
  deriving DecidableEq, Repr

/-- The bucket that is asked about. -/
def Op.id? : Op → Option String
  | get id => some id
  | take id _ => some id
  | correct id _ => some id
  | list => none

/-- What becomes of the bucket that is asked about. -/
def Op.act (now : Timestamp) (b : Bucket) : Op → Bucket
  | get _ => b
  | take _ cost => (b.take cost now).2
  | correct _ s => b.correct s now
  | list => b

/-- A call of a store. -/
structure Use where
  /-- The limits for new buckets of the handle through which it is made. -/
  limits : Limits
  /-- The clock. -/
  now : Timestamp
  /-- What is asked. -/
  op : Op
  deriving DecidableEq, Repr

/-- The times of a call lie on the calendar. -/
def Use.OnCalendar (u : Use) : Prop :=
  u.now ≤ Timestamp.latest ∧ ∀ id s, u.op = .correct id s → s.resetAt ≤ Timestamp.latest

end Store

/-- The times of a bucket lie on the calendar. -/
def Bucket.OnCalendar (b : Bucket) : Prop :=
  b.resetAt ≤ Timestamp.latest ∧ b.updatedAt ≤ Timestamp.latest

open Store (Op Use)

/-- What stands behind the handles of a store. -/
structure Backing (σ : Type) where
  /-- The store through a handle that gives new buckets these limits. -/
  store : Limits → Store σ
  /-- No buckets. -/
  empty : σ
  /-- The bucket of an id, if there is one. It may have become unreadable. -/
  look : String → σ → Option (Except Failure Bucket)
  /-- What is left of a point in time that is kept. -/
  stamp : Timestamp → Except Failure Timestamp
  /-- What is left of the length of a window that is kept. -/
  span : Duration → Duration
  /-- Points in time are kept as multiples of this many nanoseconds. -/
  grain : Nat

namespace Backing

variable {σ : Type} (k : Backing σ)

/-- What is left of a bucket that is kept. -/
def keep (b : Bucket) : Except Failure Bucket := do
  let resetAt ← k.stamp b.resetAt
  let updatedAt ← k.stamp b.updatedAt
  return { b with resetAt, window := k.span b.window, updatedAt }

/-- The bucket that a call finds, a fresh one if there is none. -/
def found (limits : Limits) (now : Timestamp) (id : String) (st : σ) : Except Failure Bucket :=
  (k.look id st).getD (.ok (.fresh id limits now))

/-- An operation on the bucket of an id answers and changes the bucket that it finds as `f` says. If
it finds none that can be read, it fails and leaves everything as it was. -/
def Acts {α : Type} (limits : Limits) (now : Timestamp) (id : String)
    (op : σ → Except Failure α × σ) (f : Bucket → α × Bucket) : Prop :=
  ∀ st, match k.found limits now id st with
    | .ok b => (op st).1 = .ok (f b).1 ∧
        ∀ j, k.look j (op st).2 = if j = id then some (k.keep (f b).2) else k.look j st
    | .error e => op st = (.error e, st)

/-- **The laws of a store.** -/
structure Lawful : Prop where
  look_empty : ∀ id, k.look id k.empty = none
  get_acts : ∀ limits now id, k.Acts limits now id ((k.store limits).get now id) fun b => (b, b)
  take_acts : ∀ limits now id cost,
    k.Acts limits now id ((k.store limits).take now id cost) fun b => b.take cost now
  correct_acts : ∀ limits now id s,
    k.Acts limits now id ((k.store limits).correct now id s) fun b => ((), b.correct s now)
  keep_look : ∀ id st b, k.look id st = some (.ok b) → k.keep b = .ok b
  stamp_ok : ∀ t, t ≤ Timestamp.latest → ∃ u, u ≤ Timestamp.latest ∧ k.stamp t = .ok u
  stamp_line : ∀ t u, t.isLeap = false → k.stamp t = .ok u →
    u.isLeap = false ∧ u.line = t.line / k.grain * k.grain
  span_eq : ∀ d, d.nanos % 1000000 = 0 → d.nanos < 18446744073709551616 * 1000000 → k.span d = d
  grain_dvd : k.grain ∣ 1000000

/-! ### Runs -/

/-- The state after a call. -/
def after (u : Use) (st : σ) : σ :=
  match u.op with
  | .get id => ((k.store u.limits).get u.now id st).2
  | .take id cost => ((k.store u.limits).take u.now id cost st).2
  | .correct id s => ((k.store u.limits).correct u.now id s st).2
  | .list => st

/-- The state after some calls. -/
def run (us : List Use) : σ := us.foldl (fun st u => k.after u st) k.empty

/-- Calls with the states that they meet, the first one in `st`. -/
def traceFrom (st : σ) : List Use → List (σ × Use)
  | [] => []
  | u :: us => (st, u) :: traceFrom (k.after u st) us

/-- The calls of a run with the states that they meet. -/
def trace (us : List Use) : List (σ × Use) := k.traceFrom k.empty us

theorem run_nil : k.run [] = k.empty := rfl

theorem run_snoc (us : List Use) (u : Use) : k.run (us ++ [u]) = k.after u (k.run us) := by
  simp [run]

theorem traceFrom_snoc (st : σ) (us : List Use) (u : Use) :
    k.traceFrom st (us ++ [u]) =
      k.traceFrom st us ++ [(us.foldl (fun st u => k.after u st) st, u)] := by
  induction us generalizing st with
  | nil => rfl
  | cons v us ih => exact congrArg ((st, v) :: ·) (ih _)

theorem trace_snoc (us : List Use) (u : Use) :
    k.trace (us ++ [u]) = k.trace us ++ [(k.run us, u)] := k.traceFrom_snoc _ _ _

/-! ### Keeping points in time -/

variable {k}

theorem grain_pos (hk : k.Lawful) : 0 < k.grain := Nat.pos_of_dvd_of_pos hk.grain_dvd (by decide)

theorem grain_dvd_of_mod {n : Nat} (hk : k.Lawful) (h : n % 1000000 = 0) :
    (k.grain : Int) ∣ (n : Int) :=
  Int.natCast_dvd_natCast.2 (Nat.dvd_trans hk.grain_dvd (Nat.dvd_of_mod_eq_zero h))

/-- Whole milliseconds are kept as they are. -/
theorem stamp_of_millis (hk : k.Lawful) {ms : Int} {t : Timestamp}
    (h : Timestamp.ofMillis? ms = some t) : k.stamp t = .ok t := by
  -- What is kept of the point lies where it lies, since the grain divides a millisecond.
  obtain ⟨hleap, hline⟩ := Timestamp.ofMillis?_eq_some h
  obtain ⟨u, -, hu⟩ := hk.stamp_ok t (Timestamp.le_latest hleap)
  obtain ⟨huleap, huline⟩ := hk.stamp_line t u hleap hu
  have hdvd : (k.grain : Int) ∣ t.line := by
    rw [hline]
    exact Int.dvd_trans (grain_dvd_of_mod hk (n := 1000000) rfl) (Int.dvd_mul_left _ _)
  rw [Int.ediv_mul_cancel hdvd] at huline
  rw [hu, Timestamp.eq_of_line huleap hleap huline]

/-! ### Finding a bucket -/

section Found

variable {limits : Limits} {now : Timestamp} {id : String} {st : σ}

theorem found_of_look {r : Except Failure Bucket} (h : k.look id st = some r) :
    k.found limits now id st = r := by
  unfold found
  rw [h, Option.getD_some]

theorem found_of_absent (h : k.look id st = none) :
    k.found limits now id st = .ok (.fresh id limits now) := by
  unfold found
  rw [h, Option.getD_none]

/-- A bucket that is found is there, or it is fresh. -/
theorem found_eq_ok {b : Bucket} (h : k.found limits now id st = .ok b) :
    k.look id st = some (.ok b) ∨ k.look id st = none ∧ b = .fresh id limits now := by
  cases hl : k.look id st with
  | none =>
    rw [found_of_absent hl] at h
    exact Or.inr ⟨rfl, (Except.ok.inj h).symm⟩
  | some r =>
    rw [found_of_look hl] at h
    exact Or.inl (congrArg some h)

/-- Only a bucket that is there can be unreadable. -/
theorem found_eq_error {e : Failure} (h : k.found limits now id st = .error e) :
    k.look id st = some (.error e) := by
  cases hl : k.look id st with
  | none =>
    rw [found_of_absent hl] at h
    cases h
  | some r =>
    rw [found_of_look hl] at h
    exact congrArg some h

end Found

/-! ### What a call does to a bucket -/

/-- A bucket can be kept if its points in time can. -/
theorem exists_keep {b : Bucket} {r u : Timestamp} (hr : k.stamp b.resetAt = .ok r)
    (hu : k.stamp b.updatedAt = .ok u) :
    ∃ c, k.keep b = .ok c ∧ c.resetAt = r ∧ c.updatedAt = u := by
  refine ⟨{ b with resetAt := r, window := k.span b.window, updatedAt := u }, ?_, rfl, rfl⟩
  unfold keep
  rw [hr, hu]
  rfl

theorem keep_ok {b c : Bucket} (h : k.keep b = .ok c) :
    k.stamp b.resetAt = .ok c.resetAt ∧ k.stamp b.updatedAt = .ok c.updatedAt ∧
      c.window = k.span b.window ∧ c.limit = b.limit ∧ c.remaining = b.remaining := by
  unfold keep at h
  cases hr : k.stamp b.resetAt with
  | error e => rw [hr] at h; cases h
  | ok r =>
    cases hu : k.stamp b.updatedAt with
    | error e => rw [hr, hu] at h; cases h
    | ok u =>
      rw [hr, hu] at h
      cases h
      exact ⟨rfl, rfl, rfl, rfl, rfl⟩

/-- An operation on a bucket changes no other, and its own as `f` says. -/
theorem Acts.look {α : Type} {limits : Limits} {now : Timestamp} {id : String}
    {op : σ → Except Failure α × σ} {f : Bucket → α × Bucket} (h : k.Acts limits now id op f)
    (j : String) (st : σ) :
    k.look j (op st).2 = if j = id
      then some ((k.found limits now id st).bind fun b => k.keep (f b).2) else k.look j st := by
  have hst := h st
  cases hb : k.found limits now id st with
  | ok b =>
    rw [hb] at hst
    exact hst.2 j
  | error e =>
    rw [hb] at hst
    rw [hst]
    split_ifs with hj
    · subst hj
      rw [found_eq_error hb]
      rfl
    · rfl

theorem Acts.answer {α : Type} {limits : Limits} {now : Timestamp} {id : String}
    {op : σ → Except Failure α × σ} {f : Bucket → α × Bucket} (h : k.Acts limits now id op f)
    (st : σ) : (op st).1 = (k.found limits now id st).map fun b => (f b).1 := by
  have hst := h st
  cases hb : k.found limits now id st with
  | ok b => rw [hb] at hst; exact hst.1
  | error e => rw [hb] at hst; rw [hst]; rfl

/-- **What a call does to a bucket.** -/
theorem look_after (hk : k.Lawful) (u : Use) (id : String) (st : σ) :
    k.look id (k.after u st) = if u.op.id? = some id
      then some ((k.found u.limits u.now id st).bind fun b => k.keep (u.op.act u.now b))
      else k.look id st := by
  obtain ⟨limits, now, op⟩ := u
  cases op with
  | get j =>
    refine ((hk.get_acts limits now j).look id st).trans ?_
    simp only [Op.id?, Option.some.injEq, eq_comm (a := id)]
    split_ifs with h <;> simp [Op.act, h]
  | take j cost =>
    refine ((hk.take_acts limits now j cost).look id st).trans ?_
    simp only [Op.id?, Option.some.injEq, eq_comm (a := id)]
    split_ifs with h <;> simp [Op.act, h]
  | correct j s =>
    refine ((hk.correct_acts limits now j s).look id st).trans ?_
    simp only [Op.id?, Option.some.injEq, eq_comm (a := id)]
    split_ifs with h <;> simp [Op.act, h]
  | list => simp [after, Op.id?]

theorem look_after_of_keep (hk : k.Lawful) {u : Use} {id : String} {st : σ} {b c : Bucket}
    (hid : u.op.id? = some id) (hb : k.found u.limits u.now id st = .ok b)
    (hc : k.keep (u.op.act u.now b) = .ok c) : k.look id (k.after u st) = some (.ok c) := by
  rw [look_after hk, if_pos hid, hb]
  exact congrArg some hc

theorem look_eq_none_of_after (hk : k.Lawful) {id : String} {st : σ} {u : Use}
    (h : k.look id (k.after u st) = none) : k.look id st = none := by
  rw [look_after hk] at h
  split_ifs at h
  exact h

/-! ### Grants -/

variable (k) in
/-- A call is a request for units, and they are granted. -/
def grants (st : σ) (u : Use) : Bool :=
  match u.op with
  | .take id cost =>
    match ((k.store u.limits).take u.now id cost st).1 with
    | .ok o => o.isGranted
    | .error _ => false
  | _ => false

/-- A request for units is granted as soon as enough are left. -/
theorem grants_take (hk : k.Lawful) {st : σ} {u : Use} {id : String} {cost : UInt32} {b : Bucket}
    (hop : u.op = .take id cost) (hb : k.found u.limits u.now id st = .ok b) :
    k.grants st u = decide (cost ≤ b.left u.now) := by
  have hans := (hk.take_acts u.limits u.now id cost).answer st
  rw [hb] at hans
  simp only [grants, hop, hans, Except.map, Bucket.take_fst]
  split_ifs with h <;> simp [Outcome.isGranted, h]

/-! ### Reading a bucket again -/

theorem onCalendar_fresh (id : String) (limits : Limits) {now : Timestamp}
    (h : now ≤ Timestamp.latest) : (Bucket.fresh id limits now).OnCalendar :=
  ⟨Timestamp.windowEnd_le_latest h _, h⟩

theorem onCalendar_take {b : Bucket} (hb : b.OnCalendar) (cost : UInt32) {now : Timestamp}
    (h : now ≤ Timestamp.latest) : (b.take cost now).2.OnCalendar := by
  have hroll : (b.roll now).resetAt ≤ Timestamp.latest := by
    rw [Bucket.roll_resetAt]
    split_ifs
    · exact hb.1
    · exact Timestamp.windowEnd_le_latest h _
  refine ⟨by rwa [Bucket.take_resetAt], ?_⟩
  rcases b.take_updatedAt cost now with hu | hu
  · rwa [hu]
  · rw [hu]
    exact hb.2

theorem onCalendar_act {b : Bucket} (hb : b.OnCalendar) {u : Use} (hu : u.OnCalendar) :
    (u.op.act u.now b).OnCalendar := by
  obtain ⟨limits, now, op⟩ := u
  obtain ⟨hnow, hs⟩ := hu
  cases op with
  | get id => exact hb
  | take id cost => exact onCalendar_take hb cost hnow
  | correct id s => exact ⟨hs id s rfl, hnow⟩
  | list => exact hb

theorem onCalendar_keep (hk : k.Lawful) {b : Bucket} (hb : b.OnCalendar) :
    ∃ c, k.keep b = .ok c ∧ c.OnCalendar := by
  obtain ⟨r, hr, hrs⟩ := hk.stamp_ok _ hb.1
  obtain ⟨u, hu, hus⟩ := hk.stamp_ok _ hb.2
  obtain ⟨c, hc, rfl, rfl⟩ := exists_keep hrs hus
  exact ⟨c, hc, hr, hu⟩

/-- **A bucket stays readable** as long as no time given for it lies beyond the calendar. -/
theorem readable_run (hk : k.Lawful) {us : List Use} {id : String}
    (hus : ∀ u ∈ us, u.op.id? = some id → u.OnCalendar) {r : Except Failure Bucket}
    (hr : k.look id (k.run us) = some r) : ∃ b, r = .ok b ∧ b.OnCalendar := by
  induction us using List.reverseRecOn generalizing r with
  | nil => rw [run_nil, hk.look_empty] at hr; cases hr
  | append_singleton us u ih =>
    have ih := fun r => @ih (fun v hv => hus v (by simp [hv])) r
    rw [run_snoc, look_after hk] at hr
    split_ifs at hr with hid
    · have hu := hus u (by simp) hid
      have hfound : ∃ b, k.found u.limits u.now id (k.run us) = .ok b ∧ b.OnCalendar := by
        cases hl : k.look id (k.run us) with
        | none => exact ⟨_, found_of_absent hl, onCalendar_fresh id u.limits hu.1⟩
        | some r' =>
          rw [found_of_look hl]
          exact ih r' hl
      obtain ⟨b, hb, hcal⟩ := hfound
      obtain ⟨c, hc, hcal'⟩ := onCalendar_keep hk (onCalendar_act hcal hu)
      rw [hb] at hr
      exact ⟨c, by rw [← Option.some.inj hr]; exact hc, hcal'⟩
    · exact ih r hr

end Backing

/-! ### Buckets in memory -/

namespace Memory

/-- Buckets in memory, which are kept as they are. -/
def backing : Backing (Catalog Bucket) where
  store := Memory.store
  empty := .empty
  look id c := (c.find? id).map .ok
  stamp := .ok
  span := id
  grain := 1

theorem keep_eq (b : Bucket) : backing.keep b = .ok b := rfl

theorem found_eq (limits : Limits) (now : Timestamp) (id : String) (c : Catalog Bucket) :
    backing.found limits now id c = .ok (lookup limits now id c) := by
  show ((c.find? id).map Except.ok).getD _ = _
  unfold lookup
  cases c.find? id <;> rfl

theorem lawful : backing.Lawful where
  look_empty _ := rfl
  get_acts limits now id c := by
    rw [found_eq]
    refine ⟨rfl, ?_⟩
    intro j
    show ((Catalog.insert ..).find? j).map _ = _
    rw [Catalog.find?_insert]
    split_ifs <;> rfl
  take_acts limits now id cost c := by
    rw [found_eq]
    refine ⟨rfl, ?_⟩
    intro j
    show ((Catalog.insert ..).find? j).map _ = _
    rw [Catalog.find?_insert]
    split_ifs <;> rfl
  correct_acts limits now id s c := by
    rw [found_eq]
    refine ⟨rfl, ?_⟩
    intro j
    show ((Catalog.insert ..).find? j).map _ = _
    rw [Catalog.find?_insert]
    split_ifs <;> rfl
  keep_look _ _ _ _ := rfl
  stamp_ok t ht := ⟨t, ht, rfl⟩
  stamp_line t u ht h := by
    cases h
    exact ⟨ht, by simp [backing]⟩
  span_eq _ _ _ := rfl
  grain_dvd := by decide

end Memory

end Sluice
