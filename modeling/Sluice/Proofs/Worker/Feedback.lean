import Sluice.Proofs.Quota.Rows
import Sluice.Worker.Basic
import Mathlib.Algebra.BigOperators.Intervals
import Mathlib.Algebra.Order.BigOperators.Group.Finset

/-!
# Limits that are fed back

A remote counts the requests that it executes, and says with each answer how many are left by its
own count. The answer to an early request knows nothing of later ones that have been admitted by
the time it is fed back, and it overwrites what the bucket knew of them.

* `Loop.step` : a request is admitted, the remote executes an admitted request, or a worker feeds
  the answer to an executed request back, in any order and with any delay;
* `Loop.State.overhang` : how many admitted requests the latest answer has not counted;
* `Loop.AccountedBy` : the units granted and the units left make up the limit and the overhang;
  `Loop.AccountedBy.step` carries it through a move;
* `Loop.grants_accounted` : so at most the limit is granted if the latest answer has counted
  everything, and in no case more than the limit, the limit less one, and so on, added up;
* `Loop.overgrants` : a remote that tells the truth, and more grants than its limit.
-/

namespace Sluice

open Store (Op Use)

/-- What becomes of the buckets when a worker processes a message. -/
theorem Worker.process_state {σ : Type} (w : Worker σ) (net : Network) (now : Timestamp)
    {message : Bytes} {r : Request} (h : Request.ofUtf8? message = some r) (st : σ)
    (tally : Tally) :
    (w.process net now message st tally).state = match (w.execute r).snapshot? now with
      | none => st
      | some s => (w.store.correct now r.bucketId s st).2 := by
  unfold Worker.process Worker.feedBack Store.correctOrCount
  rw [h]
  dsimp only
  cases (w.execute r).snapshot? now with
  | none => rfl
  | some s =>
    dsimp only
    cases w.store.correct now r.bucketId s st with
    | mk answer st' => cases answer <;> rfl

/-! ### The loop -/

/-- A remote with a limit for one window, which counts the requests that it executes. -/
structure Remote where
  /-- How many requests it executes. -/
  limit : UInt32
  /-- The end of the window. -/
  resetAt : Timestamp
  /-- The answer to the request that it executes in this place. -/
  answer : Nat → Executed

/-- The headers of a remote tell how many requests it has left, and when the window ends. -/
structure Remote.Truthful (remote : Remote) : Prop where
  answer_headers : ∀ place, 1 ≤ place → place ≤ remote.limit.toNat → ∀ now < remote.resetAt,
    Snapshot.ofHeaders? (remote.answer place).headers now =
      some ⟨remote.limit, .ofNat (remote.limit.toNat - place), remote.resetAt⟩
  /-- The end of the window is a whole number of milliseconds, as in any header that gives it. -/
  resetAt_millis : Timestamp.ofMillis? remote.resetAt.millis = some remote.resetAt

/-- Requests for one bucket, the remote that executes them, and workers that process them. -/
structure Loop where
  /-- The limits that the store gives new buckets. -/
  limits : Limits
  /-- The bucket. -/
  bucket : String
  /-- The remote. -/
  remote : Remote
  /-- The messages with the requests, in the order in which they are admitted. -/
  message : Nat → Bytes
  /-- What comes of an attempt of a worker to connect. -/
  net : Network
  /-- How the workers send responses. -/
  courier : Courier
  /-- The number of messages that a worker works on at once. -/
  width : Nat

namespace Loop

/-- An answer that has been fed back. -/
structure Notice where
  /-- The request, counted as admitted from 0. -/
  request : Nat
  /-- The place in which the remote has executed it, counted from 1. -/
  place : Nat
  /-- How many requests had been admitted when the answer was fed back. -/
  granted : Nat
  deriving DecidableEq, Repr

/-- How far everything has come. -/
structure State (σ : Type) where
  /-- The buckets. -/
  buckets : σ
  /-- What has been counted. -/
  tally : Tally
  /-- How many requests have been admitted. -/
  granted : Nat
  /-- The requests that the remote has executed, in this order. -/
  executed : List Nat
  /-- The answers that have been fed back, the latest first. -/
  notices : List Notice

/-- What may happen next. -/
inductive Move where
  /-- Somebody asks for a unit. -/
  | ask (now : Timestamp)
  /-- The remote executes an admitted request. -/
  | execute (request : Nat)
  /-- A worker feeds the answer to an executed request back. -/
  | report (now : Timestamp) (request : Nat)
  deriving DecidableEq, Repr

/-- The clock, if the store is told about the move. -/
def Move.now? : Move → Option Timestamp
  | ask now => some now
  | execute _ => none
  | report now _ => some now

variable {σ : Type} (k : Backing σ) (l : Loop)

/-- Every message holds a request for the bucket. -/
def Addressed : Prop := ∀ r, ∃ q, Request.ofUtf8? (l.message r) = some q ∧ q.bucketId = l.bucket

/-- A request for a unit of the bucket. -/
def use (now : Timestamp) : Use := ⟨l.limits, now, .take l.bucket 1⟩

/-- A worker that gets the answer to the request executed in this place. -/
def worker (place : Nat) : Worker σ :=
  ⟨fun _ => .done (l.remote.answer place), k.store l.limits, l.courier, l.width⟩

/-- The place in which a request has been executed. -/
def State.place (s : State σ) (r : Nat) : Nat := s.executed.idxOf r + 1

/-- The answer to a request can be fed back: it has been executed, and this has not happened yet. -/
def State.Open (s : State σ) (r : Nat) : Prop :=
  r ∈ s.executed ∧ r ∉ s.notices.map (·.request)

instance (s : State σ) (r : Nat) : Decidable (s.Open r) := inferInstanceAs (Decidable (_ ∧ _))

/-- Somebody asks for a unit. -/
def ask (now : Timestamp) (s : State σ) : State σ :=
  { s with
    buckets := k.after (l.use now) s.buckets
    granted := s.granted + if k.grants s.buckets (l.use now) then 1 else 0 }

/-- The remote executes a request that has been admitted, once and as long as its limit allows. -/
def execute (r : Nat) (s : State σ) : State σ :=
  if r < s.granted ∧ r ∉ s.executed ∧ s.executed.length < l.remote.limit.toNat then
    { s with executed := s.executed ++ [r] }
  else s

/-- A worker feeds the answer to an executed request back, once. -/
def report (now : Timestamp) (r : Nat) (s : State σ) : State σ :=
  if s.Open r then
    let x := (l.worker k (s.place r)).process l.net now (l.message r) s.buckets s.tally
    { s with
      buckets := x.state
      tally := x.tally
      notices := ⟨r, s.place r, s.granted⟩ :: s.notices }
  else s

/-- One move. A move that is impossible changes nothing. -/
def step (s : State σ) : Move → State σ
  | .ask now => l.ask k now s
  | .execute r => l.execute r s
  | .report now r => l.report k now r s

/-- Some moves. -/
def run (s : State σ) (moves : List Move) : State σ := moves.foldl (l.step k) s

/-- Nothing has happened yet. -/
def start (st : σ) (tally : Tally) : State σ := ⟨st, tally, 0, [], []⟩

/-- The bucket starts the window with all its units. -/
def Ready (st : σ) : Prop :=
  ∃ b, k.look l.bucket st = some (.ok b) ∧ b.limit = l.remote.limit ∧
    b.remaining = l.remote.limit ∧ b.resetAt = l.remote.resetAt

/-- How many admitted requests the latest answer has not counted. -/
def State.overhang (s : State σ) : Nat :=
  match s.notices with
  | [] => 0
  | x :: _ => x.granted - x.place

/-! ### What has been executed and fed back -/

/-- Admitted requests are executed once and fed back once. -/
structure Orderly (s : State σ) : Prop where
  lt_granted : ∀ r ∈ s.executed, r < s.granted
  nodup_executed : s.executed.Nodup
  length_le : s.executed.length ≤ l.remote.limit.toNat
  mem_executed : ∀ x ∈ s.notices, x.request ∈ s.executed
  place_eq : ∀ x ∈ s.notices, x.place = s.place x.request
  nodup_notices : (s.notices.map (·.request)).Nodup

variable {k l} {s : State σ}

theorem orderly_start (st : σ) (tally : Tally) : l.Orderly (start st tally) := by
  refine ⟨?_, List.nodup_nil, Nat.zero_le _, ?_, ?_, List.nodup_nil⟩
  · intro r hr
    cases hr
  · intro x hx
    cases hx
  · intro x hx
    cases hx

/-- More requests have been admitted than executed. -/
theorem Orderly.length_le_granted (h : l.Orderly s) : s.executed.length ≤ s.granted := by
  -- Different numbers below `granted` are at most so many.
  have hsub : s.executed ⊆ List.range s.granted := fun r hr => List.mem_range.2 (h.lt_granted r hr)
  have hle := (List.subperm_of_subset h.nodup_executed hsub).length_le
  rwa [List.length_range] at hle

theorem State.one_le_place (s : State σ) (r : Nat) : 1 ≤ s.place r := Nat.le_add_left _ _

theorem State.place_le {r : Nat} (hr : r ∈ s.executed) : s.place r ≤ s.executed.length :=
  List.idxOf_lt_length_of_mem hr

/-- A request that has been executed keeps its place. -/
theorem place_append {r q : Nat} (hr : r ∈ s.executed) :
    (s.executed ++ [q]).idxOf r + 1 = s.place r := by
  rw [List.idxOf_append_of_mem hr]
  rfl

theorem Orderly.ask (h : l.Orderly s) (now : Timestamp) : l.Orderly (l.ask k now s) :=
  { h with lt_granted := fun r hr => Nat.lt_of_lt_of_le (h.lt_granted r hr) (Nat.le_add_right _ _) }

theorem Orderly.execute (h : l.Orderly s) (r : Nat) : l.Orderly (l.execute r s) := by
  unfold Loop.execute
  split_ifs with hr
  · obtain ⟨hlt, hnew, hlen⟩ := hr
    refine ⟨?_, ?_, ?_, ?_, ?_, h.nodup_notices⟩
    · intro q hq
      rcases List.mem_append.1 hq with hq | hq
      · exact h.lt_granted q hq
      · rwa [List.mem_singleton.1 hq]
    · refine h.nodup_executed.append (List.nodup_singleton r) fun q hq hqr => hnew ?_
      rwa [← List.mem_singleton.1 hqr]
    · rw [List.length_append, List.length_singleton]
      exact hlen
    · intro x hx
      exact List.mem_append_left _ (h.mem_executed x hx)
    · intro x hx
      rw [h.place_eq x hx]
      exact (place_append (h.mem_executed x hx)).symm
  · exact h

theorem Orderly.report (h : l.Orderly s) (now : Timestamp) (r : Nat) :
    l.Orderly (l.report k now r s) := by
  unfold Loop.report
  split_ifs with hr
  · obtain ⟨hex, hnew⟩ := hr
    refine ⟨h.lt_granted, h.nodup_executed, h.length_le, ?_, ?_, ?_⟩
    · intro x hx
      rcases List.mem_cons.1 hx with rfl | hx
      · exact hex
      · exact h.mem_executed x hx
    · intro x hx
      rcases List.mem_cons.1 hx with rfl | hx
      · rfl
      · exact h.place_eq x hx
    · exact List.nodup_cons.2 ⟨hnew, h.nodup_notices⟩
  · exact h

theorem Orderly.step (h : l.Orderly s) (m : Move) : l.Orderly (l.step k s m) := by
  cases m with
  | ask now => exact h.ask now
  | execute r => exact h.execute r
  | report now r => exact h.report now r

theorem Orderly.one_le_place (h : l.Orderly s) {x : Notice} (hx : x ∈ s.notices) : 1 ≤ x.place := by
  rw [h.place_eq x hx]
  exact s.one_le_place _

theorem Orderly.place_le_limit (h : l.Orderly s) {x : Notice} (hx : x ∈ s.notices) :
    x.place ≤ l.remote.limit.toNat := by
  rw [h.place_eq x hx]
  exact Nat.le_trans (State.place_le (h.mem_executed x hx)) h.length_le

/-- What a place leaves of the limit. -/
def left (x : Notice) : Nat := l.remote.limit.toNat - x.place

/-- No two answers leave the same. -/
theorem Orderly.nodup_left (h : l.Orderly s) : (s.notices.map l.left).Nodup := by
  refine (List.nodup_map_iff_inj_on h.nodup_notices.of_map).2 ?_
  intro x hx y hy hxy
  -- Below the limit a place is known by what it leaves, and a request by its place.
  have hx1 := h.place_le_limit hx
  have hy1 := h.place_le_limit hy
  unfold left at hxy
  have hplace : s.place x.request = s.place y.request := by
    rw [← h.place_eq x hx, ← h.place_eq y hy]
    omega
  have hreq : x.request = y.request :=
    (List.idxOf_inj (h.mem_executed x hx)).1 (Nat.succ.inj hplace)
  exact List.inj_on_of_nodup_map h.nodup_notices hx hy hreq

/-- All that the answers leave, added up. -/
theorem Orderly.sum_left_le (h : l.Orderly s) :
    (s.notices.map l.left).sum * 2 ≤ l.remote.limit.toNat * (l.remote.limit.toNat - 1) := by
  have hsub : (s.notices.map l.left).toFinset ⊆ Finset.range l.remote.limit.toNat := by
    intro n hn
    obtain ⟨x, hx, rfl⟩ := List.mem_map.1 (List.mem_toFinset.1 hn)
    have hone := h.one_le_place hx
    have hle := h.place_le_limit hx
    rw [Finset.mem_range, left]
    omega
  calc (s.notices.map l.left).sum * 2
      = (∑ n ∈ (s.notices.map l.left).toFinset, n) * 2 := by
        rw [List.sum_toFinset _ h.nodup_left, List.map_id']
    _ ≤ (∑ n ∈ Finset.range l.remote.limit.toNat, n) * 2 :=
        Nat.mul_le_mul_right 2 (Finset.sum_le_sum_of_subset hsub)
    _ = l.remote.limit.toNat * (l.remote.limit.toNat - 1) := Finset.sum_range_id_mul_two _

/-! ### Accounting -/

/-- The bucket accounts for the grants. -/
structure AccountedBy (k : Backing σ) (l : Loop) (s : State σ) (b : Bucket) : Prop where
  look_eq : k.look l.bucket s.buckets = some (.ok b)
  limit_eq : b.limit = l.remote.limit
  resetAt_eq : b.resetAt = l.remote.resetAt
  /-- What has been granted and what is left make up the limit and the overhang. -/
  granted_add_remaining :
    s.granted + b.remaining.toNat = l.remote.limit.toNat + s.overhang
  /-- The overhangs of all answers are at most what their places have left. -/
  granted_le : s.granted + b.remaining.toNat ≤
    l.remote.limit.toNat + (s.notices.map l.left).sum

theorem accountedBy_start {st : σ} (h : l.Ready k st) (tally : Tally) :
    ∃ b, AccountedBy k l (start st tally) b := by
  obtain ⟨b, hb, hlimit, hrem, hreset⟩ := h
  refine ⟨b, hb, hlimit, hreset, ?_, ?_⟩
  · rw [hrem]
    exact Nat.zero_add _
  · rw [hrem]
    exact Nat.le_of_eq (Nat.zero_add _)

section Step

variable (hk : k.Lawful) (hl : l.remote.Truthful) {b : Bucket} (h : AccountedBy k l s b)
  {now : Timestamp} (hnow : now < l.remote.resetAt)

include hk hl

/-- A time before the end of the window can be kept. -/
theorem stamp_now (hnow : now < l.remote.resetAt) : ∃ u, k.stamp now = .ok u := by
  have hreset := Timestamp.le_latest (Timestamp.ofMillis?_eq_some hl.resetAt_millis).1
  obtain ⟨u, -, hu⟩ := hk.stamp_ok now
    (Timestamp.le_of_lt (Timestamp.lt_of_lt_of_le hnow hreset))
  exact ⟨u, hu⟩

/-- A call about the bucket that does not move the end of the window is kept. -/
theorem AccountedBy.look_after (h : AccountedBy k l s b) {u : Use}
    (hid : u.op.id? = some l.bucket) (hreset : (u.op.act u.now b).resetAt = l.remote.resetAt)
    (hup : ∃ v, k.stamp (u.op.act u.now b).updatedAt = .ok v) :
    ∃ c, k.look l.bucket (k.after u s.buckets) = some (.ok c) ∧ c.resetAt = l.remote.resetAt ∧
      c.limit = (u.op.act u.now b).limit ∧ c.remaining = (u.op.act u.now b).remaining := by
  obtain ⟨v, hv⟩ := hup
  have hr : k.stamp (u.op.act u.now b).resetAt = .ok l.remote.resetAt := by
    rw [hreset]
    exact Backing.stamp_of_millis hk hl.resetAt_millis
  obtain ⟨c, hc, hcr, -⟩ := Backing.exists_keep hr hv
  obtain ⟨-, -, -, hlimit, hrem⟩ := Backing.keep_ok hc
  have hfound : k.found u.limits u.now l.bucket s.buckets = .ok b := Backing.found_of_look h.look_eq
  exact ⟨c, Backing.look_after_of_keep hk hid hfound hc, hcr, hlimit, hrem⟩

include h hnow

/-- **A request for a unit keeps the bucket accountable.** -/
theorem AccountedBy.ask : ∃ c, AccountedBy k l (l.ask k now s) c := by
  -- The window is not over, so what is there is what is left.
  have hin : now < b.resetAt := h.resetAt_eq ▸ hnow
  have hup : ∃ v, k.stamp (b.take 1 now).2.updatedAt = .ok v := by
    rcases b.take_updatedAt 1 now with hup | hup
    · rw [hup]
      exact stamp_now hk hl hnow
    · rw [hup]
      exact ⟨_, (Backing.keep_ok (hk.keep_look _ _ _ h.look_eq)).2.1⟩
  have hreset : (b.take 1 now).2.resetAt = l.remote.resetAt := by
    rw [Bucket.take_resetAt, Bucket.roll_resetAt, if_pos hin, h.resetAt_eq]
  obtain ⟨c, hc, hcr, hlimit, hrem⟩ := h.look_after hk hl (u := l.use now) rfl hreset hup
  have hgrants : k.grants s.buckets (l.use now) = decide (1 ≤ b.left now) :=
    Backing.grants_take hk rfl (Backing.found_of_look h.look_eq)
  have hsum : (l.ask k now s).granted + c.remaining.toNat = s.granted + b.remaining.toNat := by
    have hleft : b.left now = b.remaining := if_pos hin
    have hmove := b.granted_add_remaining now s.granted
    rw [hleft] at hmove
    rw [hrem, ← hmove]
    simp only [Loop.ask, hgrants, hleft, decide_eq_true_eq]
    rfl
  refine ⟨c, hc, ?_, hcr, ?_, ?_⟩
  · rw [hlimit, ← h.limit_eq]
    exact b.take_limit 1 now
  · exact hsum.trans h.granted_add_remaining
  · rw [hsum]
    exact h.granted_le

omit hk hl h hnow in
theorem toNat_corrected (limit : UInt32) (place : Nat) :
    (min (UInt32.ofNat (limit.toNat - place)) limit).toNat = limit.toNat - place := by
  have hlt := limit.toNat_lt
  have hofNat : (UInt32.ofNat (limit.toNat - place)).toNat = limit.toNat - place :=
    UInt32.toNat_ofNat_of_lt' (Nat.lt_of_le_of_lt (Nat.sub_le _ _) hlt)
  change (if UInt32.ofNat (limit.toNat - place) ≤ limit then _ else limit).toNat = _
  rw [if_pos, hofNat]
  rw [UInt32.le_iff_toNat_le, hofNat]
  exact Nat.sub_le _ _

omit hk h in
/-- A worker corrects the bucket as the remote says. -/
theorem report_buckets (hmsg : l.Addressed) {r : Nat} (hr : s.Open r)
    (hle : s.place r ≤ l.remote.limit.toNat) :
    (l.report k now r s).buckets = k.after ⟨l.limits, now, .correct l.bucket
      ⟨l.remote.limit, .ofNat (l.remote.limit.toNat - s.place r), l.remote.resetAt⟩⟩
        s.buckets := by
  obtain ⟨q, hq, hbucket⟩ := hmsg r
  unfold Loop.report
  rw [if_pos hr]
  dsimp only
  rw [Worker.process_state _ _ _ hq]
  change (match Snapshot.ofHeaders? (l.remote.answer (s.place r)).headers now with
    | none => s.buckets
    | some x => ((k.store l.limits).correct now q.bucketId x s.buckets).2) = _
  rw [hl.answer_headers _ (s.one_le_place r) hle now hnow, hbucket]
  rfl

omit hk hl h hnow in
theorem report_granted (now : Timestamp) (r : Nat) : (l.report k now r s).granted = s.granted := by
  unfold Loop.report
  split_ifs <;> rfl

omit hk hl h hnow in
theorem report_notices {r : Nat} (hr : s.Open r) :
    (l.report k now r s).notices = ⟨r, s.place r, s.granted⟩ :: s.notices := by
  unfold Loop.report
  rw [if_pos hr]

/-- **An answer that is fed back keeps the bucket accountable.** -/
theorem AccountedBy.report (hord : l.Orderly s) (hmsg : l.Addressed) (r : Nat) :
    ∃ c, AccountedBy k l (l.report k now r s) c := by
  by_cases hr : s.Open r
  swap
  · exact ⟨b, by rwa [Loop.report, if_neg hr]⟩
  -- The bucket is set back to what the remote had left at this place in its order.
  have hplace := Nat.le_trans (State.place_le hr.1) hord.length_le
  have hgranted := Nat.le_trans (State.place_le hr.1) hord.length_le_granted
  obtain ⟨c, hc, hcr, hlimit, hrem⟩ := h.look_after hk hl (u := ⟨l.limits, now, .correct l.bucket
    ⟨l.remote.limit, .ofNat (l.remote.limit.toNat - s.place r), l.remote.resetAt⟩⟩) rfl rfl
    (stamp_now hk hl hnow)
  have hleft : c.remaining.toNat = l.remote.limit.toNat - s.place r := by
    rw [hrem]
    exact toNat_corrected l.remote.limit (s.place r)
  refine ⟨c, ?_, hlimit, hcr, ?_, ?_⟩
  · rw [report_buckets hl hnow hmsg hr hplace]
    exact hc
  · rw [report_granted, hleft, State.overhang, report_notices hr]
    dsimp only
    omega
  · have hle := h.granted_le
    rw [report_granted, hleft, report_notices hr, List.map_cons, List.sum_cons, left]
    dsimp only
    omega

omit hk hl hnow in
theorem AccountedBy.execute (r : Nat) : AccountedBy k l (l.execute r s) b := by
  unfold Loop.execute
  split_ifs
  · exact ⟨h.look_eq, h.limit_eq, h.resetAt_eq, h.granted_add_remaining, h.granted_le⟩
  · exact h

end Step

/-- **One move keeps the bucket accountable.** -/
theorem AccountedBy.step (hk : k.Lawful) (hl : l.remote.Truthful) (hmsg : l.Addressed) {b : Bucket}
    (h : AccountedBy k l s b) (hord : l.Orderly s) {m : Move}
    (hm : ∀ now, m.now? = some now → now < l.remote.resetAt) :
    ∃ c, AccountedBy k l (l.step k s m) c := by
  cases m with
  | ask now => exact h.ask hk hl (hm now rfl)
  | execute r => exact ⟨b, h.execute r⟩
  | report now r => exact h.report hk hl (hm now rfl) hord hmsg r

theorem run_append (s : State σ) (ms ms' : List Move) :
    l.run k s (ms ++ ms') = l.run k (l.run k s ms) ms' := List.foldl_append

theorem accountedBy_run (hk : k.Lawful) (hl : l.remote.Truthful) (hmsg : l.Addressed) {st : σ}
    (hst : l.Ready k st) (tally : Tally) {moves : List Move}
    (hnow : ∀ m ∈ moves, ∀ now, m.now? = some now → now < l.remote.resetAt) :
    l.Orderly (l.run k (start st tally) moves) ∧
      ∃ b, AccountedBy k l (l.run k (start st tally) moves) b := by
  induction moves using List.reverseRecOn with
  | nil => exact ⟨orderly_start st tally, accountedBy_start hst tally⟩
  | append_singleton ms m ih =>
    obtain ⟨hord, b, hb⟩ := ih fun m' hm' => hnow m' (List.mem_append_left _ hm')
    rw [run_append]
    exact ⟨hord.step m, hb.step hk hl hmsg hord (hnow m (by simp))⟩

/-! ### Bounds -/

/-- **What a truthful remote is granted.** -/
structure Accounted (k : Backing σ) (l : Loop) (s : State σ) : Prop where
  /-- What has been granted and what is left make up the limit and the overhang. -/
  granted_add_remaining : ∃ b, k.look l.bucket s.buckets = some (.ok b) ∧
    s.granted + b.remaining.toNat = l.remote.limit.toNat + s.overhang
  /-- If the latest answer has counted everything that had been admitted when it was fed back, at
  most the limit is granted. -/
  granted_le : (∀ x, s.notices.head? = some x → x.place = x.granted) →
    s.granted ≤ l.remote.limit.toNat
  /-- In no case is more granted than the limit, the limit less one, and so on, added up. -/
  granted_mul_two_le : s.granted * 2 ≤ l.remote.limit.toNat * (l.remote.limit.toNat + 1)

theorem overhang_eq_zero (h : ∀ x, s.notices.head? = some x → x.place = x.granted) :
    s.overhang = 0 := by
  unfold State.overhang
  cases hs : s.notices with
  | nil => rfl
  | cons x xs =>
    rw [hs] at h
    have hx := h x rfl
    dsimp only
    omega

theorem AccountedBy.accounted {b : Bucket} (h : AccountedBy k l s b) (hord : l.Orderly s) :
    l.Accounted k s := by
  have heq := h.granted_add_remaining
  refine ⟨⟨b, h.look_eq, heq⟩, ?_, ?_⟩
  · intro hcount
    rw [overhang_eq_zero hcount] at heq
    omega
  · have hle := h.granted_le
    have hsum := hord.sum_left_le
    calc (s.granted) * 2
        ≤ (l.remote.limit.toNat + (s.notices.map l.left).sum) * 2 :=
          Nat.mul_le_mul_right 2 (Nat.le_trans (Nat.le_add_right _ _) hle)
      _ ≤ l.remote.limit.toNat * 2 + l.remote.limit.toNat * (l.remote.limit.toNat - 1) := by
          rw [Nat.add_mul]
          exact Nat.add_le_add_left hsum _
      _ = l.remote.limit.toNat * (l.remote.limit.toNat + 1) := by
          rw [← Nat.mul_add]
          cases l.remote.limit.toNat with
          | zero => rfl
          | succ n => rw [Nat.add_sub_cancel, Nat.add_comm 2 n]

/-- **A truthful remote is granted what the bucket accounts for**, in memory and over rows: requests
are admitted and executed and answers fed back in any order until the window ends. -/
theorem grants_accounted (l : Loop) (hl : l.remote.Truthful) (hmsg : l.Addressed) (tally : Tally)
    (moves : List Move)
    (hnow : ∀ m ∈ moves, ∀ now, m.now? = some now → now < l.remote.resetAt) :
    (∀ st, l.Ready Memory.backing st →
      l.Accounted Memory.backing (l.run Memory.backing (start st tally) moves)) ∧
    ∀ st, l.Ready Ledger.backing st →
      l.Accounted Ledger.backing (l.run Ledger.backing (start st tally) moves) := by
  constructor
  · intro st hst
    obtain ⟨hord, b, hb⟩ := accountedBy_run Memory.lawful hl hmsg hst tally hnow
    exact hb.accounted hord
  · intro st hst
    obtain ⟨hord, b, hb⟩ := accountedBy_run Ledger.lawful hl hmsg hst tally hnow
    exact hb.accounted hord

/-! ### An early answer that is fed back late -/

/-- The beginning of a window of a minute. -/
def minute : Timestamp := (Timestamp.ofMillis? 1700000000000).getD .epoch

/-- Two requests, one after the other; the answer to the first comes when both are admitted. -/
def lateAnswer : List Move := [.ask minute, .ask minute, .execute 0, .report minute 0, .ask minute]

/-- The answer with so many requests left of two. -/
def answerLeft (left : String) : Executed :=
  ⟨200, .ofList [("x-ratelimit-limit", "2"), ("x-ratelimit-remaining", left),
    ("x-ratelimit-reset", "1700000060")], []⟩

/-- A remote that executes two requests in a minute. -/
def twoAMinute : Remote where
  limit := 2
  resetAt := (Timestamp.ofMillis? 1700000060000).getD .epoch
  answer place := answerLeft (if place = 1 then "1" else "0")

/-- A request for the bucket of a remote that executes two requests in a minute. -/
def sampleRequest : Request where
  id := default
  bucketId := "b"
  method := "GET"
  targetUrl := "http://a/"
  headers := .empty
  body := []
  returnAddress := "a:1"
  enqueuedAt := minute

/-- Requests for a remote that executes two in a minute. -/
def sample : Loop where
  limits := ⟨2, .ofSeconds 60⟩
  bucket := "b"
  remote := twoAMinute
  message _ := sampleRequest.toUtf8
  net _ := .silent
  courier := .standard
  width := 1

theorem ofHeaders?_answerLeft (now : Timestamp) : ∀ left ∈ ["1", "0"],
    Snapshot.ofHeaders? (answerLeft left).headers now =
      some ⟨2, if left = "1" then 1 else 0, twoAMinute.resetAt⟩ := by
  have hvalues : ∀ left ∈ ["1", "0"],
      (answerLeft left).headers.value? "x-ratelimit-limit" = some "2" ∧
      (answerLeft left).headers.value? "x-ratelimit-remaining" = some left ∧
      (answerLeft left).headers.value? "x-ratelimit-reset-after" = none ∧
      (answerLeft left).headers.value? "x-ratelimit-reset" = some "1700000060" := by
    simp only [Headers.value?, Headers.find?, Headers.sameName_eq]
    decide +kernel
  intro left hleft
  obtain ⟨hlimit, hrem, hafter, hreset⟩ := hvalues left hleft
  have hresetAt : resetAt? (answerLeft left).headers now = some twoAMinute.resetAt := by
    unfold resetAt?
    rw [hafter, hreset]
    change epochSeconds? "1700000060" = some twoAMinute.resetAt
    decide +kernel
  unfold Snapshot.ofHeaders?
  rw [hlimit, hrem, hresetAt]
  clear hlimit hrem hafter hreset hresetAt
  revert left
  decide +kernel

theorem truthful_sample : sample.remote.Truthful where
  answer_headers place hone hle now _ := by
    have htwo : place ≤ 2 := hle
    obtain rfl | rfl : place = 1 ∨ place = 2 := by omega
    · exact ofHeaders?_answerLeft now "1" (by decide)
    · exact ofHeaders?_answerLeft now "0" (by decide)
  resetAt_millis := by decide +kernel

theorem ofUtf8?_sampleRequest : Request.ofUtf8? sampleRequest.toUtf8 = some sampleRequest := by
  decide +kernel

theorem addressed_sample : sample.Addressed := fun _ => ⟨sampleRequest, ofUtf8?_sampleRequest, rfl⟩

theorem lateAnswer_before :
    ∀ m ∈ lateAnswer, ∀ now, m.now? = some now → now < sample.remote.resetAt := by
  have hminute : minute < sample.remote.resetAt := by decide +kernel
  intro m hm now hnow
  have hall : ∀ m ∈ lateAnswer, m.now? = none ∨ m.now? = some minute := by decide
  rcases hall m hm with h | h
  · rw [h] at hnow
    cases hnow
  · rw [h] at hnow
    cases hnow
    exact hminute

/-- The bucket of the sample after it has been looked at. -/
def sampleStart (k : Backing σ) : σ :=
  k.after ⟨sample.limits, minute, .get sample.bucket⟩ k.empty

/-- Two requests have been admitted, and the first has been executed. -/
def sampleEarly : State (Catalog Bucket) :=
  sample.run Memory.backing (start (sampleStart Memory.backing) .zero)
    [.ask minute, .ask minute, .execute 0]

theorem ready_memory : sample.Ready Memory.backing (sampleStart Memory.backing) :=
  ⟨.fresh "b" sample.limits minute, by decide +kernel, by decide +kernel⟩

theorem ready_ledger : sample.Ready Ledger.backing (sampleStart Ledger.backing) :=
  ⟨.fresh "b" sample.limits minute, by decide +kernel, by decide +kernel⟩

/-- **A truthful remote may be overrun**: the answer to the first of two requests knows nothing of
the second, and admits a third one where the limit is two. -/
theorem overgrants : sample.remote.Truthful ∧ sample.Addressed ∧
    sample.Ready Memory.backing (sampleStart Memory.backing) ∧
    (∀ m ∈ lateAnswer, ∀ now, m.now? = some now → now < sample.remote.resetAt) ∧
    ¬ (sample.run Memory.backing (start (sampleStart Memory.backing) .zero) lateAnswer).granted ≤
      sample.remote.limit.toNat := by
  refine ⟨truthful_sample, addressed_sample, ready_memory, lateAnswer_before, ?_⟩
  have hsplit : lateAnswer =
      [.ask minute, .ask minute, .execute 0] ++ [.report minute 0, .ask minute] := rfl
  have hbuckets := report_buckets (k := Memory.backing) (s := sampleEarly) (r := 0)
    truthful_sample (lateAnswer_before (.ask minute) (by decide) minute rfl) addressed_sample
    (by decide +kernel) (by decide +kernel)
  have hlast (s : State (Catalog Bucket)) :
      (sample.run Memory.backing s [.report minute 0, .ask minute]).granted =
        s.granted + if Memory.backing.grants (sample.report Memory.backing minute 0 s).buckets
          (sample.use minute) then 1 else 0 :=
    congrArg (· + _) (report_granted minute 0)
  rw [hsplit, run_append, hlast, ← sampleEarly, hbuckets]
  decide +kernel

/-- The bucket of the sample accounts for the third request. -/
theorem grants_accounted_lateAnswer :
    sample.Accounted Memory.backing
        (sample.run Memory.backing (start (sampleStart Memory.backing) .zero) lateAnswer) ∧
      sample.Accounted Ledger.backing
        (sample.run Ledger.backing (start (sampleStart Ledger.backing) .zero) lateAnswer) := by
  have h := grants_accounted sample truthful_sample addressed_sample .zero lateAnswer
    lateAnswer_before
  exact ⟨h.1 _ ready_memory, h.2 _ ready_ledger⟩

end Loop

end Sluice
