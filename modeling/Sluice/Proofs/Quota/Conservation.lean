import Sluice.Proofs.Quota.Atomic

/-!
# Units are conserved

The units of a bucket are accounted for. A bucket that is made, a window that rolls over and a
correction each reset the account to a capacity; a grant spends its cost. What has been spent since
the latest reset and what is left always make up the capacity.

* `Backing.journal` : the postings of a run to the account of a bucket, read off from the buckets
  that the calls meet and from the answers that they get;
* `Account.Balanced` : an account agrees with a bucket; `Account.Balanced.take` carries it through
  a request for units;
* `Backing.Conserves` : the accounts of all buckets are balanced after a run, and a request is
  denied exactly if its cost exceeds what is left, and then takes nothing;
* `Store.units_conserved` : every run conserves the units, in memory and over rows;
* `Ledger.excess_not_denied` : over a row that cannot be read a request is neither granted nor
  denied.
-/

namespace Sluice

open Store (Op Use)

/-! ### Accounts -/

/-- What happens to the units of a bucket. -/
inductive Posting where
  /-- From now on there are this many. -/
  | reset (capacity : UInt32)
  /-- A grant takes this many. -/
  | spend (cost : UInt32)
  deriving DecidableEq, Repr

/-- The latest capacity, and what has been spent since. -/
structure Account where
  /-- The capacity that the latest reset set. -/
  capacity : Nat
  /-- The sum of the costs granted since. -/
  spent : Nat
  deriving DecidableEq, Repr

namespace Account

/-- The account after a posting. -/
def post (a : Account) : Posting → Account
  | .reset capacity => ⟨capacity.toNat, 0⟩
  | .spend cost => { a with spent := a.spent + cost.toNat }

/-- The account after some postings. -/
def postAll (a : Account) (ps : List Posting) : Account := ps.foldl post a

/-- The account of a journal. -/
def ofJournal (ps : List Posting) : Account := postAll ⟨0, 0⟩ ps

theorem postAll_append (a : Account) (ps qs : List Posting) :
    a.postAll (ps ++ qs) = (a.postAll ps).postAll qs := List.foldl_append

/-- An account agrees with a bucket. -/
structure Balanced (a : Account) (b : Bucket) : Prop where
  spent_add_remaining : a.spent + b.remaining.toNat = a.capacity
  remaining_le : b.remaining ≤ b.limit

variable {a : Account} {b : Bucket}

theorem balanced_fresh (id : String) (limits : Limits) (now : Timestamp) :
    Balanced ⟨limits.limit.toNat, 0⟩ (.fresh id limits now) :=
  ⟨Nat.zero_add _, UInt32.le_refl _⟩

theorem balanced_correct (b : Bucket) (s : Snapshot) (now : Timestamp) :
    Balanced ⟨(min s.remaining s.limit).toNat, 0⟩ (b.correct s now) :=
  ⟨Nat.zero_add _, Std.min_le_right⟩

/-- The postings of a rollover. -/
def rollover (b : Bucket) (now : Timestamp) : List Posting :=
  if now < b.resetAt then [] else [.reset b.limit]

theorem Balanced.rollover (h : a.Balanced b) (now : Timestamp) :
    (a.postAll (rollover b now)).spent + (b.left now).toNat =
      (a.postAll (Account.rollover b now)).capacity := by
  unfold Account.rollover Bucket.left
  split_ifs
  · exact h.spent_add_remaining
  · exact Nat.zero_add _

/-- **A request for units keeps an account balanced**, whether it rolls the window over or not and
whether it is granted or denied. -/
theorem Balanced.take (h : a.Balanced b) (cost : UInt32) (now : Timestamp) :
    (a.postAll (Account.rollover b now ++ if cost ≤ b.left now then [.spend cost] else [])).Balanced
      (b.take cost now).2 := by
  -- The rollover comes first, and the cost is taken from what it leaves.
  have hroll := h.rollover now
  have hle := b.left_le now h.remaining_le
  rw [postAll_append]
  refine ⟨?_, ?_⟩ <;> rw [Bucket.take_remaining]
  · split_ifs with hc
    · have := b.toNat_left cost now hc
      change (a.postAll (Account.rollover b now)).spent + cost.toNat + _ =
        (a.postAll (Account.rollover b now)).capacity
      omega
    · exact hroll
  · rw [Bucket.take_limit]
    split_ifs with hc
    · rw [UInt32.le_iff_toNat_le] at hle ⊢
      have := b.toNat_left cost now hc
      omega
    · exact hle

theorem Balanced.keep {σ : Type} {k : Backing σ} {c : Bucket} (h : a.Balanced b)
    (hc : k.keep b = .ok c) : a.Balanced c := by
  obtain ⟨-, -, -, hl, hr⟩ := Backing.keep_ok hc
  exact ⟨by rw [hr]; exact h.spent_add_remaining, by rw [hr, hl]; exact h.remaining_le⟩

end Account

/-! ### Journals -/

namespace Backing

variable {σ : Type} (k : Backing σ)

/-- The posting of a call that makes a bucket. -/
def opening (limits : Limits) (id : String) (st : σ) : List Posting :=
  if (k.look id st).isNone then [.reset limits.limit] else []

/-- The postings of a call to the account of a bucket: it may make the bucket, a request for units
may roll the window over and may be granted, and a correction overwrites the bucket. -/
def postings (id : String) (st : σ) (u : Use) : List Posting :=
  if u.op.id? = some id then
    k.opening u.limits id st ++
      match u.op, k.found u.limits u.now id st with
      | .take _ cost, .ok b =>
        Account.rollover b u.now ++ if k.grants st u then [.spend cost] else []
      | .correct _ s, .ok _ => [.reset (min s.remaining s.limit)]
      | _, _ => []
  else []

/-- The postings of a run to the account of a bucket. -/
def journal (id : String) (us : List Use) : List Posting :=
  (k.trace us).flatMap fun x => k.postings id x.1 x.2

theorem journal_snoc (id : String) (us : List Use) (u : Use) :
    k.journal id (us ++ [u]) = k.journal id us ++ k.postings id (k.run us) u := by
  simp [journal, trace_snoc]

variable {k}

/-- The account of a bucket is balanced if the bucket is there and can be read. -/
def BalancedAt (k : Backing σ) (a : Account) (id : String) (st : σ) : Prop :=
  ∀ b, k.look id st = some (.ok b) → a.Balanced b

/-- A bucket that has just been opened is balanced like one that has been there. -/
theorem BalancedAt.found {a : Account} {id : String} {st : σ} (h : k.BalancedAt a id st)
    {limits : Limits} {now : Timestamp} {b : Bucket} (hb : k.found limits now id st = .ok b) :
    (a.postAll (k.opening limits id st)).Balanced b := by
  unfold opening
  rcases found_eq_ok hb with hl | ⟨hl, rfl⟩
  · rw [hl]
    exact h b hl
  · rw [hl]
    exact Account.balanced_fresh id limits now

/-- **One call keeps the account of every bucket balanced.** -/
theorem BalancedAt.after (hk : k.Lawful) {a : Account} {id : String} {st : σ}
    (h : k.BalancedAt a id st) (u : Use) :
    k.BalancedAt (a.postAll (k.postings id st u)) id (k.after u st) := by
  intro c hc
  rw [look_after hk] at hc
  unfold postings
  by_cases hid : u.op.id? = some id
  · rw [if_pos hid] at hc ⊢
    cases hb : k.found u.limits u.now id st with
    | error e => rw [hb] at hc; cases hc
    | ok b =>
      rw [hb] at hc
      have hopen := h.found hb
      -- The account is opened by what is found, then posted to; rows keep what counts of it.
      refine Account.Balanced.keep ?_ (Option.some.inj hc)
      rw [Account.postAll_append]
      obtain ⟨limits, now, op⟩ := u
      cases op with
      | get j => exact hopen
      | take j cost =>
        cases hid
        dsimp only
        rw [grants_take hk rfl hb]
        have htake := hopen.take cost now
        simp only [decide_eq_true_eq]
        exact htake
      | correct j s => exact Account.balanced_correct b s now
      | list => cases hid
  · rw [if_neg hid] at hc ⊢
    exact h c hc

theorem balancedAt_run (hk : k.Lawful) (id : String) (us : List Use) :
    k.BalancedAt (.ofJournal (k.journal id us)) id (k.run us) := by
  induction us using List.reverseRecOn with
  | nil =>
    intro b hb
    rw [run_nil, hk.look_empty] at hb
    cases hb
  | append_singleton us u ih =>
    rw [run_snoc, journal_snoc, Account.ofJournal, Account.postAll_append]
    exact ih.after hk u

theorem postings_eq_nil (hk : k.Lawful) {id : String} {st : σ} {u : Use}
    (h : k.look id (k.after u st) = none) : k.postings id st u = [] := by
  rw [look_after hk] at h
  unfold postings
  split_ifs at h ⊢
  rfl

/-- A bucket is there as soon as its account has been opened. -/
theorem journal_eq_nil_iff (hk : k.Lawful) (id : String) (us : List Use) :
    k.journal id us = [] ↔ k.look id (k.run us) = none := by
  induction us using List.reverseRecOn with
  | nil => simp [journal, trace, traceFrom, run_nil, hk.look_empty]
  | append_singleton us u ih =>
    rw [run_snoc, journal_snoc, List.append_eq_nil_iff, ih]
    constructor
    · rintro ⟨hl, hp⟩
      rw [look_after hk]
      split_ifs with hid
      · simp [postings, hid, opening, hl] at hp
      · exact hl
    · intro h
      exact ⟨look_eq_none_of_after hk h, postings_eq_nil hk h⟩

/-! ### Conservation -/

/-- **A run conserves the units of every bucket.** -/
structure Conserves (k : Backing σ) (us : List Use) : Prop where
  /-- What has been granted since the latest reset and what is left make up the capacity that the
  reset set. -/
  spent_add_remaining : ∀ id b, k.look id (k.run us) = some (.ok b) →
    (Account.ofJournal (k.journal id us)).spent + b.remaining.toNat =
      (Account.ofJournal (k.journal id us)).capacity
  /-- No bucket holds more than its limit. -/
  remaining_le : ∀ id b, k.look id (k.run us) = some (.ok b) → b.remaining ≤ b.limit
  /-- There is a bucket exactly if a reset has been posted for it. -/
  opened : ∀ id, k.journal id us = [] ↔ k.look id (k.run us) = none
  /-- A request is denied exactly if its cost exceeds what is left when the window has been
  checked. -/
  denied_iff : ∀ limits now id cost b, k.found limits now id (k.run us) = .ok b →
    ((∃ wait, ((k.store limits).take now id cost (k.run us)).1 = .ok (.denied wait)) ↔
      b.left now < cost)
  /-- A denied request takes nothing. -/
  denied_takes_nothing : ∀ limits now id cost b, k.found limits now id (k.run us) = .ok b →
    b.left now < cost → ∀ c,
      k.look id ((k.store limits).take now id cost (k.run us)).2 = some (.ok c) →
        c.remaining = b.left now
  /-- Any other request is granted and takes its cost. -/
  granted : ∀ limits now id cost b, k.found limits now id (k.run us) = .ok b →
    cost ≤ b.left now →
      ((k.store limits).take now id cost (k.run us)).1 = .ok (.granted (b.left now - cost)) ∧
      ∀ c, k.look id ((k.store limits).take now id cost (k.run us)).2 = some (.ok c) →
        c.remaining = b.left now - cost
  /-- A request for units of a bucket that cannot be read fails and changes nothing. -/
  failed : ∀ limits now id cost e, k.found limits now id (k.run us) = .error e →
    (k.store limits).take now id cost (k.run us) = (.error e, k.run us)
  /-- Every bucket can be read as long as no time given for it lies beyond the calendar. -/
  readable : ∀ id, (∀ u ∈ us, u.op.id? = some id → u.OnCalendar) →
    ∀ limits now, ∃ b, k.found limits now id (k.run us) = .ok b

theorem remaining_of_look_take (hk : k.Lawful) {limits : Limits} {now : Timestamp} {id : String}
    {cost : UInt32} {st : σ} {b c : Bucket} (hb : k.found limits now id st = .ok b)
    (hc : k.look id ((k.store limits).take now id cost st).2 = some (.ok c)) :
    c.remaining = (b.take cost now).2.remaining := by
  rw [(hk.take_acts limits now id cost).look, if_pos rfl, hb] at hc
  exact (keep_ok (Option.some.inj hc)).2.2.2.2

theorem conserves (hk : k.Lawful) (us : List Use) : k.Conserves us where
  spent_add_remaining id b hb := (balancedAt_run hk id us b hb).spent_add_remaining
  remaining_le id b hb := (balancedAt_run hk id us b hb).remaining_le
  opened id := journal_eq_nil_iff hk id us
  denied_iff limits now id cost b hb := by
    rw [(hk.take_acts limits now id cost).answer, hb]
    simp only [Except.map, Bucket.take_fst, Except.ok.injEq]
    split_ifs with h
    · simpa using h
    · simpa using h
  denied_takes_nothing limits now id cost b hb h c hc := by
    rw [remaining_of_look_take hk hb hc, Bucket.take_remaining, if_neg (UInt32.not_le.2 h)]
  granted limits now id cost b hb h := by
    refine ⟨?_, ?_⟩
    · rw [(hk.take_acts limits now id cost).answer, hb]
      simp only [Except.map, Bucket.take_fst, if_pos h]
    · intro c hc
      rw [remaining_of_look_take hk hb hc, Bucket.take_remaining, if_pos h]
  failed limits now id cost e he := by
    have := hk.take_acts limits now id cost (k.run us)
    rwa [he] at this
  readable id hus limits now := by
    cases hb : k.found limits now id (k.run us) with
    | ok b => exact ⟨b, rfl⟩
    | error e =>
      obtain ⟨b, hb, -⟩ := readable_run hk hus (found_eq_error hb)
      cases hb

end Backing

/-- **Every run conserves the units of every bucket**, in memory and over rows that any number of
handles share, each with limits of its own. In memory every bucket can be read, whatever has been
done; over rows, every bucket that was told no time beyond the calendar. -/
theorem Store.units_conserved (us : List Use) :
    (Memory.backing.Conserves us ∧
      ∀ limits now id, ∃ b, Memory.backing.found limits now id (Memory.backing.run us) = .ok b) ∧
    Ledger.backing.Conserves us :=
  ⟨⟨Backing.conserves Memory.lawful us, fun limits now id =>
      ⟨_, Memory.found_eq limits now id (Memory.backing.run us)⟩⟩,
    Backing.conserves Ledger.lawful us⟩

/-- A row that was told a time beyond the calendar denies nothing any more: a request for more units
than are left fails, while memory denies it. -/
theorem Ledger.excess_not_denied :
    let limits : Limits := ⟨2, .ofSeconds 60⟩
    let us : List Use := [⟨limits, .epoch, .correct "b" ⟨2, 1, afterLatest⟩⟩]
    ((backing.store limits).correct .epoch "b" ⟨2, 1, afterLatest⟩ .empty).1 = .ok () ∧
      ((backing.store limits).take .epoch "b" 5 (backing.run us)).1 =
        .error (.store "timestamp out of range: 8210266876800500") ∧
      ∃ wait, ((Memory.backing.store limits).take .epoch "b" 5 (Memory.backing.run us)).1 =
        .ok (.denied wait) :=
  ⟨rfl, rfl, _, rfl⟩

end Sluice
