import Sluice.Proofs.Dispatch.Exchange
import Sluice.Proofs.Message.Queued

/-!
# Nothing is sent without a unit, and nothing twice

Any number of invocations share a store and a queue. Whatever is done, in whatever order and at
whatever ticks, the messages of a bucket are never more than the units that the store has granted of
it.

* `Traffic.Passage` : any moves at all; a journey is a passage;
* `Traffic.units`, `Traffic.messages` : what has been granted, and what the queue has accepted;
* `Traffic.Backed` : where an invocation can stand, given what it has been granted and has sent;
* `Traffic.Account` : the same for all of them, and for each bucket;
* `Traffic.Passage.sends_granted` : what this says about the messages.
-/

namespace Sluice.Traffic

variable {σ τ : Type} {d : Dispatcher σ τ} {k : Consumer} {t t' t₀ : Traffic σ τ}
  {ms ms' : List (Move σ τ)} {m : Move σ τ} {p : Plan} {i : Invocation} {n : Nat} {b : String}
  {r : Request} {plans : List Plan}

/-! ### Passages -/

/-- The moves that lead from `t₀` to where everything stands now, the first one first. Anything may
be done at any tick. -/
inductive Passage (d : Dispatcher σ τ) (k : Consumer) (t₀ : Traffic σ τ) :
    List (Move σ τ) → Traffic σ τ → Prop where
  | start : Passage d k t₀ [] t₀
  | move {ms : List (Move σ τ)} {t : Traffic σ τ} (passage : Passage d k t₀ ms t) (tick : Tick)
    (e : Errand) : Passage d k t₀ (ms ++ [⟨t, tick, e⟩]) (Move.after d k ⟨t, tick, e⟩)

theorem Journey.passage (h : Journey d k t₀ ms t) : Passage d k t₀ ms t := by
  induction h with
  | start => exact .start
  | move _ _ ih => exact ih.move _ _

/-- The units that have been granted: the number of the invocation, and the bucket. -/
def units (d : Dispatcher σ τ) (ms : List (Move σ τ)) : List (Nat × String) :=
  ms.filterMap (·.unit? d)

/-- The requests of which the queue has accepted the messages, with the numbers of their senders. -/
def sendings (d : Dispatcher σ τ) (ms : List (Move σ τ)) : List (Nat × Request) :=
  ms.filterMap (·.sends? d)

/-- The messages that the queue has accepted, with the numbers of their senders. -/
def messages (d : Dispatcher σ τ) (ms : List (Move σ τ)) : List (Nat × Bytes) :=
  (sendings d ms).map fun x => (x.1, x.2.toUtf8)

theorem filterMap_concat {α β : Type} (f : α → Option β) (xs : List α) (x : α) :
    (xs ++ [x]).filterMap f = xs.filterMap f ++ (f x).toList := by
  rw [List.filterMap_append]
  cases h : f x <;> simp [h]

theorem units_append : units d (ms ++ [m]) = units d ms ++ (m.unit? d).toList :=
  filterMap_concat _ _ _

theorem sendings_append : sendings d (ms ++ [m]) = sendings d ms ++ (m.sends? d).toList :=
  filterMap_concat _ _ _

/-! ### One invocation -/

/-- No message of an invocation has been accepted. -/
def Unsent (d : Dispatcher σ τ) (n : Nat) (ms : List (Move σ τ)) : Prop :=
  ∀ x ∈ sendings d ms, x.1 ≠ n

theorem Unsent.append (h : Unsent d n ms) (hm : ∀ x, m.sends? d = some x → x.1 ≠ n) :
    Unsent d n (ms ++ [m]) := by
  intro x hx
  rw [sendings_append] at hx
  rcases List.mem_append.1 hx with hx | hx
  · exact h x hx
  · exact hm x (Option.mem_toList.1 hx)

/-- A request is the one that its invocation makes of a unit that it was granted. -/
def Granted (d : Dispatcher σ τ) (n : Nat) (p : Plan) (ms : List (Move σ τ)) (r : Request) : Prop :=
  ∃ m ∈ ms, ∃ v, m.grant? d n = some v ∧ Invocation.bucket d p.call = .ok v.bucket ∧
    (n, v.bucket) ∈ units d ms ∧ r = p.request d v m.tick

theorem Granted.append (h : Granted d n p ms r) (m : Move σ τ) : Granted d n p (ms ++ [m]) r := by
  obtain ⟨m', hm', v, hgrant, hb, hu, hr⟩ := h
  refine ⟨m', List.mem_append_left _ hm', v, hgrant, hb, ?_, hr⟩
  rw [units_append]
  exact List.mem_append_left _ hu

/-- Where an invocation can stand after some moves. -/
inductive Backed (d : Dispatcher σ τ) (n : Nat) (p : Plan) (ms : List (Move σ τ)) :
    Phase → Prop where
  | coming (hno : Unsent d n ms) : Backed d n p ms .coming
  | admission {deadline : Instant} {v : Visit} {w : Waiting} (hno : Unsent d n ms)
    (hv : v.deadline = some deadline) (hb : Invocation.bucket d p.call = .ok v.bucket)
    (hu : ∀ b, w.holds? v = some b → (n, b) ∈ units d ms) :
    Backed d n p ms (.admission deadline v w)
  | handing {deadline : Instant} {ticket : Nat} {r : Request} (hno : Unsent d n ms)
    (hr : Granted d n p ms r) : Backed d n p ms (.handing deadline ticket r)
  | past {ph : Phase} (h : ph.isPast = true) : Backed d n p ms ph

theorem Backed.append {ph : Phase} (h : Backed d n p ms ph)
    (hm : ∀ x, m.sends? d = some x → x.1 ≠ n) : Backed d n p (ms ++ [m]) ph := by
  cases h with
  | coming hno => exact .coming (hno.append hm)
  | admission hno hv hb hu =>
    refine .admission (hno.append hm) hv hb fun b hheld => ?_
    rw [units_append]
    exact List.mem_append_left _ (hu b hheld)
  | handing hno hr => exact .handing (hno.append hm) (hr.append m)
  | past h => exact .past h

theorem Backed.visits (h : Backed d n i.plan ms i.phase) : i.Visits := by
  intro deadline v w hp
  rw [hp] at h
  cases h with
  | admission _ hv => exact hv
  | past h => cases h

/-- An invocation that wants a unit has not sent anything, and wants it of its own bucket. -/
theorem Backed.of_wants (h : Backed d n i.plan ms i.phase) (hw : i.Wants d b) :
    Unsent d n ms ∧ Invocation.bucket d i.plan.call = .ok b := by
  unfold Invocation.Wants at hw
  split at hw
  · rename_i hp
    rw [hp] at h
    cases h with
    | coming hno => exact ⟨hno, hw⟩
    | past h => cases h
  · rename_i hp
    rw [hp] at h
    cases h with
    | admission hno _ hb => exact ⟨hno, hw ▸ hb⟩
    | past h => cases h
  · exact hw.elim

/-- A unit that is held has been granted. -/
theorem Backed.of_holds? {ph : Phase} (h : Backed d n p ms ph) (hheld : ph.holds? = some b) :
    (n, b) ∈ units d ms := by
  cases h with
  | coming => cases hheld
  | admission _ _ _ hu => exact hu b hheld
  | handing _ hr =>
    obtain ⟨m, -, v, -, -, hu, rfl⟩ := hr
    obtain rfl := Option.some.inj hheld
    exact hu
  | past h =>
    rw [Phase.holds?_of_isPast h] at hheld
    cases hheld

/-- A unit that is held or granted now has been granted when the turn is over. -/
theorem Backed.of_has (h : Backed d n i.plan ms i.phase) (he : m.errand = .turn n)
    (hi : m.before.invocations[n]? = some i) (hhas : i.Has d n m.tick m.before.shared b) :
    (n, b) ∈ units d (ms ++ [m]) := by
  rw [units_append]
  rcases hhas with hheld | hunit
  · exact List.mem_append_left _ (h.of_holds? hheld)
  · refine List.mem_append_right _ (Option.mem_toList.2 ?_)
    rw [Move.unit?, Move.inTurn?_turn he hi, hunit]
    rfl

/-- What an invocation offers to the queue was granted, and has not been sent before. -/
theorem Backed.of_offers? (h : Backed d n i.plan ms i.phase) (he : m.errand = .turn n)
    (hi : m.before.invocations[n]? = some i)
    (ho : i.offers? d n m.tick m.before.shared = some r) :
    Unsent d n ms ∧ Granted d n i.plan (ms ++ [m]) r := by
  unfold Invocation.offers? at ho
  split at ho
  · rename_i hp
    cases ho
    rw [hp] at h
    cases h with
    | handing hno hr => exact ⟨hno, hr.append m⟩
    | past h => cases h
  · split_ifs at ho
    obtain ⟨v, hgrant, rfl⟩ := Option.map_eq_some_iff.1 ho
    obtain ⟨hw, hhas⟩ := Invocation.has_of_grant? hgrant
    obtain ⟨hno, hb⟩ := h.of_wants hw
    refine ⟨hno, m, List.mem_append_right _ (List.mem_singleton_self m), v, ?_, hb,
      h.of_has he hi hhas, rfl⟩
    obtain ⟨t, tick, e⟩ := m
    obtain rfl : e = .turn n := he
    rw [Move.grant?_turn hi, hgrant]

theorem Move.sends?_turn (he : m.errand = .turn n) (hi : m.before.invocations[n]? = some i)
    {x : Nat × Request} (h : m.sends? d = some x) :
    x.1 = n ∧ i.offers? d n m.tick m.before.shared = some x.2 ∧
      (d.queue.offer n x.2.toUtf8 m.before.shared.line).1 = .accepted := by
  rw [sends?, inTurn?_turn he hi] at h
  obtain ⟨r, hr, rfl⟩ := Option.map_eq_some_iff.1 h
  obtain ⟨ho, haccepted⟩ := Option.filter_eq_some_iff.1 hr
  exact ⟨rfl, ho, of_decide_eq_true haccepted⟩

theorem Move.sends?_of_ne (h : m.errand ≠ .turn n) (x : Nat × Request)
    (hx : m.sends? d = some x) : x.1 ≠ n := by
  rintro rfl
  exact h (inTurn?_eq_some hx).1

/-- **A turn keeps an invocation where it can stand.** -/
theorem Backed.turn (h : Backed d n i.plan ms i.phase) (he : m.errand = .turn n)
    (hi : m.before.invocations[n]? = some i) :
    Backed d n i.plan (ms ++ [m]) (i.turn d n m.tick m.before.shared).1.phase := by
  have hserves : Invocation.Serves d n m.tick i m.before.shared
      (Invocation.view (i.turn d n m.tick m.before.shared))
      (i.offers? d n m.tick m.before.shared) := Invocation.serves_turn h.visits
  change Backed d n i.plan (ms ++ [m])
    (Invocation.view (i.turn d n m.tick m.before.shared)).phase
  generalize Invocation.view (i.turn d n m.tick m.before.shared) = v' at hserves ⊢
  cases ho : i.offers? d n m.tick m.before.shared with
  | none =>
    -- Nothing is sent that has not been offered.
    have hm (x : Nat × Request) (hx : m.sends? d = some x) : x.1 ≠ n := by
      have := (Move.sends?_turn he hi hx).2.1
      rw [ho] at this
      cases this
    rw [ho] at hserves
    cases hserves with
    | stays _ hp =>
      rw [hp]
      exact h.append hm
    | waits _ hv hp hears =>
      obtain ⟨hno, hb⟩ := h.of_wants hears.wants
      rw [hp]
      exact .admission (hno.append hm) hv hb fun b hheld => h.of_has he hi (hears.has hheld)
    | ends _ hp => exact .past hp
  | some r =>
    obtain ⟨hno, hr⟩ := h.of_offers? he hi ho
    rw [ho] at hserves
    cases hserves with
    | offers hline hand =>
      cases hand with
      | later hoffer =>
        refine .handing (hno.append ?_) hr
        intro x hx
        obtain ⟨-, hox, haccepted⟩ := Move.sends?_turn he hi hx
        obtain rfl := Option.some.inj (ho.symm.trans hox)
        rw [← hline, hoffer] at haccepted
        cases haccepted
      | refused hoffer => exact .past rfl
      | accepted hoffer look => exact .past look.isPast

/-! ### All invocations -/

/-- What has been granted and sent, given where the invocations stand. -/
structure Account (d : Dispatcher σ τ) (plans : List Plan) (ms : List (Move σ τ))
    (t : Traffic σ τ) : Prop where
  /-- Each invocation stands where it can stand. -/
  backed : ∀ n i, t.invocations[n]? = some i →
    plans[n]? = some i.plan ∧ Backed d n i.plan ms i.phase
  /-- Each message is one that its sender was granted a unit for. -/
  granted : ∀ x ∈ sendings d ms, ∃ p, plans[x.1]? = some p ∧ Granted d x.1 p ms x.2
  /-- Nobody has sent two messages. -/
  once : ((sendings d ms).map (·.1)).Nodup
  /-- Of each bucket, the units that have been sent or are held were granted. -/
  within : ∀ b, (sendings d ms).countP (·.2.bucketId = b) +
    t.invocations.countP (·.phase.holds? = some b) ≤ (units d ms).countP (·.2 = b)

theorem account_opening (state : σ) (line : τ) (sweeper : Option Sweeper)
    (deliveries : Agenda Delivery) :
    Account d plans [] (opening plans state line sweeper deliveries) := by
  refine ⟨?_, fun x hx => absurd hx List.not_mem_nil, List.nodup_nil, ?_⟩
  · intro n i hi
    change (plans.map Invocation.ofPlan)[n]? = some i at hi
    rw [List.getElem?_map] at hi
    obtain ⟨p, hp, rfl⟩ := Option.map_eq_some_iff.1 hi
    exact ⟨hp, .coming fun x hx => absurd hx List.not_mem_nil⟩
  · intro b
    change 0 + (plans.map Invocation.ofPlan).countP _ ≤ 0
    rw [List.countP_map, Nat.zero_add, Nat.le_zero, List.countP_eq_zero]
    exact fun p _ => Bool.false_ne_true

/-- What is done keeps each invocation where it can stand. -/
theorem Account.backed_after (h : Account d plans ms m.before) {i' : Invocation}
    (hi' : (m.after d k).invocations[n]? = some i') :
    plans[n]? = some i'.plan ∧ Backed d n i'.plan (ms ++ [m]) i'.phase := by
  have hlt : n < m.before.invocations.length := by
    rw [← Move.length_after (d := d) (k := k) m]
    exact (List.getElem?_eq_some_iff.1 hi').1
  have hi := List.getElem?_eq_getElem hlt
  generalize m.before.invocations[n] = i at hi
  obtain ⟨hplan, hbacked⟩ := h.backed n i hi
  cases Move.concerns (d := d) (k := k) hi with
  | turn he =>
    rw [(Move.after_turn he hi).1, List.getElem?_set_self hlt] at hi'
    obtain rfl := Option.some.inj hi'
    have hkeep : (i.turn d n m.tick m.before.shared).1.plan = i.plan :=
      (Invocation.turn_view hbacked.visits).1
    rw [hkeep]
    exact ⟨hplan, hbacked.turn he hi⟩
  | abort he =>
    rw [(Move.after_abort he hi).1, List.getElem?_set_self hlt] at hi'
    obtain rfl := Option.some.inj hi'
    rw [(Invocation.abort_view d n i m.before.shared).1]
    exact ⟨hplan, .past i.isPast_abort⟩
  | other hturn _ hsame =>
    obtain rfl := Option.some.inj (hsame.symm.trans hi')
    exact ⟨hplan, hbacked.append (Move.sends?_of_ne hturn)⟩

/-- **What is sent was granted, and is the first that its sender sends.** -/
theorem Account.of_sends? (h : Account d plans ms m.before) {x : Nat × Request}
    (hx : m.sends? d = some x) :
    Unsent d x.1 ms ∧ ∃ p, plans[x.1]? = some p ∧ Granted d x.1 p (ms ++ [m]) x.2 := by
  obtain ⟨he, i, hi, -⟩ := Move.inTurn?_eq_some hx
  obtain ⟨hplan, hbacked⟩ := h.backed _ _ hi
  obtain ⟨hno, hr⟩ := hbacked.of_offers? he hi (Move.sends?_turn he hi hx).2.1
  exact ⟨hno, i.plan, hplan, hr⟩

/-- How many invocations hold a unit when one of them has changed. -/
theorem countP_holds?_set (hi : t.invocations[n]? = some i) (i' : Invocation) (b : String) :
    (t.invocations.set n i').countP (·.phase.holds? = some b) +
        (if i.phase.holds? = some b then 1 else 0) =
      t.invocations.countP (·.phase.holds? = some b) +
        (if i'.phase.holds? = some b then 1 else 0) := by
  obtain ⟨hlt, rfl⟩ := List.getElem?_eq_some_iff.1 hi
  have hle := List.boole_getElem_le_countP (p := fun i : Invocation => i.phase.holds? = some b) hlt
  rw [List.countP_set hlt]
  simp only [decide_eq_true_eq] at hle ⊢
  omega

/-- **A unit that is sent or held was held before or has been granted.** -/
theorem Account.within_after (h : Account d plans ms m.before) (b : String) :
    (m.sends? d).toList.countP (·.2.bucketId = b) +
        (m.after d k).invocations.countP (·.phase.holds? = some b) ≤
      m.before.invocations.countP (·.phase.holds? = some b) +
        (m.unit? d).toList.countP (·.2 = b) := by
  -- Only in a turn something is granted or sent.
  have hquiet (hno : ∀ n, m.errand ≠ .turn n)
      (hle : (m.after d k).invocations.countP (·.phase.holds? = some b) ≤
        m.before.invocations.countP (·.phase.holds? = some b)) :
      (m.sends? d).toList.countP (·.2.bucketId = b) +
          (m.after d k).invocations.countP (·.phase.holds? = some b) ≤
        m.before.invocations.countP (·.phase.holds? = some b) +
          (m.unit? d).toList.countP (·.2 = b) := by
    rw [Move.sends?, Move.unit?, Move.inTurn?_of_ne hno, Move.inTurn?_of_ne hno]
    simpa using hle
  cases he : m.errand with
  | deliver | sweep =>
    refine hquiet (by simp [he]) (Nat.le_of_eq ?_)
    rw [Move.after, he]
    rfl
  | consume =>
    refine hquiet (by simp [he]) (Nat.le_of_eq ?_)
    rw [Move.after, he, perform, invocations_consume]
  | abort n =>
    refine hquiet (by simp [he]) ?_
    cases hi : m.before.invocations[n]? with
    | none => rw [(Move.after_of_none (Or.inl he) hi).1]
    | some i =>
      -- What a dropped invocation held is lost.
      have hset := countP_holds?_set hi (i.abort d n m.before.shared).1 b
      simp only [Phase.holds?_of_isPast i.isPast_abort, reduceCtorEq, if_false] at hset
      rw [(Move.after_abort he hi).1]
      omega
  | turn n =>
    cases hi : m.before.invocations[n]? with
    | none =>
      rw [Move.sends?, Move.unit?, Move.inTurn?_of_none he hi, Move.inTurn?_of_none he hi,
        (Move.after_of_none (Or.inr he) hi).1]
      simp
    | some i =>
      -- What the others hold stays as it is.
      have hset := countP_holds?_set hi (i.turn d n m.tick m.before.shared).1 b
      have hspends : Invocation.Spends (i.Has d n m.tick m.before.shared)
          (i.turn d n m.tick m.before.shared).1.phase.holds?
          (i.sends? d n m.tick m.before.shared) :=
        Invocation.spends_turn (h.backed n i hi).2.visits
      have hle := hspends.le b
      rw [Move.sends?, Move.unit?, Move.inTurn?_turn he hi, Move.inTurn?_turn he hi,
        (Move.after_turn he hi).1, Option.toList_map, Option.toList_map, List.countP_map,
        List.countP_map]
      simp only [Function.comp_def]
      omega

/-- **Whatever is done, the account is kept.** -/
theorem Account.after (h : Account d plans ms m.before) :
    Account d plans (ms ++ [m]) (m.after d k) := by
  refine ⟨fun n i' hi' => h.backed_after hi', ?_, ?_, ?_⟩
  · intro x hx
    rw [sendings_append] at hx
    rcases List.mem_append.1 hx with hx | hx
    · obtain ⟨p, hp, hr⟩ := h.granted x hx
      exact ⟨p, hp, hr.append m⟩
    · exact (h.of_sends? (Option.mem_toList.1 hx)).2
  · rw [sendings_append, List.map_append]
    cases hx : m.sends? d with
    | none => simpa using h.once
    | some x =>
      -- The sender of this message has sent none before.
      refine List.nodup_append.2 ⟨h.once, List.nodup_singleton _, ?_⟩
      intro a ha a' ha'
      obtain ⟨y, hy, rfl⟩ := List.mem_map.1 ha
      obtain rfl := List.mem_singleton.1 ha'
      exact (h.of_sends? hx).1 y hy
  · intro b
    have hbefore := h.within b
    have hmove := h.within_after (k := k) b
    rw [sendings_append, units_append, List.countP_append, List.countP_append]
    omega

theorem Passage.account {state : σ} {line : τ} {sweeper : Option Sweeper}
    {deliveries : Agenda Delivery}
    (h : Passage d k (opening plans state line sweeper deliveries) ms t) :
    Account d plans ms t := by
  induction h with
  | start => exact account_opening state line sweeper deliveries
  | @move ms t _ tick e ih => exact ih.after (m := ⟨t, tick, e⟩)

/-- Every move of a passage is the last one of another. -/
theorem Passage.of_mem (h : Passage d k t₀ ms t) (hm : m ∈ ms) :
    ∃ ms', Passage d k t₀ ms' m.before := by
  induction h with
  | start => cases hm
  | @move ms t h tick e ih =>
    rcases List.mem_append.1 hm with hm | hm
    · exact ih hm
    · obtain rfl := List.mem_singleton.1 hm
      exact ⟨ms, h⟩

/-! ### What has ended -/

/-- **An invocation that has ended sends nothing any more**, and stays as it is. -/
theorem Passage.ended (h : Passage d k t ms t') (hi : t.invocations[n]? = some i)
    (hover : i.isOver = true) : t'.invocations[n]? = some i ∧ Unsent d n ms := by
  induction h with
  | start => exact ⟨hi, fun x hx => absurd hx List.not_mem_nil⟩
  | @move ms t' _ tick e ih =>
    obtain ⟨hi', hno⟩ := ih
    have hlt := (List.getElem?_eq_some_iff.1 hi').1
    cases Move.concerns (m := ⟨t', tick, e⟩) (d := d) (k := k) hi' with
    | turn he =>
      rw [(Move.after_turn he hi').1, Invocation.turn_of_isOver hover]
      refine ⟨List.getElem?_set_self hlt, hno.append fun x hx => ?_⟩
      have hnone : i.offers? d n tick t'.shared = none :=
        Invocation.offers?_eq_none_of_isPast (Invocation.isPast_of_isOver hover)
      cases hnone.symm.trans (Move.sends?_turn he hi' hx).2.1
    | abort he =>
      rw [(Move.after_abort he hi').1, Invocation.abort_of_isOver hover]
      refine ⟨List.getElem?_set_self hlt, hno.append (Move.sends?_of_ne ?_)⟩
      rw [he]
      exact nofun
    | other hturn _ hsame => exact ⟨hsame, hno.append (Move.sends?_of_ne hturn)⟩

/-! ### Messages -/

theorem mem_messages {x : Nat × Bytes} :
    x ∈ messages d ms ↔ ∃ y ∈ sendings d ms, (y.1, y.2.toUtf8) = x :=
  List.mem_map

theorem countP_messages (b : String) :
    (messages d ms).countP (fun x => (Request.ofUtf8? x.2).any (·.bucketId = b)) =
      (sendings d ms).countP (·.2.bucketId = b) := by
  unfold messages
  rw [List.countP_map]
  simp only [Function.comp_def, Request.ofUtf8?_toUtf8, Option.any_some]

/-- **Messages are covered by units.** -/
structure Covered (d : Dispatcher σ τ) (k : Consumer) (plans : List Plan) (ms : List (Move σ τ))
    (t : Traffic σ τ) : Prop where
  /-- The messages of a bucket are at most as many as the units that were granted of it. -/
  within : ∀ b, (messages d ms).countP (fun x => (Request.ofUtf8? x.2).any (·.bucketId = b)) ≤
    (units d ms).countP (·.2 = b)
  /-- Nobody sends two messages. -/
  once : ((messages d ms).map (·.1)).Nodup
  /-- A message is read as what its sender was to send, and has the bucket at which its sender was
  granted a unit. -/
  content : ∀ x ∈ messages d ms, ∃ p, plans[x.1]? = some p ∧ ∃ m ∈ ms, ∃ v,
    m.grant? d x.1 = some v ∧ Invocation.bucket d p.call = .ok v.bucket ∧
      (x.1, v.bucket) ∈ units d ms ∧
      Request.ofUtf8? x.2 = some ⟨p.id, v.bucket, p.call.method, p.call.targetUrl, p.call.headers,
        p.call.body, d.returnAddress, Tick.clock d.start m.tick⟩
  /-- Who has not been granted a unit has not sent anything. -/
  ungranted : ∀ n, (∀ m ∈ ms, m.grant? d n = none) → ∀ x ∈ messages d ms, x.1 ≠ n
  /-- Who has ended before that sends nothing, whatever is done later. -/
  ended : ∀ n i, t.invocations[n]? = some i → i.isOver = true →
    (∀ m ∈ ms, m.grant? d n = none) → ∀ ms' t', Passage d k t ms' t' →
      ∀ x ∈ messages d (ms ++ ms'), x.1 ≠ n
  /-- The store changes by what it is asked. -/
  state : ∀ m ∈ ms, (m.after d k).shared.state = (m.asks? d).elim m.before.shared.state fun x =>
    (d.store.take (Tick.clock d.start m.tick) x.2.bucket 1 m.before.shared.state).2
  /-- The queue changes by what it is offered, by a sender that goes away, and by what is taken out
  of it. -/
  line : ∀ m ∈ ms, (∃ x, m.offers? d = some x ∧ (m.after d k).shared.line =
      (d.queue.offer x.1 x.2.toUtf8 m.before.shared.line).2) ∨
    m.offers? d = none ∧ ((m.after d k).shared.line = m.before.shared.line ∨
      (∃ n, (m.after d k).shared.line = d.queue.withdraw n m.before.shared.line) ∨
      ∃ bytes, d.queue.receive m.before.shared.line = some (bytes, (m.after d k).shared.line))

/-- **Nothing is sent without a unit, and nothing twice.** Any number of invocations, of which some
may have the same id, share a store that takes its time and may fail, and a queue that may refuse
messages or make them wait. At every point of every passage, whatever has been done, in whatever
order and at whatever ticks: what the queue has accepted was granted, once, and is what the
invocation was to send. -/
theorem Passage.sends_granted {state : σ} {line : τ} {sweeper : Option Sweeper}
    {deliveries : Agenda Delivery}
    (h : Passage d k (opening plans state line sweeper deliveries) ms t) :
    Covered d k plans ms t := by
  have haccount := h.account
  have hvisits {m : Move σ τ} (hm : m ∈ ms) : ∀ i ∈ m.before.invocations, i.Visits := by
    intro i hi
    obtain ⟨ms', hpassage⟩ := h.of_mem hm
    obtain ⟨n, hn⟩ := List.mem_iff_getElem?.1 hi
    exact (hpassage.account.backed n i hn).2.visits
  -- Every message comes from a grant.
  have hungranted (n : Nat) (hno : ∀ m ∈ ms, m.grant? d n = none) : Unsent d n ms := by
    rintro x hx rfl
    obtain ⟨p, -, m, hm, v, hgrant, -⟩ := haccount.granted x hx
    cases (hno m hm).symm.trans hgrant
  refine ⟨?_, ?_, ?_, ?_, ?_, fun m hm => Move.state_after (hvisits hm),
    fun m hm => Move.line_after (hvisits hm)⟩
  · intro b
    rw [countP_messages]
    exact Nat.le_trans (Nat.le_add_right _ _) (haccount.within b)
  · unfold messages
    rw [List.map_map]
    exact haccount.once
  · intro x hx
    obtain ⟨y, hy, rfl⟩ := mem_messages.1 hx
    obtain ⟨p, hp, m, hm, v, hgrant, hb, hu, hr⟩ := haccount.granted y hy
    refine ⟨p, hp, m, hm, v, hgrant, hb, hu, ?_⟩
    rw [Request.ofUtf8?_toUtf8, hr]
    rfl
  · intro n hno x hx
    obtain ⟨y, hy, rfl⟩ := mem_messages.1 hx
    exact hungranted n hno y hy
  · intro n i hi hover hno ms' t' hlater x hx
    obtain ⟨y, hy, rfl⟩ := mem_messages.1 hx
    rw [sendings, List.filterMap_append] at hy
    rcases List.mem_append.1 hy with hy | hy
    · exact hungranted n hno y hy
    · exact (hlater.ended hi hover).2 y hy

/-- The first two invocations are granted a unit each. There is room for one of their messages. -/
theorem sends_granted_crowded : ∃ ms t, Passage smallDispatcher lateConsumer crowded ms t ∧
    Covered smallDispatcher lateConsumer crowd ms t ∧
    (units smallDispatcher ms).map (·.2) = ["b", "b"] ∧
    (messages smallDispatcher ms).map (·.1) = [0] := by
  have h : Passage smallDispatcher lateConsumer crowded _ _ :=
    (Passage.start.move 0 (.turn 0)).move 0 (.turn 1)
  exact ⟨_, _, h, h.sends_granted, by decide +kernel, by decide +kernel⟩

end Sluice.Traffic
