import Sluice.Proofs.Dispatch.Agreement
import Sluice.Proofs.Dispatch.Fate
import Sluice.Proofs.Dispatch.Order

/-!
# A sweeper changes nothing

A run with a sweeper and a run without one do the same at the same ticks, the sweeps apart. A sweep
expires entries whose deadlines have passed; their invocations would do so themselves at the same
tick, before anything is done at a later one. What a sweep can change is whether an answer still
finds its entry that arrives at the tick to which the deadline is rounded up.

* `Traffic.schedule` : what is done in a journey, and when, the sweeps apart;
* `Traffic.Abreast` : an invocation in a journey with a sweeper and in one without;
* `Traffic.Follows` : where everything stands in the two;
* `Traffic.Follows.move`, `Traffic.Follows.sweep`, `Traffic.Follows.catch_up` : so it stays when the
  same is done in both, when the sweeper sweeps, and until the sweeper has caught up;
* `Traffic.Journey.unsweep`, `Traffic.Journey.resweep` : what can be done with the sweeper can be
  done without it, and the other way round;
* `Traffic.sweeper_changes_nothing` : two journeys with one schedule, with a sweeper and
  without, come to the same.
-/

namespace Sluice

variable {σ τ : Type} {d : Dispatcher σ τ} {k : Consumer} {now tick : Tick}

theorem Invocation.orCancel_le (i : Invocation) (t : Tick) : i.orCancel t ≤ t := by
  unfold orCancel
  cases i.plan.cancel with
  | none => exact Nat.le_refl t
  | some c => exact Nat.min_le_left t c

/-- It is a sweep. -/
def Errand.isSweep : Errand → Bool
  | .sweep _ => true
  | _ => false

/-- The answer that arrives. -/
def Errand.delivery? : Errand → Option Delivery
  | .deliver _ x => some x
  | _ => none

namespace Traffic

variable {t t₀ : Traffic σ τ} {ms : List (Move σ τ)} {i : Invocation} {n : Nat} {e : Errand}
  {plans : List Plan} {state : σ} {line : τ} {sweeper : Option Sweeper}
  {deliveries : Agenda Delivery}

/-! ### What there is to do -/

theorem mem_sweeps {due : Tick} : (due, e) ∈ t.sweeps ↔
    ∃ w, t.sweeper = some w ∧ Tick.atOrAfter w.next = due ∧ .sweep w = e := by
  simp only [sweeps, Option.mem_toList, Option.map_eq_some_iff, Prod.mk.injEq]

theorem mem_agenda_iff (he : e.isSweep = false) : (tick, e) ∈ t.agenda d k ↔
    ∃ due, tick = max t.now due ∧
      ((due, e) ∈ t.arrivals ∨ (due, e) ∈ t.business d ∨ (due, e) ∈ t.supply d k) := by
  constructor
  · intro h
    obtain ⟨due, rfl, hmem | hmem | hmem⟩ := of_mem_agenda h
    · exact ⟨due, rfl, Or.inl hmem⟩
    · obtain ⟨w, -, -, rfl⟩ := mem_sweeps.1 hmem
      cases he
    · exact ⟨due, rfl, Or.inr hmem⟩
  · rintro ⟨due, rfl, hmem⟩
    refine List.mem_map.2 ⟨(due, e), ?_, rfl⟩
    have hall : (due, e) ∈ t.arrivals ++ (t.business d ++ t.supply d k) := by
      simpa only [List.mem_append] using hmem
    split_ifs with hempty
    · simp only [Bool.and_eq_true, List.isEmpty_iff] at hempty
      rwa [hempty.1, hempty.2] at hall
    · simp only [List.mem_append] at hall ⊢
      tauto

theorem mem_agenda_sweep {w : Sweeper} {x : Tick × Errand} (hw : t.sweeper = some w)
    (h : x ∈ t.agenda d k) : (max t.now (Tick.atOrAfter w.next), .sweep w) ∈ t.agenda d k := by
  unfold agenda at h ⊢
  dsimp only at h ⊢
  split_ifs at h ⊢
  · cases h
  · refine List.mem_map.2 ⟨(Tick.atOrAfter w.next, .sweep w), ?_, rfl⟩
    have := mem_sweeps.2 ⟨w, hw, rfl, rfl⟩
    simp [this]

theorem of_mem_agenda_isSweep (he : e.isSweep = true) (h : (tick, e) ∈ t.agenda d k) :
    ∃ w, t.sweeper = some w ∧ e = .sweep w ∧ tick = max t.now (Tick.atOrAfter w.next) := by
  obtain ⟨due, rfl, hmem | hmem | hmem | hmem⟩ := of_mem_agenda h
  · simp only [arrivals, List.mem_map, Prod.mk.injEq] at hmem
    obtain ⟨x, -, -, rfl⟩ := hmem
    cases he
  · obtain ⟨w, hw, rfl, rfl⟩ := mem_sweeps.1 hmem
    exact ⟨w, hw, rfl, rfl⟩
  · obtain ⟨m, i, -, ⟨-, rfl⟩ | ⟨-, rfl⟩⟩ := mem_business.1 hmem <;> cases he
  · unfold supply at hmem
    split_ifs at hmem
    · obtain ⟨rfl, rfl⟩ := Prod.mk.inj (List.mem_singleton.1 hmem)
      cases he
    · cases hmem

theorem isSweep_eq_false (hw : t.sweeper = none) (h : (tick, e) ∈ t.agenda d k) :
    e.isSweep = false := by
  cases he : e.isSweep with
  | false => rfl
  | true =>
    obtain ⟨w, hsome, -⟩ := of_mem_agenda_isSweep he h
    cases hw.symm.trans hsome

/-! ### With a sweeper and without -/

theorem max_eq_of_le_max {a b c : Nat} (hle : b ≤ a) (h : a ≤ max b c) : max a c = max b c := by
  omega

/-- An invocation and its registration in a journey with a sweeper, whose table is `T`, and in one
without, whose table is `T₀`. -/
inductive Abreast (d : Dispatcher σ τ) (now : Tick) (T T₀ : Table) (i : Invocation) : Prop where
  /-- No sweep has concerned it. -/
  | same (h : Table.Agree i.plan.id i.phase.ticket? T T₀)
  /-- A sweep has expired its entry at its deadline, and it has not had a turn since. -/
  | swept {ticket : Nat} (hp : i.phase = .awaiting (i.plan.deadline d) ticket)
    (hf : T.find? i.plan.id = none) (hbox : T.box ticket = .holding .expired)
    (hbox₀ : T₀.box ticket = .waiting) (hlate : Tick.atOrAfter (i.plan.deadline d) = now)

namespace Abreast

variable {s s₀ : Shared σ τ} {T T₀ : Table}

theorem turn (h : Abreast d now s.board.table s₀.board.table i) (halike : s.Alike s₀)
    (hle : now ≤ tick) : Invocation.Same (i.turn d n tick s) (i.turn d n tick s₀) := by
  cases h with
  | same h => exact Invocation.same_turn halike h
  | swept hp hf hbox hbox₀ hlate =>
    have hd : i.plan.deadline d ≤ Tick.instant tick := by
      refine Int.le_trans (Tick.le_instant_atOrAfter _) ?_
      rw [hlate]
      exact Int.mul_le_mul_of_nonneg_right (Int.ofNat_le.2 hle) (by decide)
    unfold Invocation.turn
    rw [hp]
    exact Invocation.same_look_of_expired halike hd hbox hbox₀

theorem abort (h : Abreast d now s.board.table s₀.board.table i) (halike : s.Alike s₀) :
    Invocation.Same (i.abort d n s) (i.abort d n s₀) := by
  refine Invocation.same_abort halike fun hnone => ?_
  cases h with
  | same h => exact h.find?
  | swept hp =>
    rw [hp] at hnone
    cases hnone

theorem look_at {now₀ : Tick} {deadline : Instant} {ticket : Nat} (h : Abreast d now T T₀ i)
    (hp : i.phase = .awaiting deadline ticket) (hle : now₀ ≤ now)
    (hnext : now ≤ max now₀
      (if T₀.box ticket = .waiting then i.orCancel (Tick.atOrAfter deadline) else now₀)) :
    max now (if T.box ticket = .waiting then i.orCancel (Tick.atOrAfter deadline) else now) =
      max now₀
        (if T₀.box ticket = .waiting then i.orCancel (Tick.atOrAfter deadline) else now₀) := by
  cases h with
  | same h =>
    rw [h.box ticket (by rw [hp]; rfl)]
    split_ifs at hnext ⊢
    · exact max_eq_of_le_max hle hnext
    · rw [Nat.max_self] at hnext ⊢
      rw [Nat.max_self]
      exact Nat.le_antisymm hnext hle
  | swept hp' hf hbox hbox₀ hlate =>
    -- In one it looks into its box at once, in the other one its deadline is now.
    obtain ⟨rfl, rfl⟩ := Phase.awaiting.inj (hp.symm.trans hp')
    rw [if_pos hbox₀] at hnext ⊢
    have hmin : i.orCancel (Tick.atOrAfter (i.plan.deadline d)) ≤ now := by
      rw [hlate]
      exact i.orCancel_le now
    rw [if_neg (by rw [hbox]; exact nofun), Nat.max_self]
    exact Nat.le_antisymm hnext (Nat.max_le.2 ⟨hle, hmin⟩)

theorem due? {now₀ : Tick} (h : Abreast d now s.board.table s₀.board.table i)
    (hroom : ¬i.phase.IsHanding) (hle : now₀ ≤ now)
    (hnext : ∀ due, i.due? d n now₀ s₀ = some due → now ≤ max now₀ due) :
    (i.due? d n now s).map (max now) = (i.due? d n now₀ s₀).map (max now₀) := by
  have hmax {due : Tick} (h : now ≤ max now₀ due) : max now due = max now₀ due :=
    max_eq_of_le_max hle h
  unfold Invocation.due? at hnext ⊢
  cases hp : i.phase with
  | coming =>
    rw [hp] at hnext
    exact congrArg some (hmax (hnext _ rfl))
  | admission deadline v w =>
    rw [hp] at hnext
    cases w with
    | answer => exact congrArg some (hmax (hnext _ rfl))
    | wake => exact congrArg some (hmax (hnext _ rfl))
  | handing =>
    rw [hp] at hroom
    exact absurd trivial hroom
  | awaiting deadline ticket =>
    rw [hp] at hnext
    exact congrArg some (h.look_at hp hle (hnext _ rfl))
  | ended | dropped | broken => rfl

/-- What leaves its registration alone leaves it so; after a sweep nothing else comes first. -/
theorem frame {ticket : Nat} {T' T₀' : Table} (h : Abreast d now T T₀ i)
    (hticket : i.phase.ticket? = some ticket)
    (hsame : T'.find? i.plan.id = T.find? i.plan.id ∧ T'.box ticket = T.box ticket)
    (hsame₀ : T₀'.find? i.plan.id = T₀.find? i.plan.id ∧ T₀'.box ticket = T₀.box ticket)
    (hnow : ∀ deadline, i.phase = .awaiting deadline ticket → T.box ticket ≠ .waiting →
      tick = now) : Abreast d tick T' T₀' i := by
  cases h with
  | same h =>
    refine .same ⟨by rw [hsame.1, hsame₀.1, h.find?], fun m hm => ?_⟩
    obtain rfl := Option.some.inj (hticket.symm.trans hm)
    rw [hsame.2, hsame₀.2, h.box ticket hticket]
  | @swept ticket' hp hf hb hb₀ hlate =>
    obtain rfl : ticket = ticket' := by
      rw [hp] at hticket
      exact (Option.some.inj hticket).symm
    have hnow := hnow _ hp (by rw [hb]; exact nofun)
    exact .swept hp (hsame.1.trans hf) (hsame.2.trans hb) (hsame₀.2.trans hb₀)
      (hlate.trans hnow.symm)

/-- What others do leaves it so. -/
theorem elsewhere
    (h : Abreast d t.now t.shared.board.table t₀.shared.board.table i) (ho : t.Orderly d)
    (ho₀ : t₀.Orderly d) (hi : t.invocations[n]? = some i) (hi₀ : t₀.invocations[n]? = some i)
    (hdue : Due d k t tick e) (he : e.isSweep = false) (hturn : e ≠ .turn n)
    (habort : e ≠ .abort n) (hdeliver : ∀ place x, e = .deliver place x → x.id ≠ i.plan.id) :
    Abreast d tick (Move.after d k ⟨t, tick, e⟩).shared.board.table
      (Move.after d k ⟨t₀, tick, e⟩).shared.board.table i := by
  cases hticket : i.phase.ticket? with
  | none =>
    -- Without a ticket it has no entry, before and after.
    refine .same (hticket ▸ .of_absent ?_ ?_)
    · exact (ho.registered_after tick e).find?_eq_none
        (Move.getElem?_after (m := ⟨t, tick, e⟩) hi hturn habort) hticket
    · exact (ho₀.registered_after tick e).find?_eq_none
        (Move.getElem?_after (m := ⟨t₀, tick, e⟩) hi₀ hturn habort) hticket
  | some ticket =>
    have hsame {t : Traffic σ τ} (ho : t.Orderly d) (hi : t.invocations[n]? = some i) :
        (Move.after d k ⟨t, tick, e⟩).shared.board.table.find? i.plan.id =
            t.shared.board.table.find? i.plan.id ∧
          (Move.after d k ⟨t, tick, e⟩).shared.board.table.box ticket =
            t.shared.board.table.box ticket := by
      rcases ho.registered.elsewhere ho.visits hi hticket hturn habort hdeliver
        (rfl : (Move.after d k ⟨t, tick, e⟩).shared.board.table = _) with hsame | ⟨w, -, rfl, -⟩
      · exact hsame
      · cases he
    exact h.frame hticket (hsame ho hi) (hsame ho₀ hi₀) fun _ => hdue.eq_now hi

/-- A sweep leaves it so: the deadline of an entry that it expires is now. -/
theorem sweep {w : Sweeper} (h : Abreast d t.now t.shared.board.table t₀.shared.board.table i)
    (ho : t.Orderly d) (ho₀ : t₀.Orderly d) (hi : t.invocations[n]? = some i)
    (hi₀ : t₀.invocations[n]? = some i) (hdue : Due d k t tick (.sweep w)) :
    Abreast d tick (Move.after d k ⟨t, tick, .sweep w⟩).shared.board.table
      t₀.shared.board.table i := by
  cases hticket : i.phase.ticket? with
  | none =>
    refine .same (hticket ▸ .of_absent ?_ (ho₀.registered.find?_eq_none hi₀ hticket))
    exact (ho.registered_after (k := k) tick (.sweep w)).find?_eq_none hi hticket
  | some ticket =>
    rcases ho.registered.elsewhere (d := d) (k := k) (e := .sweep w) ho.visits hi hticket
        nofun nofun (fun _ _ hc => by cases hc)
        (rfl : (Move.after d k ⟨t, tick, .sweep w⟩).shared.board.table = _) with
      hsame | ⟨_, entry, ⟨⟩, hf, hp, hover, hgone, hbox⟩
    · exact h.frame hticket hsame ⟨rfl, rfl⟩ fun _ => hdue.eq_now hi
    · cases h with
      | swept _ hf' =>
        rw [hf] at hf'
        cases hf'
      | same hagree =>
        -- Both tables had the entry, whose deadline is now: the sweep does not come before it, and
        -- nothing is done after it while the invocation waits.
        obtain rfl : ticket = entry.ticket :=
          Option.some.inj (hticket.symm.trans (ho.registered.held hi hf))
        have hf₀ := hagree.find?.symm.trans hf
        obtain ⟨hist, hsound⟩ := ho₀.registered.sound
        have hbox₀ := hsound.pending _ (Table.mem_of_find? hf₀) hp
        obtain ⟨hphase, hin⟩ := (hdue.onTime hi (ho.onTime hi)).eq_awaiting hticket (ho.room hi)
        refine .swept hphase hgone hbox hbox₀ (Nat.le_antisymm ?_ hin.1)
        rw [← ho.dated hi hf]
        exact Tick.atOrAfter_le hover

end Abreast

/-- Where everything stands in a journey with a sweeper, and in one without, in which the same has
been done. -/
structure Follows (d : Dispatcher σ τ) (k : Consumer) (t t₀ : Traffic σ τ) : Prop where
  invocations : t.invocations = t₀.invocations
  shared : t.shared.Alike t₀.shared
  deliveries : t.deliveries = t₀.deliveries
  taken : t.taken = t₀.taken
  resolved : t.resolved = t₀.resolved
  interval : ∀ w, t.sweeper = some w → 0 < w.interval
  unswept : t₀.sweeper = none
  now_le : t₀.now ≤ t.now
  next : ∀ x ∈ t₀.agenda d k, t.now ≤ x.1
  abreast : ∀ {n : Nat} {i : Invocation}, t.invocations[n]? = some i →
    Abreast d t.now t.shared.board.table t₀.shared.board.table i

theorem Move.after_deliver {place : Nat} {x : Delivery} :
    Move.after d k ⟨t, tick, .deliver place x⟩ = { t with
      now := tick
      shared := { t.shared with board := (t.shared.board.resolve x.id x.response).2 }
      deliveries := t.deliveries.eraseIdx place
      resolved := (tick, x.number, (t.shared.board.resolve x.id x.response).1) :: t.resolved } :=
  rfl

theorem Move.sweeper_after {m : Move σ τ} (he : m.errand.isSweep = false) :
    (m.after d k).sweeper = m.before.sweeper := by
  obtain ⟨t, tick, e⟩ := m
  have hact {n : Nat} {f : Invocation → Shared σ τ → Invocation × Shared σ τ} :
      (({ t with now := tick } : Traffic σ τ).act n f).sweeper = t.sweeper := by
    unfold act
    split <;> rfl
  cases e with
  | deliver => rfl
  | sweep => cases he
  | abort => exact hact
  | turn => exact hact
  | consume =>
    show (({ t with now := tick } : Traffic σ τ).consume d k).sweeper = t.sweeper
    unfold consume
    split
    · rfl
    · dsimp only
      split <;> rfl

theorem business_of_due? {t t' : Traffic σ τ} {due : Tick}
    (hinvocations : t.invocations = t'.invocations)
    (habort : ∀ (n : Nat) (i : Invocation) (due : Tick), t.invocations[n]? = some i →
      i.abortDue? = some due → max t.now due = max t'.now due)
    (hdue : ∀ (n : Nat) (i : Invocation), t.invocations[n]? = some i →
      (i.due? d n t.now t.shared).map (max t.now) = (i.due? d n t'.now t'.shared).map (max t'.now))
    (h : (due, e) ∈ t.business d) :
    ∃ due', max t.now due = max t'.now due' ∧ (due', e) ∈ t'.business d := by
  obtain ⟨n, i, hi, ⟨hwait, rfl⟩ | ⟨hwait, rfl⟩⟩ := mem_business.1 h
  · exact ⟨due, habort n i due hi hwait,
      mem_business.2 ⟨n, i, hinvocations ▸ hi, Or.inl ⟨hwait, rfl⟩⟩⟩
  · have hdue := hdue n i hi
    rw [hwait, Option.map_some] at hdue
    obtain ⟨due', hwait', heq⟩ := Option.map_eq_some_iff.1 hdue.symm
    exact ⟨due', heq.symm, mem_business.2 ⟨n, i, hinvocations ▸ hi, Or.inr ⟨hwait', rfl⟩⟩⟩

theorem consume_congr (d : Dispatcher σ τ) (k : Consumer) (t t₀ : Traffic σ τ)
    (hnow : t.now = t₀.now) (hline : t.shared.line = t₀.shared.line)
    (hdeliveries : t.deliveries = t₀.deliveries) (htaken : t.taken = t₀.taken) :
    (t.consume d k).shared.line = (t₀.consume d k).shared.line ∧
      (t.consume d k).deliveries = (t₀.consume d k).deliveries ∧
      (t.consume d k).taken = (t₀.consume d k).taken := by
  unfold Traffic.consume answered
  rw [hline]
  split
  · exact ⟨hline, hdeliveries, htaken⟩
  · dsimp only
    split
    · exact ⟨rfl, hdeliveries, htaken⟩
    · dsimp only
      rw [hnow, hdeliveries, htaken]
      exact ⟨rfl, rfl, rfl⟩

theorem resolved_consume (d : Dispatcher σ τ) (k : Consumer) (t : Traffic σ τ) :
    (t.consume d k).resolved = t.resolved := by
  unfold Traffic.consume
  split
  · rfl
  · dsimp only
    split <;> rfl

namespace Follows

theorem getElem?₀ (h : Follows d k t t₀) (hi : t.invocations[n]? = some i) :
    t₀.invocations[n]? = some i := h.invocations ▸ hi

theorem arrivals_eq (h : Follows d k t t₀) : t.arrivals = t₀.arrivals := by
  unfold arrivals
  rw [h.deliveries]

theorem supply_eq (h : Follows d k t t₀) : t.supply d k = t₀.supply d k := by
  unfold supply
  rw [h.shared.line]

/-- Sweeps may have put things off here, but not beyond the tick at which they are done there. -/
theorem max_now (h : Follows d k t t₀) {due : Tick} (he : e.isSweep = false)
    (hmem : (due, e) ∈ t₀.arrivals ∨ (due, e) ∈ t₀.business d ∨ (due, e) ∈ t₀.supply d k) :
    max t.now due = max t₀.now due :=
  max_eq_of_le_max h.now_le (h.next _ ((mem_agenda_iff he).2 ⟨due, rfl, hmem⟩))

theorem business_iff (h : Follows d k t t₀) (ho : t.Orderly d) :
    (∃ due, tick = max t.now due ∧ (due, e) ∈ t.business d) ↔
      ∃ due, tick = max t₀.now due ∧ (due, e) ∈ t₀.business d := by
  have habort (n : Nat) (i : Invocation) (due : Tick) (hi : t₀.invocations[n]? = some i)
      (hwait : i.abortDue? = some due) : max t.now due = max t₀.now due :=
    h.max_now (e := .abort n) rfl
      (Or.inr (Or.inl (mem_business.2 ⟨n, i, hi, Or.inl ⟨hwait, rfl⟩⟩)))
  have hdue (n : Nat) (i : Invocation) (hi : t.invocations[n]? = some i) :
      (i.due? d n t.now t.shared).map (max t.now) =
        (i.due? d n t₀.now t₀.shared).map (max t₀.now) :=
    (h.abreast hi).due? (ho.room hi) h.now_le fun due hdue =>
      h.next _ (mem_agenda_turn (h.getElem?₀ hi) hdue)
  constructor
  · rintro ⟨due, rfl, hmem⟩
    exact business_of_due? h.invocations (fun n i due hi => habort n i due (h.getElem?₀ hi)) hdue
      hmem
  · rintro ⟨due, rfl, hmem⟩
    exact business_of_due? h.invocations.symm
      (fun n i due hi hwait => (habort n i due hi hwait).symm)
      (fun n i hi => (hdue n i (h.invocations ▸ hi)).symm) hmem

theorem agenda_iff (h : Follows d k t t₀) (ho : t.Orderly d) (he : e.isSweep = false) :
    (tick, e) ∈ t.agenda d k ↔ (tick, e) ∈ t₀.agenda d k := by
  rw [mem_agenda_iff he, mem_agenda_iff he]
  constructor
  · rintro ⟨due, htick, hmem | hmem | hmem⟩
    · rw [h.arrivals_eq] at hmem
      exact ⟨due, htick.trans (h.max_now he (Or.inl hmem)), Or.inl hmem⟩
    · obtain ⟨due₀, heq, hmem₀⟩ := (h.business_iff ho).1 ⟨due, htick, hmem⟩
      exact ⟨due₀, heq, Or.inr (Or.inl hmem₀)⟩
    · rw [h.supply_eq] at hmem
      exact ⟨due, htick.trans (h.max_now he (Or.inr (Or.inr hmem))), Or.inr (Or.inr hmem)⟩
  · rintro ⟨due, htick, hmem⟩
    have heq := htick.trans (h.max_now he hmem).symm
    rcases hmem with hmem | hmem | hmem
    · exact ⟨due, heq, Or.inl (h.arrivals_eq ▸ hmem)⟩
    · obtain ⟨due', heq', hmem'⟩ := (h.business_iff ho).2 ⟨due, htick, hmem⟩
      exact ⟨due', heq', Or.inr (Or.inl hmem')⟩
    · exact ⟨due, heq, Or.inr (Or.inr (h.supply_eq ▸ hmem))⟩

/-- What is due with a sweeper is due without it. -/
theorem due₀ (h : Follows d k t t₀) (ho : t.Orderly d) (he : e.isSweep = false)
    (hdue : Due d k t tick e) : Due d k t₀ tick e :=
  ⟨(h.agenda_iff ho he).1 hdue.1, fun _ hx =>
    hdue.2 _ ((h.agenda_iff ho (isSweep_eq_false h.unswept hx)).2 hx)⟩

/-- What is due without a sweeper is due with it, unless a sweep is due earlier. -/
theorem due (h : Follows d k t t₀) (ho : t.Orderly d) (hdue : Due d k t₀ tick e)
    (hw : ∀ w, t.sweeper = some w → tick ≤ max t.now (Tick.atOrAfter w.next)) :
    Due d k t tick e := by
  refine ⟨(h.agenda_iff ho (isSweep_eq_false h.unswept hdue.1)).2 hdue.1, fun x hx => ?_⟩
  obtain ⟨tick', e'⟩ := x
  cases he' : e'.isSweep with
  | false => exact hdue.2 _ ((h.agenda_iff ho he').1 hx)
  | true =>
    obtain ⟨w, hsome, -, htick⟩ := of_mem_agenda_isSweep he' hx
    exact htick ▸ hw w hsome

/-- What has to be shown when both do the same. -/
theorem of_move (h : Follows d k t t₀) (he : e.isSweep = false) {t' t₀' : Traffic σ τ}
    (ht' : t' = Move.after d k ⟨t, tick, e⟩) (ht₀' : t₀' = Move.after d k ⟨t₀, tick, e⟩)
    (hinvocations : t'.invocations = t₀'.invocations) (hshared : t'.shared.Alike t₀'.shared)
    (hdeliveries : t'.deliveries = t₀'.deliveries) (htaken : t'.taken = t₀'.taken)
    (hresolved : t'.resolved = t₀'.resolved)
    (habreast : ∀ (n : Nat) (i : Invocation), t'.invocations[n]? = some i →
      Abreast d tick t'.shared.board.table t₀'.shared.board.table i) : Follows d k t' t₀' := by
  subst ht' ht₀'
  refine ⟨hinvocations, hshared, hdeliveries, htaken, hresolved, ?_, ?_, ?_, fun x hx => ?_, ?_⟩
  · rw [Move.sweeper_after he]
    exact h.interval
  · rw [Move.sweeper_after he]
    exact h.unswept
  · exact Nat.le_of_eq ((Move.now_after _).trans (Move.now_after ⟨t, tick, e⟩).symm)
  · have := now_le_of_mem_agenda hx
    rwa [Move.now_after] at this ⊢
  · rw [Move.now_after]
    exact fun hi => habreast _ _ hi

theorem find?_eq (h : Follows d k t t₀) (ho : t.Orderly d) (ho₀ : t₀.Orderly d) {id : Uuid}
    (hagree : ∀ (n : Nat) (i : Invocation), t.invocations[n]? = some i → i.plan.id = id →
      Table.Agree id i.phase.ticket? t.shared.board.table t₀.shared.board.table) :
    t.shared.board.table.find? id = t₀.shared.board.table.find? id := by
  by_cases hsome : ∃ (n : Nat) (i : Invocation), t.invocations[n]? = some i ∧ i.plan.id = id
  · obtain ⟨n, i, hi, hid⟩ := hsome
    exact (hagree n i hi hid).find?
  · have hnone {t : Traffic σ τ} (ho : t.Orderly d)
        (hnone : ¬∃ (n : Nat) (i : Invocation), t.invocations[n]? = some i ∧ i.plan.id = id) :
        t.shared.board.table.find? id = none :=
      Option.eq_none_iff_forall_ne_some.2 fun e he => hnone (ho.registered.known he)
    exact (hnone ho hsome).trans (hnone ho₀ (h.invocations ▸ hsome)).symm

/-- An answer finds the same, unless a sweep has expired the entry that it is for. -/
theorem deliver {place : Nat} {x : Delivery} (h : Follows d k t t₀) (ho : t.Orderly d)
    (ho₀ : t₀.Orderly d) (hdue : Due d k t tick (.deliver place x))
    (huntied : ∀ (n : Nat) (i : Invocation), t.invocations[n]? = some i → i.plan.id = x.id →
      tick ≠ Tick.atOrAfter (i.plan.deadline d)) :
    Follows d k (Move.after d k ⟨t, tick, .deliver place x⟩)
      (Move.after d k ⟨t₀, tick, .deliver place x⟩) := by
  have htable (b : Board) : (b.resolve x.id x.response).2.table =
      (b.table.resolve x.id x.response).2 := congrArg Prod.snd (Board.resolve_eq b _ _)
  -- No sweep has concerned the invocation that the answer is for, or it would be its deadline now.
  have hagree (n : Nat) (i : Invocation) (hi : t.invocations[n]? = some i)
      (hid : i.plan.id = x.id) : Table.Agree x.id i.phase.ticket? t.shared.board.table
        t₀.shared.board.table := by
    cases h.abreast hi with
    | same h => exact hid ▸ h
    | swept hp hf hbox hbox₀ hlate =>
      have hnow := hdue.eq_now hi hp (by rw [hbox]; exact nofun)
      exact absurd (hnow.trans hlate.symm) (huntied n i hi hid)
  have hnobody : Table.Agree x.id none t.shared.board.table t₀.shared.board.table :=
    ⟨h.find?_eq ho ho₀ hagree, nofun⟩
  obtain ⟨hresult, halike⟩ :=
    h.shared.board.resolve (hnobody.resolve h.shared.board.length x.response).1
  rw [Move.after_deliver, Move.after_deliver]
  refine h.of_move rfl Move.after_deliver.symm Move.after_deliver.symm h.invocations
    ⟨h.shared.state, h.shared.line, halike⟩ ?_ h.taken ?_ fun n i hi => ?_
  · exact congrArg (·.eraseIdx place) h.deliveries
  · exact congrArg₂ (fun r rs => (tick, x.number, r) :: rs) hresult h.resolved
  · by_cases hid : i.plan.id = x.id
    · have := ((hagree n i hi hid).resolve h.shared.board.length x.response).2
      rw [← htable, ← htable] at this
      exact .same (hid ▸ this)
    · exact (h.abreast hi).elsewhere ho ho₀ hi (h.getElem?₀ hi) hdue rfl nofun nofun
        fun _ _ he hx => hid (by cases he; exact hx.symm)

theorem consume (h : Follows d k t t₀) (ho : t.Orderly d) (ho₀ : t₀.Orderly d)
    (hdue : Due d k t tick .consume) :
    Follows d k (Move.after d k ⟨t, tick, .consume⟩) (Move.after d k ⟨t₀, tick, .consume⟩) := by
  have habreast (n : Nat) (i : Invocation) (hi : t.invocations[n]? = some i) :=
    (h.abreast hi).elsewhere ho ho₀ hi (h.getElem?₀ hi) hdue rfl nofun nofun
      fun _ _ hc => by cases hc
  obtain ⟨hline, hdeliveries, htaken⟩ := consume_congr d k { t with now := tick }
    { t₀ with now := tick } rfl h.shared.line h.deliveries h.taken
  obtain ⟨hstate, hboard⟩ := shared_consume d k { t with now := tick }
  obtain ⟨hstate₀, hboard₀⟩ := shared_consume d k { t₀ with now := tick }
  have hinvocations := invocations_consume d k { t with now := tick }
  have hinvocations₀ := invocations_consume d k { t₀ with now := tick }
  have hresolved := resolved_consume d k { t with now := tick }
  have hresolved₀ := resolved_consume d k { t₀ with now := tick }
  refine h.of_move rfl rfl rfl ?_ ⟨?_, hline, ?_⟩ hdeliveries htaken ?_ fun n i hi => ?_
  · exact hinvocations.trans (h.invocations.trans hinvocations₀.symm)
  · exact hstate.trans (h.shared.state.trans hstate₀.symm)
  · show Board.Alike (Traffic.consume d k _).shared.board (Traffic.consume d k _).shared.board
    rw [hboard, hboard₀]
    exact h.shared.board
  · exact hresolved.trans (h.resolved.trans hresolved₀.symm)
  · exact habreast n i (hinvocations ▸ hi)

theorem act (h : Follows d k t t₀) (ho : t.Orderly d) (ho₀ : t₀.Orderly d)
    (hdue : Due d k t tick e) (he : e.isSweep = false)
    (hdeliver : ∀ place x, e ≠ .deliver place x) (hi : t.invocations[n]? = some i)
    {x x₀ : Invocation × Shared σ τ} (hsame : Invocation.Same x x₀)
    (hothers : ∀ m, m ≠ n → e ≠ .turn m ∧ e ≠ .abort m)
    (hafter : Move.after d k ⟨t, tick, e⟩ = { t with
      now := tick, invocations := t.invocations.set n x.1, shared := x.2 })
    (hafter₀ : Move.after d k ⟨t₀, tick, e⟩ = { t₀ with
      now := tick, invocations := t₀.invocations.set n x₀.1, shared := x₀.2 }) :
    Follows d k (Move.after d k ⟨t, tick, e⟩) (Move.after d k ⟨t₀, tick, e⟩) := by
  have hlt : n < t.invocations.length := (List.getElem?_eq_some_iff.1 hi).1
  refine h.of_move he rfl rfl ?_ ?_ ?_ ?_ ?_ fun m j hj => ?_
  · rw [hafter, hafter₀, h.invocations, hsame.invocation]
  · rw [hafter, hafter₀]
    exact hsame.alike
  · rw [hafter, hafter₀]
    exact h.deliveries
  · rw [hafter, hafter₀]
    exact h.taken
  · rw [hafter, hafter₀]
    exact h.resolved
  · by_cases hm : m = n
    · subst hm
      rw [hafter] at hj
      obtain rfl := Option.some.inj (hj.symm.trans (List.getElem?_set_self hlt))
      rw [hafter, hafter₀]
      exact .same hsame.agree
    · rw [hafter] at hj
      have hj : t.invocations[m]? = some j := (List.getElem?_set_ne (Ne.symm hm)).symm.trans hj
      exact (h.abreast hj).elsewhere ho ho₀ hj (h.getElem?₀ hj) hdue he (hothers m hm).1
        (hothers m hm).2 fun place x hc => absurd hc (hdeliver place x)

/-- **Both go on alike when the same is done in both.** No answer may arrive at the very tick of the
deadline of the invocation that it is for. -/
theorem move (h : Follows d k t t₀) (ho : t.Orderly d) (ho₀ : t₀.Orderly d)
    (hdue : Due d k t tick e) (he : e.isSweep = false)
    (huntied : ∀ place x, e = .deliver place x → ∀ (n : Nat) (i : Invocation),
      t.invocations[n]? = some i → i.plan.id = x.id → tick ≠ Tick.atOrAfter (i.plan.deadline d)) :
    Follows d k (Move.after d k ⟨t, tick, e⟩) (Move.after d k ⟨t₀, tick, e⟩) := by
  cases e with
  | deliver place x => exact h.deliver ho ho₀ hdue (huntied place x rfl)
  | sweep => cases he
  | abort n =>
    obtain ⟨i, -, hi, -⟩ := of_mem_agenda_abort hdue.1
    exact h.act ho ho₀ hdue rfl (fun _ _ hc => by cases hc) hi ((h.abreast hi).abort h.shared)
      (fun m hm => ⟨nofun, fun hc => hm (Errand.abort.inj hc).symm⟩)
      (act_eq (t := { t with now := tick }) hi fun i => i.abort d n)
      (act_eq (t := { t₀ with now := tick }) (h.getElem?₀ hi) fun i => i.abort d n)
  | turn n =>
    obtain ⟨i, -, hi, -⟩ := of_mem_agenda_turn hdue.1
    exact h.act ho ho₀ hdue rfl (fun _ _ hc => by cases hc) hi
      ((h.abreast hi).turn h.shared hdue.now_le)
      (fun m hm => ⟨fun hc => hm (Errand.turn.inj hc).symm, nofun⟩)
      (act_eq (t := { t with now := tick }) hi fun i => i.turn d n tick)
      (act_eq (t := { t₀ with now := tick }) (h.getElem?₀ hi) fun i => i.turn d n tick)
  | consume => exact h.consume ho ho₀ hdue

/-- **A sweep leaves it so.** What it expires would have expired at the same tick. -/
theorem sweep {w : Sweeper} (h : Follows d k t t₀) (ho : t.Orderly d) (ho₀ : t₀.Orderly d)
    (hdue : Due d k t tick (.sweep w)) : Follows d k (Move.after d k ⟨t, tick, .sweep w⟩) t₀ := by
  obtain ⟨w', hw, ⟨⟩, -⟩ := of_mem_agenda_isSweep (e := .sweep w) rfl hdue.1
  have hle := hdue.now_le
  refine ⟨h.invocations, ?_, h.deliveries, h.taken, h.resolved, ?_, h.unswept,
    Nat.le_trans h.now_le hle, fun x hx => ?_, fun {n i} hi => ?_⟩
  · exact ⟨h.shared.state, h.shared.line, (t.shared.board.alike_sweep _).trans h.shared.board⟩
  · rintro _ ⟨⟩
    exact h.interval w hw
  · exact hdue.2 _ ((h.agenda_iff ho (isSweep_eq_false h.unswept hx)).2 hx)
  · rw [Move.now_after]
    exact (h.abreast hi).sweep ho ho₀ hi (h.getElem?₀ hi) hdue

end Follows

/-! ### Journeys with one schedule -/

/-- What is done in a journey, and when, the sweeps apart. -/
def schedule (ms : List (Move σ τ)) : List (Tick × Errand) :=
  (ms.filter fun m => !m.errand.isSweep).map fun m => (m.tick, m.errand)

theorem schedule_append_sweep (he : e.isSweep = true) (ms : List (Move σ τ))
    (t : Traffic σ τ) (tick : Tick) : schedule (ms ++ [⟨t, tick, e⟩]) = schedule ms := by
  unfold schedule
  rw [List.filter_append]
  simp [he]

theorem schedule_append (he : e.isSweep = false) (ms : List (Move σ τ)) (t : Traffic σ τ)
    (tick : Tick) : schedule (ms ++ [⟨t, tick, e⟩]) = schedule ms ++ [(tick, e)] := by
  unfold schedule
  rw [List.filter_append, List.map_append]
  simp [he]

/-- No answer arrives at the tick at which the deadline of its invocation comes: the first one that
is not before the deadline. -/
def Untied (d : Dispatcher σ τ) (plans : List Plan) (s : List (Tick × Errand)) : Prop :=
  ∀ x ∈ s, ∀ y ∈ x.2.delivery?, ∀ p ∈ plans, p.id = y.id → x.1 ≠ Tick.atOrAfter (p.deadline d)

instance (d : Dispatcher σ τ) (plans : List Plan) (s : List (Tick × Errand)) :
    Decidable (Untied d plans s) :=
  inferInstanceAs (Decidable (∀ x ∈ s, ∀ y ∈ x.2.delivery?, ∀ p ∈ plans, p.id = y.id →
    x.1 ≠ Tick.atOrAfter (p.deadline d)))

theorem Untied.left {s s' : List (Tick × Errand)} (h : Untied d plans (s ++ s')) :
    Untied d plans s := fun x hx => h x (List.mem_append_left _ hx)

theorem follows_opening (plans : List Plan) (state : σ) (line : τ) (sweeper : Option Sweeper)
    (deliveries : Agenda Delivery) : Follows d k (opening plans state line sweeper deliveries)
      (opening plans state line none deliveries) where
  invocations := rfl
  shared := ⟨rfl, rfl, .refl _⟩
  deliveries := rfl
  taken := rfl
  resolved := rfl
  interval w hw := by
    have hw : sweeper.filter (0 < ·.interval) = some w := hw
    simpa using (Option.filter_eq_some_iff.1 hw).2
  unswept := rfl
  now_le := Nat.le_refl _
  next _ _ := Nat.zero_le _
  abreast hi := by
    obtain ⟨p, -, rfl⟩ := getElem?_opening hi
    exact .same ⟨rfl, nofun⟩

theorem Untied.ne (h : Untied d plans (schedule (ms ++ [⟨t, tick, e⟩])))
    (hj : Journey d k (opening plans state line sweeper deliveries) ms t) (place : Nat)
    (x : Delivery) (he : e = .deliver place x) (n : Nat) (i : Invocation)
    (hi : t.invocations[n]? = some i) (hid : i.plan.id = x.id) :
    tick ≠ Tick.atOrAfter (i.plan.deadline d) := by
  subst he
  refine h (tick, .deliver place x) ?_ x rfl i.plan ?_ hid
  · rw [schedule_append rfl]
    exact List.mem_append_right _ (List.mem_singleton_self _)
  · exact List.mem_of_getElem? (hj.keepsTime_of_getElem? hi).1

/-- **The same can be done without the sweeper**, and everything stands as with it. -/
theorem Journey.unsweep (h : Journey d k (opening plans state line sweeper deliveries) ms t)
    (hqueue : d.AnswersAtOnce) (hids : (plans.map (·.id)).Nodup)
    (huntied : Untied d plans (schedule ms)) :
    ∃ ms₀ t₀, Journey d k (opening plans state line none deliveries) ms₀ t₀ ∧
      schedule ms₀ = schedule ms ∧ Follows d k t t₀ := by
  induction h with
  | start => exact ⟨[], _, .start, rfl, follows_opening _ _ _ _ _⟩
  | @move ms t tick e hj hdue ih =>
    have ho := hj.orderly hqueue hids
    cases he : e.isSweep with
    | true =>
      have hsame := schedule_append_sweep he ms t tick
      obtain ⟨ms₀, t₀, hj₀, hs, hfollows⟩ := ih (hsame ▸ huntied)
      obtain ⟨w, -, rfl, -⟩ := of_mem_agenda_isSweep he hdue.1
      exact ⟨ms₀, t₀, hj₀, hs.trans hsame.symm,
        hfollows.sweep ho (hj₀.orderly hqueue hids) hdue⟩
    | false =>
      obtain ⟨ms₀, t₀, hj₀, hs, hfollows⟩ := ih (schedule_append he ms t tick ▸ huntied).left
      refine ⟨_, _, hj₀.move (hfollows.due₀ ho he hdue), ?_,
        hfollows.move ho (hj₀.orderly hqueue hids) hdue he (huntied.ne hj)⟩
      rw [schedule_append he, schedule_append he, hs]

/-- **The sweeper can catch up** with something that is due without it. -/
theorem Follows.catch_up (hqueue : d.AnswersAtOnce) (hids : (plans.map (·.id)).Nodup)
    (hj : Journey d k (opening plans state line sweeper deliveries) ms t)
    (h : Follows d k t t₀) (ho₀ : t₀.Orderly d) (hdue : Due d k t₀ tick e) :
    ∃ ms' t', Journey d k (opening plans state line sweeper deliveries) ms' t' ∧
      schedule ms' = schedule ms ∧ Follows d k t' t₀ ∧ Due d k t' tick e := by
  -- By induction on the time from the next sweep until then.
  induction hn : (t.sweeper.elim 0 fun w => (Tick.instant tick - w.next).toNat) using
    Nat.strongRecOn generalizing ms t with
  | _ n ih =>
    subst hn
    have ho := hj.orderly hqueue hids
    by_cases hw : ∀ w, t.sweeper = some w → tick ≤ max t.now (Tick.atOrAfter w.next)
    · exact ⟨ms, t, hj, rfl, h, h.due ho hdue hw⟩
    · obtain ⟨w, hw⟩ := Classical.not_forall.1 hw
      obtain ⟨hsome, hlt⟩ := Classical.not_imp.1 hw
      have hlt := Nat.lt_of_not_le hlt
      have hmem := (h.agenda_iff ho (isSweep_eq_false h.unswept hdue.1)).2 hdue.1
      -- The next sweep is due before that, and leaves less time.
      have hsweep : Due d k t (max t.now (Tick.atOrAfter w.next)) (.sweep w) := by
        refine ⟨mem_agenda_sweep hsome hmem, fun x hx => ?_⟩
        obtain ⟨tick', e'⟩ := x
        cases he' : e'.isSweep with
        | false => exact Nat.le_trans (Nat.le_of_lt hlt) (hdue.2 _ ((h.agenda_iff ho he').1 hx))
        | true =>
          obtain ⟨w', hsome', -, rfl⟩ := of_mem_agenda_isSweep he' hx
          obtain rfl := Option.some.inj (hsome.symm.trans hsome')
          exact Nat.le_refl _
      have hdecr : (Tick.instant tick - (w.next + w.interval)).toNat <
          (Tick.instant tick - w.next).toNat := by
        have hnext := Tick.lt_instant_of_atOrAfter_lt
          (Nat.lt_of_le_of_lt (Nat.le_max_right _ _) hlt)
        have hinterval := h.interval w hsome
        omega
      obtain ⟨ms', t', hj', hs, h', hdue'⟩ := ih _ (by rw [hsome]; exact hdecr)
        (hj.move hsweep) (h.sweep ho ho₀ hsweep) rfl
      exact ⟨ms', t', hj', hs.trans (schedule_append_sweep rfl _ _ _), h', hdue'⟩

theorem Journey.sweeper_eq_none
    (h : Journey d k (opening plans state line none deliveries) ms t) : t.sweeper = none := by
  induction h with
  | start => rfl
  | move _ hdue ih => exact (Move.sweeper_after (isSweep_eq_false ih hdue.1)).trans ih

/-- **The same can be done with the sweeper**, and everything stands as without it. -/
theorem Journey.resweep {ms₀ : List (Move σ τ)}
    (h : Journey d k (opening plans state line none deliveries) ms₀ t₀)
    (hqueue : d.AnswersAtOnce) (hids : (plans.map (·.id)).Nodup)
    (huntied : Untied d plans (schedule ms₀)) (sweeper : Option Sweeper) :
    ∃ ms t, Journey d k (opening plans state line sweeper deliveries) ms t ∧
      schedule ms = schedule ms₀ ∧ Follows d k t t₀ := by
  induction h with
  | start => exact ⟨[], _, .start, rfl, follows_opening _ _ _ _ _⟩
  | @move ms₀ t₀ tick e hj₀ hdue₀ ih =>
    have ho₀ := hj₀.orderly hqueue hids
    have he := isSweep_eq_false hj₀.sweeper_eq_none hdue₀.1
    obtain ⟨ms, t, hj, hs, hfollows⟩ := ih (schedule_append he ms₀ t₀ tick ▸ huntied).left
    obtain ⟨ms', t', hj', hs', hfollows', hdue'⟩ := hfollows.catch_up hqueue hids hj ho₀ hdue₀
    have hsame : schedule (ms' ++ [⟨t', tick, e⟩]) = schedule (ms₀ ++ [⟨t₀, tick, e⟩]) := by
      rw [schedule_append he, schedule_append he, hs', hs]
    exact ⟨_, _, hj'.move hdue', hsame, hfollows'.move (hj'.orderly hqueue hids) ho₀ hdue' he
      ((hsame ▸ huntied).ne hj')⟩

theorem Journey.eq_of_schedule {ms' : List (Move σ τ)} {t' : Traffic σ τ}
    (h : Journey d k (opening plans state line none deliveries) ms t)
    (h' : Journey d k (opening plans state line none deliveries) ms' t')
    (hs : schedule ms = schedule ms') : t = t' := by
  induction h generalizing ms' t' with
  | start =>
    cases h' with
    | start => rfl
    | move hj' hdue' =>
      rw [schedule_append (isSweep_eq_false hj'.sweeper_eq_none hdue'.1)] at hs
      exact absurd hs.symm (List.append_ne_nil_of_right_ne_nil _ nofun)
  | move hj hdue ih =>
    rw [schedule_append (isSweep_eq_false hj.sweeper_eq_none hdue.1)] at hs
    cases h' with
    | start => exact absurd hs (List.append_ne_nil_of_right_ne_nil _ nofun)
    | move hj' hdue' =>
      rw [schedule_append (isSweep_eq_false hj'.sweeper_eq_none hdue'.1)] at hs
      obtain ⟨hbefore, hlast⟩ := List.append_inj' hs rfl
      obtain ⟨rfl, rfl⟩ := Prod.mk.inj (List.singleton_inj.1 hlast)
      rw [ih hj' hbefore]

/-- What a journey with a sweeper and one without have in common at their ends. Of what has been
counted, the number of pending entries may differ. -/
structure Matches (d : Dispatcher σ τ) (t t₀ : Traffic σ τ) : Prop where
  /-- Every invocation stands where it stands without the sweeper; one that has ended has ended with
  the same result at the same tick. -/
  invocations : t.invocations = t₀.invocations
  state : t.shared.state = t₀.shared.state
  line : t.shared.line = t₀.shared.line
  tally : t.shared.tally.apart = t₀.shared.tally.apart
  deliveries : t.deliveries = t₀.deliveries
  taken : t.taken = t₀.taken
  resolved : t.resolved = t₀.resolved
  /-- The tables have the same entries unless an invocation is still there at its deadline. -/
  entries : (∀ i ∈ t.invocations, i.isOver = false → Tick.instant t.now < i.plan.deadline d) →
    ∀ id, t.shared.board.table.find? id = t₀.shared.board.table.find? id

theorem Follows.matches (h : Follows d k t t₀) (ho : t.Orderly d) (ho₀ : t₀.Orderly d) :
    Matches d t t₀ where
  invocations := h.invocations
  state := h.shared.state
  line := h.shared.line
  tally := h.shared.board.tally
  deliveries := h.deliveries
  taken := h.taken
  resolved := h.resolved
  entries hearly id := by
    refine h.find?_eq ho ho₀ fun n i hi hid => ?_
    cases h.abreast hi with
    | same h => exact hid ▸ h
    | swept hp _ _ _ hlate =>
      have hover : i.isOver = false := by
        unfold Invocation.isOver
        rw [hp]
      have hd := Tick.le_instant_atOrAfter (i.plan.deadline d)
      rw [hlate] at hd
      exact absurd (hearly i (List.mem_of_getElem? hi) hover) (Int.not_lt.2 hd)

/-- **A sweeper changes nothing**, whenever it starts and however often it sweeps. Invocations with
different ids hand their messages to a queue that takes or refuses them at once, and no answer
arrives at the tick to which the deadline of its invocation is rounded up. Then whatever can be done
without the sweeper can be done with it at the same ticks, and the other way round; and wherever the
same has been done, everything stands the same. -/
theorem sweeper_changes_nothing (hqueue : d.AnswersAtOnce)
    (hids : (plans.map (·.id)).Nodup) (w : Sweeper) :
    (∀ ms₀ t₀, Journey d k (opening plans state line none deliveries) ms₀ t₀ →
      Untied d plans (schedule ms₀) →
        ∃ ms t, Journey d k (opening plans state line (some w) deliveries) ms t ∧
          schedule ms = schedule ms₀) ∧
    ∀ ms t, Journey d k (opening plans state line (some w) deliveries) ms t →
      Untied d plans (schedule ms) →
        (∃ ms₀ t₀, Journey d k (opening plans state line none deliveries) ms₀ t₀ ∧
          schedule ms₀ = schedule ms) ∧
        ∀ ms₀ t₀, Journey d k (opening plans state line none deliveries) ms₀ t₀ →
          schedule ms₀ = schedule ms → Matches d t t₀ := by
  constructor
  · intro ms₀ t₀ h huntied
    obtain ⟨ms, t, hj, hs, -⟩ := h.resweep hqueue hids huntied (some w)
    exact ⟨ms, t, hj, hs⟩
  · intro ms t h huntied
    obtain ⟨ms₁, t₁, h₁, hs₁, hfollows⟩ := h.unsweep hqueue hids huntied
    refine ⟨⟨ms₁, t₁, h₁, hs₁⟩, fun ms₀ t₀ h₀ hs₀ => ?_⟩
    obtain rfl := h₁.eq_of_schedule h₀ (hs₁.trans hs₀.symm)
    exact hfollows.matches (h.orderly hqueue hids) (h₁.orderly hqueue hids)

/-- The crowd, and a sweeper that comes when the last invocation has been waiting for 50
milliseconds. -/
def sweptCrowd : Traffic (Catalog Bucket) Script :=
  { answeredCrowd with sweeper := some ⟨1050000000, 70000000⟩ }

/-- The sweeper expires the entry of the last invocation, which all the same ends as without it. -/
theorem sweeper_changes_nothing_expired :
    promptDispatcher.AnswersAtOnce ∧ (crowd.map (·.id)).Nodup ∧
      ∃ ms t, Journey promptDispatcher lateConsumer sweptCrowd ms t ∧
        Untied promptDispatcher crowd (schedule ms) ∧
        (ms.any fun m => m.errand.isSweep && m.before.shared.board.table.contains (.ofNat 3) &&
          !(m.after promptDispatcher lateConsumer).shared.board.table.contains (.ofNat 3)) = true ∧
        t.invocations.all (·.isOver) = true ∧
        ∃ ms₀ t₀, Journey promptDispatcher lateConsumer answeredCrowd ms₀ t₀ ∧
          schedule ms₀ = schedule ms ∧ Matches promptDispatcher t t₀ := by
  have hqueue : promptDispatcher.AnswersAtOnce := by
    intro n m line
    change (Script.offer m line).1 ≠ .later
    unfold Script.offer
    split <;> exact nofun
  have hids : (crowd.map (·.id)).Nodup := by decide
  have hj := journey_run promptDispatcher lateConsumer 9 sweptCrowd
  have huntied : Untied promptDispatcher crowd
      (schedule (moves promptDispatcher lateConsumer 9 sweptCrowd)) := by decide +kernel
  obtain ⟨⟨ms₀, t₀, hj₀, hs⟩, hmatches⟩ :=
    (sweeper_changes_nothing hqueue hids ⟨1050000000, 70000000⟩).2 _ _ hj huntied
  exact ⟨hqueue, hids, _, _, hj, huntied, by decide +kernel, by decide +kernel,
    ms₀, t₀, hj₀, hs, hmatches ms₀ t₀ hj₀ hs⟩

/-- The invocation whose answer arrives at the first tick after its deadline, and a sweeper that
comes at that tick. -/
def unevenSweptCrowd : Traffic (Catalog Bucket) Script :=
  { unevenCrowd with sweeper := some ⟨11000000, 70000000⟩ }

/-- **A sweeper can come before an answer after the deadline**, as long as both come at the tick to
which the deadline is rounded up. The same is done at the same ticks, and the answer completes the
invocation only if there is no sweeper. -/
theorem sweeper_overtakes_answer :
    ∃ ms t, Journey promptDispatcher lateConsumer unevenSweptCrowd ms t ∧
      ∃ ms₀ t₀, Journey promptDispatcher lateConsumer unevenCrowd ms₀ t₀ ∧
        schedule ms = schedule ms₀ ∧
        (∀ x ∈ schedule ms, x.2.delivery?.isSome →
          Tick.instant x.1 ≠ unevenPlan.deadline promptDispatcher) ∧
        t.invocations.map (·.phase) =
          [.ended 11 (.error (unevenPlan.lateness promptDispatcher))] ∧
        t₀.invocations.map (·.phase) = [.ended 11 unevenAnswer.outcome] := by
  have hopen := journey_run promptDispatcher lateConsumer 1 unevenSweptCrowd
  have hsweep : Due promptDispatcher lateConsumer
      (unevenSweptCrowd.run promptDispatcher lateConsumer 1) 11 (.sweep ⟨11000000, 70000000⟩) := by
    decide +kernel
  exact ⟨_, _, (hopen.move hsweep).run 2, _, _,
    journey_run promptDispatcher lateConsumer 3 unevenCrowd, by decide +kernel, by decide +kernel,
    by decide +kernel, by decide +kernel⟩

end Traffic

end Sluice
