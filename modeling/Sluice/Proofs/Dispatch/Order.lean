import Sluice.Proofs.Dispatch.Registration

/-!
# In front of a queue that answers at once

Nobody waits for room in a queue that takes or refuses every message at once. Whoever has a ticket
waits for an answer, and the entry of an invocation has the deadline that follows from its plan.

* `Dispatcher.AnswersAtOnce` : such a queue;
* `Invocation.Turn.dated`, `Invocation.Drop.dated` : what a turn leaves of an entry, and what
  dropping an invocation does;
* `Traffic.Orderly` : where invocations stand;
* `Traffic.Orderly.move`, `Traffic.Journey.orderly` : so they do after every move, and in every
  journey.
-/

namespace Sluice

variable {σ τ : Type} {d : Dispatcher σ τ} {k : Consumer} {p : Plan} {now tick : Tick}

theorem Table.deadline_of_resolve {t : Table} {id j : Uuid} {r : Response} {e : Entry}
    (h : (t.resolve id r).2.find? j = some e) :
    ∃ e', t.find? j = some e' ∧ e'.deadline = e.deadline := by
  have heff : Table.Effect t (.resolve id r) (t.resolve id r).2 := t.effect (.resolve id r)
  generalize (t.resolve id r).2 = t' at h heff
  cases heff with
  | still => exact ⟨e, h, rfl⟩
  | resolve =>
    rw [find?_mark] at h
    obtain ⟨e', he', rfl⟩ := Option.map_eq_some_iff.1 h
    refine ⟨e', he', ?_⟩
    split_ifs <;> rfl

/-- Whoever has a ticket and does not wait for room waits for an answer, in time. -/
theorem Phase.OnTime.eq_awaiting {ph : Phase} {ticket : Nat} (h : ph.OnTime d p now)
    (hticket : ph.ticket? = some ticket) (hroom : ¬ph.IsHanding) :
    ph = .awaiting (p.deadline d) ticket ∧ p.InTime d now := by
  cases h with
  | coming | admission | ended | dropped | broken => cases hticket
  | handing => exact absurd trivial hroom
  | awaiting hs hin =>
    obtain rfl := Option.some.inj hticket
    exact ⟨rfl, hin⟩

/-- A queue that takes or refuses a message at once. -/
def Dispatcher.AnswersAtOnce (d : Dispatcher σ τ) : Prop :=
  ∀ n m line, (d.queue.offer n m line).1 ≠ .later

/-! ### Turns in front of a queue that answers at once -/

section Turn

variable {number ticket : Nat} {deadline : Instant} {v v' : View σ τ} {i : Invocation}
  {s : Shared σ τ} {e : Entry}

/-- Somebody who looks for what has come first leaves no other entry for the id. -/
theorem Look.find?_eq (h : Look d p now deadline ticket v v')
    (he : v'.table.find? p.id = some e) : v.table.find? p.id = some e := by
  cases h with
  | cancelled | settled | expired => cases (Table.find?_deregister _ _).symm.trans he
  | waits => exact he

theorem Hand.find?_eq {r : Request} (hqueue : d.AnswersAtOnce)
    (h : Hand d number p now deadline ticket r v v') : ¬v'.phase.IsHanding ∧
      (v'.table.find? p.id = some e → v.table.find? p.id = some e) := by
  cases h with
  | later hoffer => exact absurd (congrArg Prod.fst hoffer) (hqueue _ _ _)
  | refused => exact ⟨id, fun he => by cases (Table.find?_deregister _ _).symm.trans he⟩
  | accepted _ look => exact ⟨by cases look <;> exact id, look.find?_eq⟩

theorem Invocation.Turn.dated (hqueue : d.AnswersAtOnce) (h : i.Turn d number tick s v')
    (ht : i.phase.OnTime d i.plan tick) (hstart : i.phase = .coming → tick = i.plan.start)
    (hroom : ¬i.phase.IsHanding)
    (hdated : ∀ e, s.board.table.find? i.plan.id = some e → e.deadline = i.plan.deadline d) :
    ¬v'.phase.IsHanding ∧
      ∀ e, v'.table.find? i.plan.id = some e → e.deadline = i.plan.deadline d := by
  cases h with
  | idle => exact ⟨hroom, hdated⟩
  | broken | misdirected | cancelled | late | failed | waits | duplicate => exact ⟨id, hdated⟩
  | granted hg hc hd hgrant hfind hand =>
    obtain ⟨rfl, -⟩ := Phase.OnTime.atGate hg ht hstart
    refine ⟨(hand.find?_eq (e := ⟨0, 0, true⟩) hqueue).1, fun e he => ?_⟩
    have he := (hand.find?_eq hqueue).2 he
    dsimp only at he
    rw [Table.find?_register hfind] at he
    rw [← Option.some.inj he]
  | handing hp =>
    rw [hp] at hroom
    exact absurd trivial hroom
  | awaiting hp look =>
    exact ⟨by cases look <;> exact id, fun e he => hdated e (look.find?_eq he)⟩

theorem Invocation.Drop.dated (h : i.Drop s v') (hroom : ¬i.phase.IsHanding)
    (hdated : ∀ e, s.board.table.find? i.plan.id = some e → e.deadline = i.plan.deadline d) :
    ¬v'.phase.IsHanding ∧
      ∀ e, v'.table.find? i.plan.id = some e → e.deadline = i.plan.deadline d := by
  cases h with
  | idle => exact ⟨hroom, hdated⟩
  | early => exact ⟨id, hdated⟩
  | late => exact ⟨id, fun e he => by cases (Table.find?_deregister _ _).symm.trans he⟩

end Turn

namespace Traffic

variable {t : Traffic σ τ} {ms : List (Move σ τ)} {i : Invocation} {n : Nat} {e : Errand}
  {plans : List Plan} {state : σ} {line : τ} {sweeper : Option Sweeper}
  {deliveries : Agenda Delivery}

/-! ### Where invocations stand -/

/-- Where invocations stand in front of a queue that answers at once. -/
structure Orderly (d : Dispatcher σ τ) (t : Traffic σ τ) : Prop where
  registered : t.Registered
  onTime : ∀ {n : Nat} {i : Invocation}, t.invocations[n]? = some i →
    i.phase.OnTime d i.plan t.now
  room : ∀ {n : Nat} {i : Invocation}, t.invocations[n]? = some i → ¬i.phase.IsHanding
  dated : ∀ {n : Nat} {i : Invocation} {e : Entry}, t.invocations[n]? = some i →
    t.shared.board.table.find? i.plan.id = some e → e.deadline = i.plan.deadline d

theorem Move.getElem?_after {m : Move σ τ} (hi : m.before.invocations[n]? = some i)
    (hturn : m.errand ≠ .turn n) (habort : m.errand ≠ .abort n) :
    (m.after d k).invocations[n]? = some i := by
  cases Move.concerns (d := d) (k := k) hi with
  | turn he => exact absurd he hturn
  | abort he => exact absurd he habort
  | other _ _ hsame => exact hsame

namespace Orderly

theorem visits (h : t.Orderly d) (n : Nat) (i : Invocation) (hi : t.invocations[n]? = some i) :
    i.Visits := (h.onTime hi).visits

theorem registered_after (h : t.Orderly d) (tick : Tick) (e : Errand) :
    (Move.after d k ⟨t, tick, e⟩).Registered := h.registered.move h.visits d k tick e

/-- What others do leaves no entry for an invocation that has another deadline. -/
theorem dated_elsewhere (h : t.Orderly d) (hi : t.invocations[n]? = some i) (hturn : e ≠ .turn n)
    (habort : e ≠ .abort n) {entry : Entry}
    (he : (Move.after d k ⟨t, tick, e⟩).shared.board.table.find? i.plan.id = some entry) :
    entry.deadline = i.plan.deadline d := by
  have hticket := (h.registered_after (k := k) tick e).held
    (Move.getElem?_after (m := ⟨t, tick, e⟩) hi hturn habort) he
  by_cases hdeliver : ∃ place x, e = .deliver place x
  · obtain ⟨place, x, rfl⟩ := hdeliver
    rw [show (Move.after d k ⟨t, tick, .deliver place x⟩).shared.board.table =
      (t.shared.board.table.resolve x.id x.response).2 from
        congrArg Prod.snd (Board.resolve_eq t.shared.board x.id x.response)] at he
    obtain ⟨entry', he', hdeadline⟩ := Table.deadline_of_resolve he
    rw [← hdeadline]
    exact h.dated hi he'
  · rcases h.registered.elsewhere h.visits hi hticket hturn habort
        (fun place x he => absurd ⟨place, x, he⟩ hdeliver) rfl with
      hsame | ⟨w, entry', -, -, -, -, hgone, -⟩
    · exact h.dated hi (hsame.1 ▸ he)
    · cases hgone.symm.trans he

/-- **Invocations keep their order whatever is done.** -/
theorem move (hqueue : d.AnswersAtOnce) (h : t.Orderly d) (hdue : Due d k t tick e) :
    (Move.after d k ⟨t, tick, e⟩).Orderly d := by
  -- All three are shown of one invocation at a time.
  have hstep {n : Nat} {i' : Invocation}
      (hi' : (Move.after d k ⟨t, tick, e⟩).invocations[n]? = some i') :
      i'.phase.OnTime d i'.plan tick ∧ ¬i'.phase.IsHanding ∧ ∀ entry,
        (Move.after d k ⟨t, tick, e⟩).shared.board.table.find? i'.plan.id = some entry →
          entry.deadline = i'.plan.deadline d := by
    obtain ⟨i, hi, horigin⟩ := Move.exists_origin hi'
    have htick := hdue.onTime hi (h.onTime hi)
    cases horigin with
    | other hturn habort =>
      exact ⟨htick, h.room hi, fun entry he => h.dated_elsewhere hi hturn habort he⟩
    | abort he hshared =>
      obtain ⟨hplan, hdrop⟩ := Invocation.abort_view d n i t.shared
      rw [hshared, hplan]
      exact ⟨(htick.drop hdrop).1, hdrop.dated (h.room hi) fun e => h.dated hi⟩
    | turn he hshared =>
      obtain rfl : e = .turn n := he
      obtain ⟨hover, hstart⟩ := hdue.of_turn hi (h.onTime hi)
      obtain ⟨hplan, hturn⟩ : (i.turn d n tick t.shared).1.plan = i.plan ∧
          i.Turn d n tick t.shared (Invocation.view (i.turn d n tick t.shared)) :=
        Invocation.turn_view (h.visits n i hi)
      rw [hshared, hplan]
      exact ⟨(Phase.OnTime.turn hturn hover htick hstart).1,
        hturn.dated hqueue htick hstart (h.room hi) fun e => h.dated hi⟩
  refine ⟨h.registered_after tick e, fun hi' => ?_, fun hi' => (hstep hi').2.1,
    fun hi' he => (hstep hi').2.2 _ he⟩
  rw [Move.now_after]
  exact (hstep hi').1

end Orderly

theorem getElem?_opening (hi :
    (opening plans state line sweeper deliveries).invocations[n]? = some i) :
    ∃ p, plans[n]? = some p ∧ i = .ofPlan p := by
  obtain ⟨p, hp, rfl⟩ := Option.map_eq_some_iff.1 ((List.getElem?_map ..).symm.trans hi)
  exact ⟨p, hp, rfl⟩

theorem Journey.orderly (h : Journey d k (opening plans state line sweeper deliveries) ms t)
    (hqueue : d.AnswersAtOnce) (hids : (plans.map (·.id)).Nodup) : t.Orderly d := by
  induction h with
  | start =>
    refine ⟨(Journey.start (d := d) (k := k)).registered hids, ?_, ?_, fun _ he => by cases he⟩
    · intro n i hi
      obtain ⟨p, -, rfl⟩ := getElem?_opening hi
      exact .coming (Nat.zero_le _)
    · intro n i hi
      obtain ⟨p, -, rfl⟩ := getElem?_opening hi
      exact id
  | move _ hdue ih => exact ih.move hqueue hdue

end Traffic

end Sluice
