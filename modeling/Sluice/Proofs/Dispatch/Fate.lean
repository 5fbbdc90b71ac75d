import Sluice.Proofs.Dispatch.Registration
import Sluice.Proofs.Dispatch.Verdict
import Sluice.Queue.Script

/-!
# The earliest event decides

An invocation ends with the earliest of the events that concern it. This is so whatever the other
invocations do, for answers in any number and order, for any sweeper, and for any order in which the
things due at one tick are done. The store is the one in memory, and the queue takes or refuses a
message at once.

* `Traffic.Standing` : where an invocation stands, and what it has been told by then;
* `Traffic.Standing.turn`, `Traffic.Standing.elsewhere` : its own turns and what others do keep it
  so;
* `Traffic.Turned` : a turn that it had;
* `Traffic.Journey.earliest_decides` : it ends with the first of its events, and when that comes;
  before its grant it hands nothing to the queue, and at the end its id has left the table.
-/

namespace Sluice

variable {σ τ : Type} {d : Dispatcher σ τ} {k : Consumer} {p : Plan} {now tick : Tick}

/-- A store of which no taking fails, a queue that takes or refuses a message at once, and a sleep
to choose after every denial. -/
structure Dispatcher.Prompt (d : Dispatcher σ τ) : Prop where
  take : ∀ now b cost s, ∃ o, (d.store.take now b cost s).1 = .ok o
  offer : ∀ n m line, (d.queue.offer n m line).1 ≠ .later
  possible : d.gate.backoff.IsPossible

/-- An invocation that begins in time, with a deadline that the clock can tell, does not break
down. -/
theorem Dispatcher.Prompt.not_breaksDown {i : Invocation} (h : d.Prompt)
    (hclock : i.plan.deadline d ≤ d.horizon) (hstart : i.phase = .coming → tick = i.plan.start) :
    ¬i.BreaksDown d tick := by
  rintro (⟨hp, hbeyond⟩ | ⟨-, hno⟩)
  · rw [hstart hp] at hbeyond
    exact absurd hclock (Int.not_le.2 hbeyond)
  · exact hno h.possible

namespace Traffic

variable {t : Traffic σ τ} {ms : List (Move σ τ)} {m : Move σ τ} {i : Invocation} {n : Nat}
  {e : Errand}

/-! ### Where an invocation stands -/

/-- Where an invocation stands after some moves, what it has been told by then, and what has become
of its registration. -/
inductive Standing (d : Dispatcher σ τ) (n : Nat) (p : Plan) (ms : List (Move σ τ)) (now : Tick)
    (table : Table) : Phase → Prop where
  /-- It has not begun. -/
  | coming (hms : verdicts d n p ms = []) : Standing d n p ms now table .coming
  /-- It waits at the gate. -/
  | admission {v : Visit} {w : Waiting} (hb : p.misdirection = []) (hms : verdicts d n p ms = []) :
    Standing d n p ms now table (.admission (p.deadline d) v w)
  /-- It has been granted a unit and waits for its answer. -/
  | pending {ticket : Nat} (hb : p.misdirection = []) (hg : ∃ m ∈ ms, m.grant? d n ≠ none)
    (hms : verdicts d n p ms = [])
    (hf : table.find? p.id = some ⟨ticket, p.deadline d, true⟩) :
    Standing d n p ms now table (.awaiting (p.deadline d) ticket)
  /-- Its answer is there. -/
  | answered {ticket : Nat} {r : Response} (hb : p.misdirection = [])
    (hg : ∃ m ∈ ms, m.grant? d n ≠ none) (hms : verdicts d n p ms = [(now, r.outcome)])
    (hf : table.find? p.id = some ⟨ticket, p.deadline d, false⟩)
    (hbox : table.box ticket = .holding (.completed r)) :
    Standing d n p ms now table (.awaiting (p.deadline d) ticket)
  /-- A sweep came at its deadline. -/
  | swept {ticket : Nat} (hb : p.misdirection = []) (hg : ∃ m ∈ ms, m.grant? d n ≠ none)
    (hms : verdicts d n p ms = []) (hf : table.find? p.id = none)
    (hbox : table.box ticket = .holding .expired)
    (hlate : Tick.atOrAfter (p.deadline d) ≤ now) :
    Standing d n p ms now table (.awaiting (p.deadline d) ticket)
  /-- It has ended. -/
  | ended {at' : Tick} {r : Except Failure Reply}
    (hg : verdicts d n p ms ≠ [] → ∃ m ∈ ms, m.grant? d n ≠ none)
    (hfirst : (fates d n p ms).first? = some (at', r)) :
    Standing d n p ms now table (.ended at' r)

namespace Standing

variable {T T' : Table} {ph : Phase} {ticket : Nat} {v v' : View σ τ}

theorem not_handing (h : Standing d n p ms now T ph) : ¬ph.IsHanding := by
  cases h <;> exact id

theorem frame (h : Standing d n p ms now T ph) (hm : m.verdict? d n p = none) (hle : now ≤ tick)
    (hnow : ∀ deadline ticket, ph = .awaiting deadline ticket → T.box ticket ≠ .waiting →
      tick = now)
    (hsame : ∀ ticket, ph.ticket? = some ticket →
      T'.find? p.id = T.find? p.id ∧ T'.box ticket = T.box ticket) :
    Standing d n p (ms ++ [m]) tick T' ph := by
  have hverdicts : verdicts d n p (ms ++ [m]) = verdicts d n p ms := verdicts_append_of_none hm
  have hgrant (hg : ∃ m ∈ ms, m.grant? d n ≠ none) : ∃ m' ∈ ms ++ [m], m'.grant? d n ≠ none := by
    obtain ⟨m', hm', hg⟩ := hg
    exact ⟨m', List.mem_append_left _ hm', hg⟩
  -- A verdict on the way holds only until the next tick, so time must stand still for it (`hnow`).
  cases h with
  | coming hms => exact .coming (hverdicts.trans hms)
  | admission hb hms => exact .admission hb (hverdicts.trans hms)
  | @pending ticket hb hg hms hf =>
    exact .pending hb (hgrant hg) (hverdicts.trans hms) ((hsame ticket rfl).1.trans hf)
  | @answered ticket r hb hg hms hf hbox =>
    obtain rfl := hnow _ ticket rfl (by rw [hbox]; exact nofun)
    obtain ⟨hfind, hbox'⟩ := hsame ticket rfl
    exact .answered hb (hgrant hg) (hverdicts.trans hms) (hfind.trans hf) (hbox'.trans hbox)
  | @swept ticket hb hg hms hf hbox hlate =>
    obtain ⟨hfind, hbox'⟩ := hsame ticket rfl
    exact .swept hb (hgrant hg) (hverdicts.trans hms) (hfind.trans hf) (hbox'.trans hbox)
      (Nat.le_trans hlate hle)
  | ended hg hfirst =>
    refine .ended (fun hne => hgrant (hg (hverdicts ▸ hne))) ?_
    unfold fates
    rw [hverdicts]
    exact hfirst

theorem sent {deadline : Instant} (h : Standing d n p ms now T (.awaiting deadline ticket)) :
    p.misdirection = [] ∧ (∃ m ∈ ms, m.grant? d n ≠ none) ∧
      ∀ x ∈ verdicts d n p ms, now ≤ x.1 := by
  cases h with
  | pending hb hg hms | swept hb hg hms =>
    refine ⟨hb, hg, fun x hx => ?_⟩
    rw [hms] at hx
    cases hx
  | answered hb hg hms =>
    refine ⟨hb, hg, fun x hx => ?_⟩
    rw [hms] at hx
    obtain rfl := List.mem_singleton.1 hx
    exact Nat.le_refl _

theorem look (h : Standing d n p ms tick v.table (.awaiting (p.deadline d) ticket))
    (hsound : ∃ hist, v.table.Sound hist) (hin : p.InTime d tick) (hs : p.start ≤ tick)
    (hlook : Look d p tick (p.deadline d) ticket v v') :
    Standing d n p ms tick v'.table v'.phase := by
  cases hlook with
  | cancelled hc =>
    obtain ⟨hb, hg, hms⟩ := h.sent
    exact .ended (fun _ => hg) (first?_fates_cancellation hb hin hs hc hms)
  | settled hc hpoll =>
    cases h with
    -- The box of a pending entry is empty.
    | pending hb hg hms hf =>
      obtain ⟨hist, hsound⟩ := hsound
      rw [Table.poll_of_waiting (hsound.pending _ (Table.mem_of_find? hf) rfl)] at hpoll
      cases hpoll
    | answered hb hg hms hf hbox =>
      rw [Table.poll_of_holding hbox] at hpoll
      cases hpoll
      exact .ended (fun _ => hg) (first?_fates_verdict hb hin hc hms)
    | swept hb hg hms hf hbox hlate =>
      rw [Table.poll_of_holding hbox] at hpoll
      cases hpoll
      exact .ended (fun _ => hg) (first?_fates_expiry hb hin hc hlate hms)
  | expired hc hpoll hd =>
    cases h with
    | pending hb hg hms =>
      exact .ended (fun _ => hg) (first?_fates_expiry hb hin hc (Tick.atOrAfter_le hd) hms)
    | answered _ _ _ _ hbox | swept _ _ _ _ hbox =>
      rw [Table.poll_of_holding hbox] at hpoll
      cases hpoll
  | waits hc hpoll => exact h

theorem gate {deadline : Instant} (h : Standing d n i.plan ms now T i.phase)
    (hg : i.AtGate d tick deadline) : i.plan.misdirection = [] ∧ verdicts d n i.plan ms = [] := by
  obtain ⟨p, course, ph⟩ := i
  unfold Invocation.AtGate at hg
  dsimp only at h hg ⊢
  cases h with
  | coming hms =>
    obtain ⟨-, -, b, hb⟩ := hg
    exact ⟨Plan.misdirection_of_ok hb, hms⟩
  | admission hb hms => exact ⟨hb, hms⟩
  | pending | answered | swept | ended => exact hg.elim

theorem hand (h : d.Prompt) (hin : p.InTime d tick) (hs : p.start ≤ tick)
    (hb : p.misdirection = []) (hms : verdicts d n p ms = []) (hc : p.isCancelled tick = false)
    (hd : Tick.instant tick < p.deadline d) {visit : Visit}
    (hgrant : m.grant? d n = some visit) (htick : m.tick = tick)
    (hsettle : m.settlement? p.id = none) (hline : v.line = m.before.shared.line)
    (hfind : v.table.find? p.id = some ⟨ticket, p.deadline d, true⟩)
    (hbox : v.table.box ticket = .waiting)
    (hhand : Hand d n p tick (p.deadline d) ticket (p.request d visit tick) v v') :
    Standing d n p (ms ++ [m]) tick v'.table v'.phase := by
  subst htick
  have hg : ∃ m' ∈ ms ++ [m], m'.grant? d n ≠ none :=
    ⟨m, List.mem_append_right _ (List.mem_singleton_self _), by rw [hgrant]; exact nofun⟩
  cases hhand with
  | later hoffer => exact absurd (congrArg Prod.fst hoffer) (h.offer _ _ _)
  | @refused reason line hoffer =>
    have hverdict : m.verdict? d n p = some (.error (.relayUnavailable reason)) := by
      unfold Move.verdict? Move.refusal?
      rw [hgrant, Option.bind_some, ← hline, hoffer]
      rfl
    exact .ended (fun _ => hg)
      (first?_fates_verdict hb hin hc (verdicts_append_of_some hverdict hms))
  | @accepted line _ hoffer hlook =>
    have hverdict : m.verdict? d n p = none := by
      unfold Move.verdict? Move.refusal?
      rw [hgrant, hsettle, Option.bind_some, ← hline, hoffer]
      rfl
    -- The invocation has just registered, so there is nothing to find in its box yet.
    cases hlook with
    | cancelled hc' =>
      rw [hc] at hc'
      cases hc'
    | settled _ hpoll =>
      rw [Table.poll_of_waiting hbox] at hpoll
      cases hpoll
    | expired _ _ hd' => exact absurd hd (Int.not_lt.2 hd')
    | waits => exact .pending hb hg ((verdicts_append_of_none hverdict).trans hms) hfind

/-- **A turn ends an invocation with the earliest event, or leaves it where it has been told
nothing.** -/
theorem turn (hprompt : d.Prompt) (h : Standing d n i.plan ms t.now t.shared.board.table i.phase)
    (hreg : t.Registered) (hi : t.invocations[n]? = some i) (ht : i.phase.OnTime d i.plan t.now)
    (hclock : i.plan.deadline d ≤ d.horizon) (hdue : Due d k t tick (.turn n))
    (hturn : i.Turn d n tick t.shared v') :
    Standing d n i.plan (ms ++ [⟨t, tick, .turn n⟩]) tick v'.table v'.phase := by
  have htick := hdue.onTime hi ht
  obtain ⟨hover, hstart⟩ := hdue.of_turn hi ht
  have hin := hdue.inTime hi ht hover h.not_handing
  have hgrant : Move.grant? d n ⟨t, tick, .turn n⟩ = _ := Move.grant?_turn hi
  have hquiet (hnone : i.grant? d n tick t.shared = none) :
      Move.verdict? d n i.plan ⟨t, tick, .turn n⟩ = none :=
    Move.verdict?_of_grant?_eq_none (hgrant.trans hnone) rfl
  -- Nothing is granted after the token or the deadline.
  have hnone {deadline : Instant} (hg : i.AtGate d tick deadline)
      (hlate : i.plan.isCancelled tick = true ∨ deadline ≤ Tick.instant tick) :
      i.grant? d n tick t.shared = none := by
    obtain ⟨rfl, -⟩ := Phase.OnTime.atGate hg htick hstart
    cases hgr : i.grant? d n tick t.shared with
    | none => rfl
    | some visit =>
      obtain ⟨deadline, hg', hc, hd⟩ := Invocation.grant?_spec hgr
      obtain ⟨rfl, -⟩ := Phase.OnTime.atGate hg' htick hstart
      rcases hlate with hc' | hd'
      · rw [hc] at hc'
        cases hc'
      · exact absurd hd (Int.not_lt.2 hd')
  have hsilent (hms : verdicts d n i.plan ms = [])
      (hnone : i.grant? d n tick t.shared = none) :
      verdicts d n i.plan (ms ++ [⟨t, tick, .turn n⟩]) = [] :=
    (verdicts_append_of_none (hquiet hnone)).trans hms
  cases hturn with
  | idle hend =>
    rw [hover] at hend
    cases hend
  | broken hbreak => exact absurd hbreak (hprompt.not_breaksDown hclock hstart)
  | misdirected hp _ hb =>
    have hgr : i.grant? d n tick t.shared = none := by
      simp only [Invocation.grant?, hp, hb, ite_self]
    rw [hp] at h
    cases h with
    | coming hms =>
      have hms := hsilent hms hgr
      refine .ended (fun hne => absurd hms hne) ?_
      rw [hstart hp] at hms ⊢
      exact first?_fates_misdirection hb hms
  | cancelled hg hc =>
    obtain ⟨hb, hms⟩ := h.gate hg
    have hms := hsilent hms (hnone hg (Or.inl hc))
    refine .ended (fun hne => absurd hms hne) ?_
    refine first?_fates_cancellation hb hin (Phase.OnTime.atGate hg htick hstart).2 hc ?_
    rw [hms]
    exact fun x hx => absurd hx List.not_mem_nil
  | late hg hc hd =>
    obtain ⟨hb, hms⟩ := h.gate hg
    have hms := hsilent hms (hnone hg (Or.inr hd))
    obtain ⟨rfl, -⟩ := Phase.OnTime.atGate hg htick hstart
    exact .ended (fun hne => absurd hms hne)
      (first?_fates_expiry hb hin hc (Tick.atOrAfter_le hd) hms)
  | failed hg _ htake =>
    obtain ⟨o, ho⟩ := hprompt.take _ _ _ _
    rw [ho] at htake
    cases htake
  | waits hg hc hd hv hgr =>
    obtain ⟨hb, hms⟩ := h.gate hg
    obtain ⟨rfl, -⟩ := Phase.OnTime.atGate hg htick hstart
    exact .admission hb (hsilent hms hgr)
  | duplicate hg hgr hfind =>
    rw [hreg.find?_eq_none hi (Invocation.ticket?_of_atGate hg)] at hfind
    cases hfind
  | granted hg hc hd hgr hfind hhand =>
    obtain ⟨hb, hms⟩ := h.gate hg
    obtain ⟨rfl, hs⟩ := Phase.OnTime.atGate hg htick hstart
    refine hand hprompt hin hs hb hms hc hd (hgrant.trans hgr) rfl rfl rfl
      (Table.find?_register hfind _) ?_ hhand
    exact Table.box_register hfind _
  | handing hp =>
    have hroom := h.not_handing
    rw [hp] at hroom
    exact absurd trivial hroom
  | @awaiting deadline ticket _ hp hlook =>
    have hnow := hdue.eq_now hi hp
    have hverdict : Move.verdict? d n i.plan ⟨t, tick, .turn n⟩ = none := by
      refine hquiet ?_
      unfold Invocation.grant?
      rw [hp]
    rw [hp] at ht h
    cases ht with
    | awaiting hs =>
      refine look (h.frame hverdict hdue.now_le ?_ fun _ _ => ⟨rfl, rfl⟩) hreg.sound hin
        (Nat.le_trans hs hdue.now_le) hlook
      rintro _ _ ⟨⟩
      exact hnow

theorem deliver {place : Nat} {x : Delivery}
    (h : Standing d n i.plan ms t.now t.shared.board.table i.phase) (hreg : t.Registered)
    (hi : t.invocations[n]? = some i) (hticket : i.phase.ticket? = some ticket)
    (hdue : Due d k t tick (.deliver place x)) (hx : x.id = i.plan.id) :
    Standing d n i.plan (ms ++ [⟨t, tick, .deliver place x⟩]) tick
      (t.shared.board.table.resolve i.plan.id x.response).2 i.phase := by
  have hlt := hreg.ticket_lt hi hticket
  have hnow (deadline : Instant) (ticket : Nat) (hp : i.phase = .awaiting deadline ticket) :=
    hdue.eq_now hi hp
  have hgrant : Move.grant? d n ⟨t, tick, .deliver place x⟩ = none := Move.grant?_of_ne nofun
  have hresolve := congrArg Prod.fst (Board.resolve_eq t.shared.board i.plan.id x.response)
  -- An answer that settles nothing tells it nothing.
  have hsame {o : Resolution} (ho : o ≠ .settled)
      (hr : t.shared.board.table.resolve i.plan.id x.response = (o, t.shared.board.table)) :
      Standing d n i.plan (ms ++ [⟨t, tick, .deliver place x⟩]) tick
        (t.shared.board.table.resolve i.plan.id x.response).2 i.phase := by
    rw [hr] at hresolve
    have hverdict : Move.verdict? d n i.plan ⟨t, tick, .deliver place x⟩ = none :=
      Move.verdict?_of_grant?_eq_none hgrant (if_neg fun hc => ho (hresolve.symm.trans hc.2))
    rw [hr]
    exact h.frame hverdict hdue.now_le hnow fun _ _ => ⟨rfl, rfl⟩
  obtain ⟨p, course, ph⟩ := i
  dsimp only at *
  cases h with
  | coming | admission | ended => cases hticket
  | pending hb hg hms hf =>
    obtain rfl := Option.some.inj hticket
    obtain ⟨m', hm', hg⟩ := hg
    rw [Table.resolve_of_pending hf rfl] at hresolve ⊢
    have hverdict : Move.verdict? d n p ⟨t, tick, .deliver place x⟩ = some x.response.outcome := by
      unfold Move.verdict? Move.refusal?
      rw [hgrant]
      exact if_pos ⟨hx, hresolve⟩
    refine .answered hb ⟨m', List.mem_append_left _ hm', hg⟩ (verdicts_append_of_some hverdict hms)
      ?_ ((Table.box_putBox _ _ _ _).trans (if_pos ⟨rfl, hlt⟩))
    rw [Table.find?_mark, show (t.shared.board.table.putBox _ _).find? p.id = _ from hf]
    exact congrArg some (if_pos rfl)
  | answered hb hg hms hf =>
    exact hsame (o := .alreadySettled) nofun (Table.resolve_of_settled hf rfl _)
  | swept hb hg hms hf => exact hsame (o := .unknown) nofun (Table.resolve_of_absent hf _)

theorem elsewhere (h : Standing d n i.plan ms t.now t.shared.board.table i.phase)
    (hreg : t.Registered)
    (hv : ∀ (n : Nat) (i : Invocation), t.invocations[n]? = some i → i.Visits)
    (hi : t.invocations[n]? = some i) (hdue : Due d k t tick e) (hturn : e ≠ .turn n)
    (habort : e ≠ .abort n) :
    Standing d n i.plan (ms ++ [⟨t, tick, e⟩]) tick
      (Move.after d k ⟨t, tick, e⟩).shared.board.table i.phase := by
  have hgrant : Move.grant? d n ⟨t, tick, e⟩ = none := Move.grant?_of_ne hturn
  have hnow (deadline : Instant) (ticket : Nat) (hp : i.phase = .awaiting deadline ticket) :=
    hdue.eq_now hi hp
  cases hticket : i.phase.ticket? with
  | none =>
    have hsettle : Move.settlement? i.plan.id ⟨t, tick, e⟩ = none :=
      Move.settlement?_of_absent (hreg.find?_eq_none hi hticket)
    refine h.frame (Move.verdict?_of_grant?_eq_none hgrant hsettle) hdue.now_le hnow ?_
    intro ticket hsome
    rw [hticket] at hsome
    cases hsome
  | some ticket =>
    -- Of all that others do, an answer to this very id is the only thing that can be a verdict.
    by_cases hdeliver : ∃ place x, e = .deliver place x ∧ x.id = i.plan.id
    · obtain ⟨place, x, rfl, hx⟩ := hdeliver
      have htable : (Move.after d k ⟨t, tick, .deliver place x⟩).shared.board.table =
          (t.shared.board.table.resolve i.plan.id x.response).2 := by
        rw [← hx]
        exact congrArg Prod.snd (Board.resolve_eq t.shared.board x.id x.response)
      rw [htable]
      exact h.deliver hreg hi hticket hdue hx
    · have hdeliver' : ∀ place x, e = .deliver place x → x.id ≠ i.plan.id :=
        fun place x he hx => hdeliver ⟨place, x, he, hx⟩
      have hsettle : Move.settlement? i.plan.id ⟨t, tick, e⟩ = none := by
        unfold Move.settlement?
        split
        · rename_i place x he
          exact if_neg fun hc => hdeliver' place x he hc.1
        · rfl
      have hverdict := Move.verdict?_of_grant?_eq_none hgrant hsettle
      rcases hreg.elsewhere hv hi hticket hturn habort hdeliver'
          (rfl : (Move.after d k ⟨t, tick, e⟩).shared.board.table = _) with
        hsame | ⟨w, entry, rfl, hf, hp, hover, hgone, hbox⟩
      · refine h.frame hverdict hdue.now_le hnow fun ticket' hsome => ?_
        obtain rfl := Option.some.inj (hticket.symm.trans hsome)
        exact hsame
      -- A sweep has taken the entry: it was pending and its deadline is over.
      · have hlate : Tick.atOrAfter entry.deadline ≤ tick := Tick.atOrAfter_le hover
        obtain ⟨p, course, ph⟩ := i
        dsimp only at *
        cases h with
        | coming | admission | ended => cases hticket
        | pending hb hg hms hf' =>
          obtain rfl := Option.some.inj (hf.symm.trans hf')
          obtain rfl := Option.some.inj hticket
          obtain ⟨m', hm', hg⟩ := hg
          exact .swept hb ⟨m', List.mem_append_left _ hm', hg⟩
            ((verdicts_append_of_none hverdict).trans hms) hgone hbox hlate
        | answered _ _ _ hf' =>
          obtain rfl := Option.some.inj (hf.symm.trans hf')
          cases hp
        | swept _ _ _ hf' =>
          rw [hf] at hf'
          cases hf'

end Standing

/-! ### Journeys -/

variable {plans : List Plan} {state : σ} {line : τ} {sweeper : Option Sweeper}
  {deliveries : Agenda Delivery}

/-- **Where an invocation stands in a journey.** -/
theorem Journey.standing (h : Journey d k (opening plans state line sweeper deliveries) ms t)
    (hprompt : d.Prompt) (hids : (plans.map (·.id)).Nodup) (hp : plans[n]? = some p)
    (habort : p.abort = none) (hclock : p.deadline d ≤ d.horizon) : ∃ i, KeepsTime d n p ms t i ∧
      Standing d n p ms t.now t.shared.board.table i.phase := by
  induction h with
  | start =>
    obtain ⟨i, hi⟩ := Journey.keepsTime (d := d) (k := k) (.start : Journey d k _ _ _) hp
    obtain rfl : .ofPlan p = i := by
      refine Option.some.inj (Eq.trans ?_ hi.getElem)
      exact ((List.getElem?_map ..).trans (congrArg _ hp)).symm
    exact ⟨_, hi, .coming rfl⟩
  | @move ms t tick e hj hdue ih =>
    obtain ⟨i, hkeeps, hst⟩ := ih
    obtain ⟨i', hkeeps'⟩ := (hj.move hdue).keepsTime hp
    refine ⟨i', hkeeps', ?_⟩
    obtain ⟨hi, rfl, ht, -⟩ := hkeeps
    have hreg := hj.registered hids
    have hlt : n < t.invocations.length := (List.getElem?_eq_some_iff.1 hi).1
    have hi' := hkeeps'.getElem
    rw [Move.now_after]
    -- Induction on the journey. Its last move concerns somebody else, drops the invocation, which
    -- is not planned, or is a turn of it.
    cases Move.concerns (m := ⟨t, tick, e⟩) (d := d) (k := k) hi with
    | other hturn hnot hsame =>
      obtain rfl := Option.some.inj (hsame.symm.trans hi')
      exact hst.elsewhere hreg (fun n i hi => (hj.keepsTime_of_getElem? hi).2.onTime.visits) hi hdue
        hturn hnot
    | abort he =>
      obtain rfl : e = .abort n := he
      obtain ⟨j, due, hj, hdue, -⟩ := of_mem_agenda_abort hdue.1
      obtain rfl := Option.some.inj (hi.symm.trans hj)
      unfold Invocation.abortDue? at hdue
      split at hdue
      · cases hdue
      · cases hdue
      · cases hdue
      · rw [habort] at hdue
        cases hdue
    | turn he hafter =>
      obtain rfl : e = .turn n := he
      rw [hafter] at hi' ⊢
      obtain rfl := Option.some.inj ((List.getElem?_set_self hlt).symm.trans hi')
      exact hst.turn hprompt hreg hi ht hclock hdue (Invocation.turn_view ht.visits).2

theorem Standing.goes_on (h : Standing d n i.plan ms t.now t.shared.board.table i.phase)
    (hi : t.invocations[n]? = some i) (ht : i.phase.OnTime d i.plan t.now)
    (hover : i.isOver = false) :
    ∃ tick, (tick, .turn n) ∈ t.agenda d k ∧ ∀ x ∈ fates d n i.plan ms, tick ≤ x.1 := by
  obtain ⟨due, hdue⟩ := exists_due (d := d) (n := n) hover h.not_handing t.now t.shared
  have hin := inTime_due ht hdue h.not_handing
  refine ⟨_, mem_agenda_turn hi hdue, fun x hx => ?_⟩
  obtain ⟨p, course, ph⟩ := i
  dsimp only at *
  -- The token and the deadline are never before the next turn; what is left are a misdirection and
  -- the verdicts.
  have hrest (hb : ∀ x ∈ p.misdirection, max t.now due ≤ x.1)
      (hms : ∀ x ∈ verdicts d n p ms, max t.now due ≤ x.1) : max t.now due ≤ x.1 := by
    unfold fates at hx
    simp only [List.mem_append] at hx
    rcases hx with hx | hx | hx | hx
    · exact hb x hx
    · exact hin.le_of_mem_cancellation hx
    · exact hms x hx
    · obtain rfl := List.mem_singleton.1 hx
      exact hin.1
  have hnone {a : Agenda (Except Failure Reply)} (ha : a = []) :
      ∀ x ∈ a, max t.now due ≤ x.1 := by
    rw [ha]
    exact fun x hx => absurd hx List.not_mem_nil
  cases h with
  | coming hms =>
    cases ht with
    | coming hs =>
      obtain rfl : p.start = due := Option.some.inj hdue
      refine hrest (fun y hy => ?_) (hnone hms)
      rw [Nat.max_eq_right hs]
      unfold Plan.misdirection at hy
      split at hy
      · obtain rfl := List.mem_singleton.1 hy
        exact Nat.le_refl p.start
      · cases hy
  | admission hb hms => exact hrest (hnone hb) (hnone hms)
  | pending hb _ hms => exact hrest (hnone hb) (hnone hms)
  | answered hb _ hms _ hbox =>
    have hdue := Option.some.inj hdue
    rw [if_neg (by rw [hbox]; exact nofun)] at hdue
    refine hrest (hnone hb) fun y hy => ?_
    rw [hms] at hy
    obtain rfl := List.mem_singleton.1 hy
    exact Nat.le_of_eq (by rw [← hdue, Nat.max_self])
  | swept hb _ hms => exact hrest (hnone hb) (hnone hms)
  | ended => cases hover

/-- A turn that an invocation had, where it stood then and what it left. -/
structure Turned (d : Dispatcher σ τ) (k : Consumer) (n : Nat) (m : Move σ τ) (i : Invocation)
    (v : View σ τ) : Prop where
  isOver : i.isOver = false
  onTime : i.phase.OnTime d i.plan m.tick
  start : i.phase = .coming → m.tick = i.plan.start
  unbroken : ¬i.BreaksDown d m.tick
  standing : ∃ ms, Standing d n i.plan ms m.before.now m.before.shared.board.table i.phase
  absent : i.phase.ticket? = none → m.before.shared.board.table.find? i.plan.id = none
  grant? : m.grant? d n = i.grant? d n m.tick m.before.shared
  turn : i.Turn d n m.tick m.before.shared v
  state : (m.after d k).shared.state = v.state
  line : (m.after d k).shared.line = v.line
  table : (m.after d k).shared.board.table = v.table

theorem Journey.turned (h : Journey d k (opening plans state line sweeper deliveries) ms t)
    (hprompt : d.Prompt) (hids : (plans.map (·.id)).Nodup) (hp : plans[n]? = some p)
    (habort : p.abort = none) (hclock : p.deadline d ≤ d.horizon) (hm : m ∈ ms)
    (he : m.errand = .turn n) : ∃ i v, i.plan = p ∧ Turned d k n m i v := by
  obtain ⟨before, tick, e⟩ := m
  dsimp only at he
  subst he
  obtain ⟨ms', -, hj, hdue⟩ := h.of_mem hm
  dsimp only at hj hdue
  obtain ⟨i, ⟨hi, rfl, ht, -⟩, hst⟩ := hj.standing hprompt hids hp habort hclock
  obtain ⟨hover, hstart⟩ := hdue.of_turn hi ht
  have hafter : Move.after d k ⟨before, tick, .turn n⟩ = _ :=
    act_eq (t := { before with now := tick }) hi fun i => i.turn d n tick
  refine ⟨i, _, rfl, hover, hdue.onTime hi ht, hstart, hprompt.not_breaksDown hclock hstart,
    ⟨ms', hst⟩,
    (hj.registered hids).find?_eq_none hi, Move.grant?_turn hi,
    (Invocation.turn_view ht.visits).2, ?_, ?_, ?_⟩ <;> rw [hafter] <;> rfl

namespace Turned

variable {v : View σ τ}

theorem granted (h : Turned d k n m i v) (hg : m.grant? d n ≠ none) :
    ∀ x ∈ i.plan.cancellation ++ i.plan.expiry d, m.tick < x.1 := by
  obtain ⟨visit, hvisit⟩ := Option.ne_none_iff_exists'.1 hg
  obtain ⟨deadline, hgate, hc, hd⟩ := Invocation.grant?_spec (h.grant?.symm.trans hvisit)
  obtain ⟨rfl, -⟩ := Phase.OnTime.atGate hgate h.onTime h.start
  intro x hx
  rcases List.mem_append.1 hx with hx | hx
  · exact Plan.lt_of_mem_cancellation hc hx
  · obtain rfl := List.mem_singleton.1 hx
    exact Tick.lt_atOrAfter hd

theorem line_eq (h : Turned d k n m i v) (hg : m.grant? d n = none) :
    (m.after d k).shared.line = m.before.shared.line := by
  obtain ⟨ms, hst⟩ := h.standing
  rw [h.line]
  cases h.turn with
  | idle | broken | misdirected | cancelled | late | failed | waits | duplicate => rfl
  | granted _ _ _ hgr =>
    rw [h.grant?, hgr] at hg
    cases hg
  | handing hp =>
    have hroom := hst.not_handing
    rw [hp] at hroom
    exact absurd trivial hroom
  | awaiting hp hlook => exact hlook.line_eq

theorem line_of_grant (h : Turned d k n m i v) {visit : Visit} (hg : m.grant? d n = some visit) :
    (m.after d k).shared.line =
      (d.queue.offer n (i.plan.request d visit m.tick).toUtf8 m.before.shared.line).2 := by
  have hgr := h.grant?.symm.trans hg
  obtain ⟨deadline, hgate, hc, hd⟩ := Invocation.grant?_spec hgr
  obtain ⟨rfl, -⟩ := Phase.OnTime.atGate hgate h.onTime h.start
  rw [h.line]
  -- A grant rules out every turn but the one that hands over the message.
  cases h.turn with
  | idle hend =>
    rw [h.isOver] at hend
    cases hend
  | broken hbreak => exact absurd hbreak h.unbroken
  | misdirected hp _ hb =>
    simp only [Invocation.grant?, hp, hb, ite_self] at hgr
    cases hgr
  | cancelled _ hc' =>
    rw [hc] at hc'
    cases hc'
  | late hg' _ hd' =>
    obtain ⟨rfl, -⟩ := Phase.OnTime.atGate hg' h.onTime h.start
    exact absurd hd (Int.not_lt.2 hd')
  | failed _ hnone | waits _ _ _ _ hnone =>
    rw [hgr] at hnone
    cases hnone
  | duplicate hg' _ hfind =>
    rw [h.absent (Invocation.ticket?_of_atGate hg')] at hfind
    cases hfind
  | granted _ _ _ hgr' _ hhand =>
    obtain rfl := Option.some.inj (hgr.symm.trans hgr')
    exact hhand.line_eq
  | handing hp | awaiting hp =>
    unfold Invocation.AtGate at hgate
    rw [hp] at hgate
    exact hgate.elim

/-- An invocation without a bucket neither takes nor registers nor hands over anything. -/
theorem misdirected (h : Turned d k n m i v) (hb : i.plan.misdirection ≠ []) :
    m.grant? d n = none ∧ (m.after d k).shared.state = m.before.shared.state ∧
      (m.after d k).shared.line = m.before.shared.line ∧
      (m.after d k).shared.board.table = m.before.shared.board.table := by
  obtain ⟨ms, hst⟩ := h.standing
  -- Without a bucket there is no way to the gate.
  have hgate {deadline : Instant} (hg : i.AtGate d m.tick deadline) : False := hb (hst.gate hg).1
  have hgrant : m.grant? d n = none := by
    rw [h.grant?]
    cases hgr : i.grant? d n m.tick m.before.shared with
    | none => rfl
    | some visit =>
      obtain ⟨deadline, hg, -⟩ := Invocation.grant?_spec hgr
      exact (hgate hg).elim
  refine ⟨hgrant, ?_⟩
  rw [h.state, h.line, h.table]
  cases h.turn with
  | idle | misdirected => exact ⟨rfl, rfl, rfl⟩
  | broken hbreak => exact absurd hbreak h.unbroken
  | cancelled hg | late hg | failed hg | waits hg | duplicate hg | granted hg =>
    exact (hgate hg).elim
  | handing hp =>
    have hroom := hst.not_handing
    rw [hp] at hroom
    exact absurd trivial hroom
  | awaiting hp =>
    rw [hp] at hst
    exact absurd hst.sent.1 hb

end Turned

variable {T : Table} {ph : Phase}

theorem Standing.unanswered (h : Standing d n p ms now T ph)
    (hms : ∀ m ∈ ms, m.grant? d n = none) : verdicts d n p ms = [] := by
  have hno : ¬∃ m ∈ ms, m.grant? d n ≠ none := by
    rintro ⟨m, hm, hg⟩
    exact hg (hms m hm)
  cases h with
  | coming hv | admission _ hv | pending _ _ hv | swept _ _ hv => exact hv
  | answered _ hg => exact absurd hg hno
  | ended hg =>
    by_contra hne
    exact hno (hg hne)

theorem Standing.first?_fates (h : Standing d n p ms now T i.phase) (hover : i.isOver = true) :
    i.phase.ticket? = none ∧
      ∃ at' r, i.phase = .ended at' r ∧ (fates d n p ms).first? = some (at', r) := by
  obtain ⟨q, course, ph⟩ := i
  dsimp only at h ⊢
  cases h with
  | coming | admission | pending | answered | swept => cases hover
  | ended _ hfirst => exact ⟨rfl, _, _, rfl, hfirst⟩

/-- **How the earliest event decides.** -/
structure Decided (d : Dispatcher σ τ) (k : Consumer) (n : Nat) (p : Plan) (ms : List (Move σ τ))
    (t : Traffic σ τ) (i : Invocation) : Prop where
  /-- An invocation that is over has ended with the first event and when it came, and its id has
  left the table. -/
  ended : i.isOver = true → t.shared.board.table.find? p.id = none ∧
    ∃ at' r, i.phase = .ended at' r ∧ (fates d n p ms).first? = some (at', r)
  /-- One that is not over will go on at the first event at the latest. -/
  goes_on : i.isOver = false →
    ∃ tick, (tick, .turn n) ∈ t.agenda d k ∧ ∀ x ∈ fates d n p ms, tick ≤ x.1
  /-- What has no bucket neither takes nor registers nor hands over anything. -/
  misdirected : p.misdirection ≠ [] → ∀ m ∈ ms, m.errand = .turn n →
    m.grant? d n = none ∧ (m.after d k).shared.state = m.before.shared.state ∧
      (m.after d k).shared.line = m.before.shared.line ∧
      (m.after d k).shared.board.table = m.before.shared.board.table
  /-- A grant comes before the token and the deadline. -/
  granted : ∀ m ∈ ms, m.grant? d n ≠ none → ∀ x ∈ p.cancellation ++ p.expiry d, m.tick < x.1
  /-- With its grant an invocation hands over its message. -/
  handed : ∀ m ∈ ms, ∀ v, m.grant? d n = some v → (m.after d k).shared.line =
    (d.queue.offer n (p.request d v m.tick).toUtf8 m.before.shared.line).2
  /-- Without a grant nothing is handed over. -/
  ungranted : ∀ m ∈ ms, m.errand = .turn n → m.grant? d n = none →
    (m.after d k).shared.line = m.before.shared.line
  /-- Without a grant there is neither a refusal nor an answer. -/
  unanswered : (∀ m ∈ ms, m.grant? d n = none) → verdicts d n p ms = []

/-- **The earliest event decides.** Invocations with different ids share buckets in memory and a
queue that takes or refuses a message at once, and there is a sleep to choose after every denial.
Whatever order the things due at one tick are done in, an invocation that is not dropped and whose
deadline the clock can tell ends with the first of its events, and when it comes. Its deadline
comes at the first tick that is not before it: an answer at that tick may still be the first. -/
theorem Journey.earliest_decides {d : Dispatcher (Catalog Bucket) τ} {limits : Limits}
    {plans : List Plan} {state : Catalog Bucket} {line : τ} {sweeper : Option Sweeper}
    {deliveries : Agenda Delivery} {ms : List (Move (Catalog Bucket) τ)}
    {t : Traffic (Catalog Bucket) τ} (hstore : d.store = Memory.store limits)
    (hqueue : ∀ n m line, (d.queue.offer n m line).1 ≠ .later)
    (h : Journey d k (opening plans state line sweeper deliveries) ms t)
    (hids : (plans.map (·.id)).Nodup) (hp : plans[n]? = some p) (habort : p.abort = none)
    (hpossible : d.gate.backoff.IsPossible) (hclock : p.deadline d ≤ d.horizon) :
    ∃ i, t.invocations[n]? = some i ∧ i.plan = p ∧ Decided d k n p ms t i := by
  have hprompt : d.Prompt := ⟨fun _ _ _ _ => hstore ▸ ⟨_, rfl⟩, hqueue, hpossible⟩
  obtain ⟨i, ⟨hi, rfl, ht, -⟩, hst⟩ := h.standing hprompt hids hp habort hclock
  have hturn {m : Move (Catalog Bucket) τ} (hg : m.grant? d n ≠ none) : m.errand = .turn n := by
    by_contra hne
    exact hg (Move.grant?_of_ne hne)
  refine ⟨i, hi, rfl, ?_, hst.goes_on hi ht, ?_, ?_, ?_, ?_, hst.unanswered⟩
  · intro hover
    obtain ⟨hticket, hfirst⟩ := hst.first?_fates hover
    exact ⟨(h.registered hids).find?_eq_none hi hticket, hfirst⟩
  · intro hb m hm he
    obtain ⟨j, v, hj, hturned⟩ := h.turned hprompt hids hp habort hclock hm he
    exact hturned.misdirected (hj ▸ hb)
  · intro m hm hg
    obtain ⟨j, v, hj, hturned⟩ := h.turned hprompt hids hp habort hclock hm (hturn hg)
    exact hj ▸ hturned.granted hg
  · intro m hm visit hg
    have hne : m.grant? d n ≠ none := by
      rw [hg]
      exact nofun
    obtain ⟨j, v, hj, hturned⟩ := h.turned hprompt hids hp habort hclock hm (hturn hne)
    exact hj ▸ hturned.line_of_grant hg
  · intro m hm he hg
    obtain ⟨j, v, -, hturned⟩ := h.turned hprompt hids hp habort hclock hm he
    exact hturned.line_eq hg

/-- Five units, a queue that takes everything, and 50 milliseconds for every invocation. -/
def promptDispatcher : Dispatcher (Catalog Bucket) Script where
  gate := ⟨.standard, fun _ _ => 0⟩
  store := Memory.store ⟨5, .ofSeconds 1⟩
  latency := 0
  queue := Script.queue "script"
  routes := .standard
  returnAddress := "localhost:4321"
  timeout := .ofMillis 50
  start := .epoch

/-- The crowd, of which the first invocation gets an answer after ten milliseconds and another one
after twelve. -/
def answeredCrowd : Traffic (Catalog Bucket) Script :=
  opening crowd .empty ⟨[], []⟩ none
    [(10, ⟨0, .ofNat 1, .success (.ofNat 1) 200 []⟩),
      (12, ⟨1, .ofNat 1, .success (.ofNat 1) 500 []⟩)]

/-- The first invocation has ended after six moves. -/
theorem earliest_decides_answered : ∃ ms t,
    Journey promptDispatcher lateConsumer answeredCrowd ms t ∧ ∃ p, crowd[0]? = some p ∧
      ∃ i, t.invocations[0]? = some i ∧ i.plan = p ∧
        Decided promptDispatcher lateConsumer 0 p ms t i ∧ i.isOver = true := by
  obtain ⟨ms, hms⟩ := exists_journey_run promptDispatcher lateConsumer 6 answeredCrowd
  have hqueue (n : Nat) (m : Bytes) (line : Script) :
      (promptDispatcher.queue.offer n m line).1 ≠ .later := by
    change (Script.offer m line).1 ≠ .later
    unfold Script.offer
    split <;> exact nofun
  obtain ⟨i, hi, hplan, hdecided⟩ := Journey.earliest_decides
    (rfl : promptDispatcher.store = Memory.store ⟨5, .ofSeconds 1⟩) hqueue hms (by decide)
    (rfl : crowd[0]? = some _) rfl (Backoff.isPossible (by decide)) (by decide)
  have hover : (answeredCrowd.run promptDispatcher lateConsumer 6).invocations[0]?.any
      (·.isOver) = true := by decide +kernel
  rw [hi] at hover
  exact ⟨ms, _, hms, _, rfl, i, hi, hplan, hdecided, hover⟩

deriving instance DecidableEq for Phase

/-- An invocation that may take ten and a half milliseconds. -/
def unevenPlan : Plan :=
  ⟨0, .ofNat 1, { Call.simple "GET" "https://example.com/" with bucketId := some "b" },
    some (.ofMicros 10500), none, none⟩

/-- Its answer. -/
def unevenAnswer : Response := .success (.ofNat 1) 200 []

/-- The answer arrives at the first tick after the deadline. -/
def unevenCrowd : Traffic (Catalog Bucket) Script :=
  opening [unevenPlan] .empty ⟨[], []⟩ none [(11, ⟨0, .ofNat 1, unevenAnswer⟩)]

/-- **An answer that comes after the deadline can decide**, as long as it comes at the tick to which
the deadline is rounded up. -/
theorem answered_after_deadline :
    unevenPlan.cancel = none ∧ unevenPlan.deadline promptDispatcher < Tick.instant 11 ∧
      ∃ ms t, Journey promptDispatcher lateConsumer unevenCrowd ms t ∧
        verdicts promptDispatcher 0 unevenPlan ms = [(11, unevenAnswer.outcome)] ∧
        t.invocations.map (·.phase) = [.ended 11 unevenAnswer.outcome] :=
  ⟨rfl, by decide, _, _, journey_run promptDispatcher lateConsumer 3 unevenCrowd,
    by decide +kernel, by decide +kernel⟩

end Traffic

end Sluice
