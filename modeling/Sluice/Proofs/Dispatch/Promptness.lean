import Sluice.Proofs.Dispatch.Journey
import Sluice.Proofs.Dispatch.Turn
import Sluice.Queue.Channel
import Sluice.Quota.Memory

/-!
# Deadlines and tokens are kept

An invocation that waits at the gate or for its answer goes on at its deadline and when its token
fires, whatever else is going on. Nothing of the kind holds while it waits for room in the queue:
it goes on when there is room, if ever.

* `Plan.InTime` : neither the deadline nor the token has passed;
* `Phase.OnTime` : where an invocation can stand at a tick;
* `Phase.OnTime.turn` : a turn ends in time, unless it begins with a wait for room in the queue;
* `Traffic.Journey.keeps_time` : in every journey an invocation that waits is in time, and one that
  ended late has waited for room in the queue until then;
* `Traffic.waits_beyond_deadline` : a full queue can keep an invocation beyond its deadline and its
  token.
-/

namespace Sluice

variable {σ τ : Type} {d : Dispatcher σ τ} {k : Consumer} {p : Plan} {now tick : Tick}

namespace Plan

/-- Neither the deadline nor the token has passed. A token that fired before the invocation began
passes when it begins. -/
def InTime (d : Dispatcher σ τ) (p : Plan) (now : Tick) : Prop :=
  now ≤ Tick.atOrAfter (p.deadline d) ∧ ∀ c, p.cancel = some c → now ≤ max p.start c

theorem InTime.mono (h : p.InTime d now) (hle : tick ≤ now) : p.InTime d tick :=
  ⟨Nat.le_trans hle h.1, fun c hc => Nat.le_trans hle (h.2 c hc)⟩

theorem inTime_start : p.InTime d p.start := by
  refine ⟨Tick.le_atOrAfter ?_, fun c _ => Nat.le_max_left _ _⟩
  exact Int.le_add_of_nonneg_right (Int.natCast_nonneg _)

theorem lt_of_not_cancelled (hc : p.isCancelled now = false) {c : Tick} (h : p.cancel = some c) :
    now < c := by
  unfold isCancelled at hc
  rw [h, Option.any_some, decide_eq_false_iff_not] at hc
  exact Nat.lt_of_not_le hc

theorem inTime_of_not_late (hc : p.isCancelled now = false)
    (hd : Tick.instant now < p.deadline d) : p.InTime d now := by
  refine ⟨Tick.le_atOrAfter (Int.le_of_lt hd), fun c h => ?_⟩
  exact Nat.le_trans (Nat.le_of_lt (lt_of_not_cancelled hc h)) (Nat.le_max_right _ _)

end Plan

/-! ### Where an invocation can stand -/

namespace Phase

/-- Where an invocation can stand at a tick. -/
inductive OnTime (d : Dispatcher σ τ) (p : Plan) (now : Tick) : Phase → Prop where
  | coming (h : now ≤ p.start) : OnTime d p now .coming
  | admission {v : Visit} {w : Waiting} (hs : p.start ≤ now)
    (hv : v.deadline = some (p.deadline d)) (h : p.InTime d now) :
    OnTime d p now (.admission (p.deadline d) v w)
  | handing {ticket : Nat} {r : Request} (hs : p.start ≤ now) :
    OnTime d p now (.handing (p.deadline d) ticket r)
  | awaiting {ticket : Nat} (hs : p.start ≤ now) (h : p.InTime d now) :
    OnTime d p now (.awaiting (p.deadline d) ticket)
  | ended {at' : Tick} {r : Except Failure Reply} (hs : p.start ≤ at') (h : at' ≤ now) :
    OnTime d p now (.ended at' r)
  | dropped : OnTime d p now .dropped
  | broken : OnTime d p now .broken

/-- Waiting for room in the queue. -/
def IsHanding : Phase → Prop
  | .handing .. => True
  | _ => False

theorem OnTime.visits {i : Invocation} (h : i.phase.OnTime d p now) : i.Visits := by
  intro deadline v w hp
  rw [hp] at h
  cases h with
  | admission _ hv => exact hv

end Phase

namespace Traffic

variable {t : Traffic σ τ} {ms : List (Move σ τ)} {i : Invocation} {n : Nat} {e : Errand}

theorem inTime_due {due : Tick} {s : Shared σ τ} (h : i.phase.OnTime d i.plan now)
    (hdue : i.due? d n now s = some due) (hroom : ¬i.phase.IsHanding) :
    i.plan.InTime d (max now due) := by
  obtain ⟨p, course, ph⟩ := i
  dsimp only at h hroom ⊢
  -- Whoever waits does so until its deadline at most, or until its token fires.
  have hbound {t : Tick} (hin : p.InTime d now) (ht : t ≤ Tick.atOrAfter (p.deadline d)) :
      p.InTime d (max now (p.cancel.elim t (min t))) := by
    cases hcancel : p.cancel with
    | none => exact ⟨Nat.max_le.2 ⟨hin.1, ht⟩, fun c hc => absurd (hcancel ▸ hc) nofun⟩
    | some c =>
      refine ⟨Nat.max_le.2 ⟨hin.1, Nat.le_trans (Nat.min_le_left _ _) ht⟩, fun c' hc' => ?_⟩
      obtain rfl := Option.some.inj (hcancel.symm.trans hc')
      refine Nat.max_le.2 ⟨hin.2 c hc', ?_⟩
      exact Nat.le_trans (Nat.min_le_right _ _) (Nat.le_max_right _ _)
  cases h with
  | coming h =>
    obtain rfl : p.start = due := Option.some.inj hdue
    exact Plan.inTime_start.mono (Nat.max_le.2 ⟨h, Nat.le_refl _⟩)
  | @admission v w hs hv hin =>
    cases w with
    | answer t o => exact Option.some.inj hdue ▸ hbound hin (Nat.min_le_right _ _)
    | wake t => exact Option.some.inj hdue ▸ hbound hin (Nat.min_le_right _ _)
  | handing hs => exact absurd trivial hroom
  | awaiting hs hin =>
    have hdue := Option.some.inj hdue
    split_ifs at hdue with hbox
    · exact hdue ▸ hbound hin (Nat.le_refl _)
    · rw [← hdue, Nat.max_self]
      exact hin
  | ended | dropped | broken => cases hdue

/-- An invocation that has not ended waits for something, unless it waits for room in the queue. -/
theorem exists_due (hover : i.isOver = false) (hroom : ¬i.phase.IsHanding) (now : Tick)
    (s : Shared σ τ) : ∃ due, i.due? d n now s = some due := by
  unfold Invocation.due?
  unfold Invocation.isOver at hover
  split
  · exact ⟨_, rfl⟩
  · exact ⟨_, rfl⟩
  · exact ⟨_, rfl⟩
  · rename_i hp
    rw [hp] at hroom
    exact absurd trivial hroom
  · exact ⟨_, rfl⟩
  all_goals simp_all

/-- Whatever is done next is done in time for an invocation that does not wait for room. -/
theorem Due.inTime (h : Due d k t tick e) (hi : t.invocations[n]? = some i)
    (ht : i.phase.OnTime d i.plan t.now) (hover : i.isOver = false)
    (hroom : ¬i.phase.IsHanding) : i.plan.InTime d tick := by
  obtain ⟨due, hdue⟩ := exists_due (d := d) (n := n) hover hroom t.now t.shared
  exact (inTime_due ht hdue hroom).mono (h.le_max hi hdue)

end Traffic

/-! ### Turns -/

namespace Phase.OnTime

variable {number ticket : Nat} {i : Invocation} {s : Shared σ τ} {v v' : View σ τ}

/-- Where an invocation can stand when it has had a turn; an end is now. -/
def Done (d : Dispatcher σ τ) (p : Plan) (tick : Tick) (ph : Phase) : Prop :=
  ph.OnTime d p tick ∧ ∀ at' r, ph = .ended at' r → at' = tick

theorem done_ended (r : Except Failure Reply) (hs : p.start ≤ tick) :
    Done d p tick (.ended tick r) :=
  ⟨.ended hs (Nat.le_refl _), fun _ _ h => (Phase.ended.inj h).1.symm⟩

theorem look (h : Look d p tick (p.deadline d) ticket v v') (hs : p.start ≤ tick) :
    Done d p tick v'.phase := by
  cases h with
  | waits hc _ hd => exact ⟨.awaiting hs (Plan.inTime_of_not_late hc hd), fun _ _ h => by cases h⟩
  | cancelled | settled | expired => exact done_ended _ hs

theorem hand {r : Request} (h : Hand d number p tick (p.deadline d) ticket r v v')
    (hs : p.start ≤ tick) : Done d p tick v'.phase := by
  cases h with
  | later => exact ⟨.handing hs, fun _ _ h => by cases h⟩
  | refused => exact done_ended _ hs
  | accepted _ hlook => exact look hlook hs

theorem atGate {deadline : Instant} (hg : i.AtGate d tick deadline)
    (ht : i.phase.OnTime d i.plan tick) (hstart : i.phase = .coming → tick = i.plan.start) :
    deadline = i.plan.deadline d ∧ i.plan.start ≤ tick := by
  unfold Invocation.AtGate at hg
  obtain ⟨p, course, ph⟩ := i
  dsimp only at ht hg hstart ⊢
  cases ht with
  | coming =>
    obtain rfl := hstart rfl
    exact ⟨hg.1, Nat.le_refl _⟩
  | admission hs => exact ⟨hg, hs⟩
  | handing | awaiting | ended | dropped | broken => exact hg.elim

/-- **A turn leaves an invocation where it can stand.** -/
theorem turn (h : Invocation.Turn d number tick i s v') (hover : i.isOver = false)
    (ht : i.phase.OnTime d i.plan tick) (hstart : i.phase = .coming → tick = i.plan.start) :
    Done d i.plan tick v'.phase := by
  cases h with
  | idle h =>
    rw [hover] at h
    cases h
  | broken => exact ⟨.broken, fun _ _ h => by cases h⟩
  | misdirected hp => exact done_ended _ (Nat.le_of_eq (hstart hp).symm)
  | cancelled hg => exact done_ended _ (atGate hg ht hstart).2
  | late hg => exact done_ended _ (atGate hg ht hstart).2
  | failed hg => exact done_ended _ (atGate hg ht hstart).2
  | duplicate hg => exact done_ended _ (atGate hg ht hstart).2
  | waits hg hc hd hv =>
    obtain ⟨rfl, hs⟩ := atGate hg ht hstart
    exact ⟨.admission hs hv (Plan.inTime_of_not_late hc hd), fun _ _ h => by cases h⟩
  | granted hg _ _ _ _ hhand =>
    obtain ⟨rfl, hs⟩ := atGate hg ht hstart
    exact hand hhand hs
  | handing hp hhand =>
    rw [hp] at ht
    cases ht with
    | handing hs => exact hand hhand hs
  | awaiting hp hlook =>
    rw [hp] at ht
    cases ht with
    | awaiting hs => exact look hlook hs

theorem drop (h : Invocation.Drop i s v') (ht : i.phase.OnTime d i.plan tick) :
    v'.phase.OnTime d i.plan tick ∧ ∀ at' r, v'.phase = .ended at' r → i.phase = .ended at' r := by
  cases h with
  | idle => exact ⟨ht, fun _ _ h => h⟩
  | early | late => exact ⟨.dropped, fun _ _ h => by cases h⟩

end Phase.OnTime

/-! ### Journeys -/

namespace Traffic

variable {t : Traffic σ τ} {ms : List (Move σ τ)} {i : Invocation} {n : Nat} {e : Errand}

/-- Whatever is done next, an invocation can stand where it stands until then. -/
theorem Due.onTime (h : Due d k t tick e) (hi : t.invocations[n]? = some i)
    (ht : i.phase.OnTime d i.plan t.now) : i.phase.OnTime d i.plan tick := by
  have hle := h.now_le
  have hin (hover : i.isOver = false) (hroom : ¬i.phase.IsHanding) : i.plan.InTime d tick :=
    h.inTime hi ht hover hroom
  have hcoming (hp : i.phase = .coming) (hle' : t.now ≤ i.plan.start) : tick ≤ i.plan.start := by
    have hdue : i.due? d n t.now t.shared = some i.plan.start := by
      unfold Invocation.due?
      rw [hp]
    exact Nat.le_trans (h.le_max hi hdue) (Nat.max_le.2 ⟨hle', Nat.le_refl _⟩)
  obtain ⟨p, course, ph⟩ := i
  dsimp only at ht hin hcoming ⊢
  cases ht with
  | coming hs => exact .coming (hcoming rfl hs)
  | admission hs hv => exact .admission (Nat.le_trans hs hle) hv (hin rfl id)
  | handing hs => exact .handing (Nat.le_trans hs hle)
  | awaiting hs => exact .awaiting (Nat.le_trans hs hle) (hin rfl id)
  | ended hs h => exact .ended hs (Nat.le_trans h hle)
  | dropped => exact .dropped
  | broken => exact .broken

theorem Due.of_turn (h : Due d k t tick (.turn n)) (hi : t.invocations[n]? = some i)
    (ht : i.phase.OnTime d i.plan t.now) :
    i.isOver = false ∧ (i.phase = .coming → tick = i.plan.start) := by
  obtain ⟨i', due, hi', hwait, hmax⟩ := of_mem_agenda_turn h.1
  obtain rfl := Option.some.inj (hi.symm.trans hi')
  unfold Invocation.due? at hwait
  constructor
  · unfold Invocation.isOver
    split at hwait <;> simp_all
  · intro hp
    rw [hp] at hwait ht
    cases ht with
    | coming hs => rw [hmax, ← Option.some.inj hwait, Nat.max_eq_right hs]

/-- The turn in which an invocation ended began with a wait for room in the queue. -/
def HeldUp (n : Nat) (at' : Tick) (ms : List (Move σ τ)) : Prop :=
  ∃ m ∈ ms, m.tick = at' ∧ m.errand = .turn n ∧
    ∃ i, m.before.invocations[n]? = some i ∧ i.phase.IsHanding

/-- One invocation in a journey. -/
structure KeepsTime (d : Dispatcher σ τ) (n : Nat) (p : Plan) (ms : List (Move σ τ))
    (t : Traffic σ τ) (i : Invocation) : Prop where
  getElem : t.invocations[n]? = some i
  plan : i.plan = p
  onTime : i.phase.OnTime d p t.now
  ended : ∀ at' r, i.phase = .ended at' r → p.InTime d at' ∨ HeldUp n at' ms

theorem HeldUp.append {at' : Tick} (h : HeldUp n at' ms) (m : Move σ τ) :
    HeldUp n at' (ms ++ [m]) := by
  obtain ⟨m', hm', h⟩ := h
  exact ⟨m', List.mem_append_left _ hm', h⟩

/-- What a move leaves of an invocation that can stand where it stands. -/
theorem KeepsTime.move (h : KeepsTime d n p ms t i) (hdue : Due d k t tick e) :
    ∃ i', KeepsTime d n p (ms ++ [⟨t, tick, e⟩]) (Move.after d k ⟨t, tick, e⟩) i' := by
  obtain ⟨hi, rfl, ht, hend⟩ := h
  have htick := hdue.onTime hi ht
  have hlt : n < t.invocations.length := (List.getElem?_eq_some_iff.1 hi).1
  cases Move.concerns (m := ⟨t, tick, e⟩) (d := d) (k := k) hi with
  | other hturn habort hsame =>
    refine ⟨i, hsame, rfl, ?_, fun at' r hp => (hend at' r hp).imp_right (·.append _)⟩
    rw [Move.now_after]
    exact htick
  | abort he hafter =>
    obtain ⟨hplan, hdrop⟩ := Invocation.abort_view d n i t.shared
    obtain ⟨hphase, hkeep⟩ := htick.drop hdrop
    rw [hafter]
    refine ⟨_, List.getElem?_set_self hlt, hplan, hphase, fun at' r hp => ?_⟩
    exact (hend at' r (hkeep at' r hp)).imp_right (·.append _)
  | turn he hafter =>
    have he : e = .turn n := he
    subst he
    obtain ⟨hover, hstart⟩ := hdue.of_turn hi ht
    obtain ⟨hplan, hturn⟩ := Invocation.turn_view (d := d) (s := t.shared) ht.visits
    obtain ⟨hphase, hnow⟩ := Phase.OnTime.turn hturn hover htick hstart
    rw [hafter]
    refine ⟨_, List.getElem?_set_self hlt, hplan, hphase, fun at' r hp => ?_⟩
    obtain rfl := hnow at' r hp
    -- An invocation that ends late was waiting for room until then, and this move is the evidence.
    by_cases hroom : i.phase.IsHanding
    · exact Or.inr ⟨_, List.mem_append_right _ (List.mem_singleton_self _), rfl, rfl, i, hi, hroom⟩
    · exact Or.inl (hdue.inTime hi ht hover hroom)

theorem Journey.keepsTime {plans : List Plan} {state : σ} {line : τ} {sweeper : Option Sweeper}
    {deliveries : Agenda Delivery}
    (h : Journey d k (opening plans state line sweeper deliveries) ms t)
    (hp : plans[n]? = some p) : ∃ i, KeepsTime d n p ms t i := by
  induction h with
  | start =>
    refine ⟨.ofPlan p, ?_, rfl, .coming (Nat.zero_le _), fun _ _ h => by cases h⟩
    exact (List.getElem?_map ..).trans (congrArg _ hp)
  | move _ hdue ih =>
    obtain ⟨i, hi⟩ := ih
    exact hi.move hdue

theorem Journey.keepsTime_of_getElem? {plans : List Plan} {state : σ} {line : τ}
    {sweeper : Option Sweeper} {deliveries : Agenda Delivery}
    (h : Journey d k (opening plans state line sweeper deliveries) ms t)
    (hi : t.invocations[n]? = some i) : plans[n]? = some i.plan ∧ KeepsTime d n i.plan ms t i := by
  have hlt : n < plans.length := by
    have hlen : t.invocations.length = (plans.map Invocation.ofPlan).length := h.length_eq
    rw [List.length_map] at hlen
    exact hlen ▸ (List.getElem?_eq_some_iff.1 hi).1
  obtain ⟨i', hi'⟩ := h.keepsTime (List.getElem?_eq_getElem hlt)
  obtain rfl := Option.some.inj (hi.symm.trans hi'.getElem)
  rw [hi'.plan]
  exact ⟨List.getElem?_eq_getElem hlt, hi'⟩

/-- **Deadlines and tokens are kept except in front of a full queue.** In every journey an
invocation that waits at the gate or for its answer is in time; one that has ended has ended in time,
or it waited for room in the queue right until it ended. -/
theorem Journey.keeps_time {plans : List Plan} {state : σ} {line : τ} {sweeper : Option Sweeper}
    {deliveries : Agenda Delivery}
    (h : Journey d k (opening plans state line sweeper deliveries) ms t)
    (hp : plans[n]? = some p) :
    ∃ i, t.invocations[n]? = some i ∧ i.plan = p ∧
      (i.isOver = false → ¬i.phase.IsHanding → p.InTime d t.now) ∧
      ∀ at' r, i.phase = .ended at' r → p.InTime d at' ∨ HeldUp n at' ms := by
  obtain ⟨i, hi, rfl, ht, hend⟩ := h.keepsTime hp
  refine ⟨i, hi, rfl, fun hover hroom => ?_, hend⟩
  obtain ⟨p, course, ph⟩ := i
  dsimp only at ht hroom ⊢
  cases ht with
  | coming hs => exact Plan.inTime_start.mono hs
  | admission _ _ hin => exact hin
  | handing => exact absurd trivial hroom
  | awaiting _ hin => exact hin
  | ended | dropped | broken => cases hover

/-- Five units, a queue, and 50 milliseconds for every invocation. -/
def smallDispatcher : Dispatcher (Catalog Bucket) Channel where
  gate := ⟨.standard, fun _ _ => 0⟩
  store := Memory.store ⟨5, .ofSeconds 1⟩
  latency := 0
  queue := Channel.queue
  routes := .standard
  returnAddress := "localhost:4321"
  timeout := .ofMillis 50
  start := .epoch

/-- A consumer that comes after two seconds and does not answer. -/
def lateConsumer : Consumer := ⟨2000, fun _ => []⟩

/-- Two invocations at once, of which the second has a token that fires after 20 milliseconds, and
another one after a second. -/
def crowd : List Plan :=
  let call : Call := { Call.simple "GET" "https://example.com/" with bucketId := some "b" }
  [⟨0, .ofNat 1, call, none, none, none⟩, ⟨0, .ofNat 2, call, none, some 20, none⟩,
    ⟨1000, .ofNat 3, call, none, none, none⟩]

/-- The crowd in front of a queue with room for one message. -/
def crowded : Traffic (Catalog Bucket) Channel := opening crowd .empty ⟨1, [], [], false⟩ none []

/-- The first invocation, whose message takes the room, ends at its deadline. -/
theorem keeps_time_first : ∃ ms t, Journey smallDispatcher lateConsumer crowded ms t ∧
    ∃ p, crowd[0]? = some p ∧ ∃ i, t.invocations[0]? = some i ∧ i.plan = p ∧
      (i.isOver = false → ¬i.phase.IsHanding → p.InTime smallDispatcher t.now) ∧
      ∀ at' r, i.phase = .ended at' r → p.InTime smallDispatcher at' ∨ HeldUp 0 at' ms := by
  obtain ⟨ms, hms⟩ := exists_journey_run smallDispatcher lateConsumer 4 crowded
  exact ⟨ms, _, hms, _, rfl, Journey.keeps_time hms rfl⟩

/-- **A full queue keeps an invocation beyond its deadline and its token.** The second invocation is
still waiting after a second. -/
theorem waits_beyond_deadline :
    ∃ ms t, Journey smallDispatcher lateConsumer crowded ms t ∧
      ∃ i, t.invocations[1]? = some i ∧ i.isOver = false ∧
        Tick.atOrAfter (i.plan.deadline smallDispatcher) < t.now ∧
        ∃ c, i.plan.cancel = some c ∧ c < t.now := by
  obtain ⟨ms, hms⟩ := exists_journey_run smallDispatcher lateConsumer 4 crowded
  have hlate : (crowded.run smallDispatcher lateConsumer 4).invocations[1]?.any (fun i =>
      !i.isOver && Tick.atOrAfter (i.plan.deadline smallDispatcher) < 1000 &&
        i.plan.cancel.any (· < 1000)) = true := by decide +kernel
  have hnow : (crowded.run smallDispatcher lateConsumer 4).now = 1000 := by decide +kernel
  obtain ⟨i, hi, h⟩ := (Option.any_eq_true _ _).1 hlate
  simp only [Bool.and_eq_true, Bool.not_eq_true', decide_eq_true_eq, Option.any_eq_true] at h
  rw [← hnow] at h
  exact ⟨ms, _, hms, i, hi, h.1.1, h.1.2, h.2⟩

end Traffic

end Sluice
