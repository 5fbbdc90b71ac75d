import Sluice.Dispatch.Traffic
import Sluice.Proofs.Time.Clock

/-!
# Journeys of a traffic

A run does what is due first; where several things are due at one tick, it has an order of its own.
A journey leaves that order open: it may do any of them. What holds at the end of every journey
holds whatever the order, and in particular at the end of a run.

* `Traffic.Due` : something that may be done now;
* `Traffic.Journey` : what has been done so far, and where it led;
* `Traffic.mem_agenda_turn`, `Traffic.of_mem_agenda_turn` : an invocation is on the agenda for what
  it waits for, and for nothing else;
* `Traffic.moves`, `Traffic.journey_run` : a run is a journey.
-/

namespace Sluice

namespace Traffic

variable {σ τ : Type}

/-! ### Journeys -/

/-- Invocations that have not begun, and answers that will arrive whatever they do. -/
def opening (plans : List Plan) (state : σ) (line : τ) (sweeper : Option Sweeper)
    (deliveries : Agenda Delivery) : Traffic σ τ :=
  { ofPlans plans state line sweeper with deliveries }

/-- Something that has been done: where everything stood, when it was done and what it was. -/
structure Move (σ τ : Type) where
  /-- Where everything stood. -/
  before : Traffic σ τ
  /-- The tick at which it was done. -/
  tick : Tick
  /-- What was done. -/
  errand : Errand

section

variable (d : Dispatcher σ τ) (k : Consumer)

/-- Nothing on the agenda is due earlier. -/
def Due (t : Traffic σ τ) (tick : Tick) (e : Errand) : Prop :=
  (tick, e) ∈ t.agenda d k ∧ ∀ y ∈ t.agenda d k, tick ≤ y.1

instance (t : Traffic σ τ) (tick : Tick) (e : Errand) : Decidable (Due d k t tick e) :=
  inferInstanceAs (Decidable (_ ∧ _))

/-- Where everything stands when something has been done. -/
def Move.after (m : Move σ τ) : Traffic σ τ := { m.before with now := m.tick }.perform d k m.errand

/-- The moves that lead from `t₀` to where everything stands now, the first one first. -/
inductive Journey (t₀ : Traffic σ τ) : List (Move σ τ) → Traffic σ τ → Prop where
  | start : Journey t₀ [] t₀
  | move {ms : List (Move σ τ)} {t : Traffic σ τ} {tick : Tick} {e : Errand}
    (journey : Journey t₀ ms t) (due : Due d k t tick e) :
    Journey t₀ (ms ++ [⟨t, tick, e⟩]) (Move.after d k ⟨t, tick, e⟩)

end

variable {d : Dispatcher σ τ} {k : Consumer} {t t₀ : Traffic σ τ} {ms : List (Move σ τ)}

/-- Every move of a journey is the last one of another. -/
theorem Journey.of_mem (h : Journey d k t₀ ms t) {m : Move σ τ} (hm : m ∈ ms) :
    ∃ ms', ms' <+: ms ∧ Journey d k t₀ ms' m.before ∧ Due d k m.before m.tick m.errand := by
  induction h with
  | start => cases hm
  | @move ms t tick e hj hdue ih =>
    rcases List.mem_append.1 hm with hm | hm
    · obtain ⟨ms', hpre, hj', hdue'⟩ := ih hm
      exact ⟨ms', hpre.trans (List.prefix_append _ _), hj', hdue'⟩
    · obtain rfl := List.mem_singleton.1 hm
      exact ⟨ms, List.prefix_append _ _, hj, hdue⟩

/-- The moves of a run. -/
def moves (d : Dispatcher σ τ) (k : Consumer) : Nat → Traffic σ τ → List (Move σ τ)
  | 0, _ => []
  | fuel + 1, t =>
    match (t.agenda d k).first? with
    | none => []
    | some (tick, e) => ⟨t, tick, e⟩ :: moves d k fuel (Move.after d k ⟨t, tick, e⟩)

/-- A run goes on from wherever a journey has led. -/
theorem Journey.run (h : Journey d k t₀ ms t) (fuel : Nat) :
    Journey d k t₀ (ms ++ moves d k fuel t) (t.run d k fuel) := by
  induction fuel generalizing ms t with
  | zero =>
    rw [moves, List.append_nil]
    exact h
  | succ fuel ih =>
    rw [Traffic.run, step?, moves]
    cases hfirst : (t.agenda d k).first? with
    | none =>
      rw [List.append_nil]
      exact h
    | some x =>
      obtain ⟨hmem, hle⟩ := Agenda.first?_spec hfirst
      have := ih (h.move ⟨hmem, hle⟩)
      rwa [List.append_assoc, List.singleton_append] at this

/-- **A run is a journey.** -/
theorem journey_run (d : Dispatcher σ τ) (k : Consumer) (fuel : Nat) (t₀ : Traffic σ τ) :
    Journey d k t₀ (moves d k fuel t₀) (t₀.run d k fuel) := Journey.start.run fuel

theorem exists_journey_run (d : Dispatcher σ τ) (k : Consumer) (fuel : Nat) (t₀ : Traffic σ τ) :
    ∃ ms, Journey d k t₀ ms (t₀.run d k fuel) := ⟨_, journey_run d k fuel t₀⟩

/-! ### The agenda -/

theorem now_le_of_mem_agenda {x : Tick × Errand} (h : x ∈ t.agenda d k) : t.now ≤ x.1 := by
  obtain ⟨y, -, rfl⟩ := List.mem_map.1 h
  exact Nat.le_max_left _ _

theorem Due.now_le {tick : Tick} {e : Errand} (h : Due d k t tick e) : t.now ≤ tick :=
  now_le_of_mem_agenda h.1

/-- What is to be done comes from one of five sources. -/
theorem of_mem_agenda {tick : Tick} {e : Errand} (h : (tick, e) ∈ t.agenda d k) :
    ∃ due, tick = max t.now due ∧ ((due, e) ∈ t.arrivals ∨ (due, e) ∈ t.sweeps ∨
      (due, e) ∈ t.business d ∨ (due, e) ∈ t.supply d k) := by
  obtain ⟨⟨due, e⟩, hmem, heq⟩ := List.mem_map.1 h
  obtain ⟨rfl, rfl⟩ := Prod.mk.inj heq
  refine ⟨due, rfl, ?_⟩
  split_ifs at hmem
  · cases hmem
  · simp only [List.mem_append] at hmem
    tauto

theorem mem_agenda_of_business {tick : Tick} {e : Errand} (h : (tick, e) ∈ t.business d) :
    (max t.now tick, e) ∈ t.agenda d k := by
  refine List.mem_map.2 ⟨(tick, e), ?_, rfl⟩
  have hne : (t.arrivals.isEmpty && (t.business d ++ t.supply d k).isEmpty) = false := by
    have : t.business d ≠ [] := List.ne_nil_of_mem h
    simp [this]
  rw [if_neg (by simp [hne])]
  simp [h]

theorem mem_business {tick : Tick} {e : Errand} : (tick, e) ∈ t.business d ↔
    ∃ n i, t.invocations[n]? = some i ∧ (i.abortDue? = some tick ∧ e = .abort n ∨
      i.due? d n t.now t.shared = some tick ∧ e = .turn n) := by
  simp only [business, List.mem_flatMap, Prod.exists, List.mem_zipIdx_iff_getElem?, List.mem_append,
    Option.mem_toList, Option.map_eq_some_iff, Prod.mk.injEq]
  grind

variable {i : Invocation} {n : Nat}

theorem mem_agenda_turn {tick : Tick} (hi : t.invocations[n]? = some i)
    (hdue : i.due? d n t.now t.shared = some tick) : (max t.now tick, .turn n) ∈ t.agenda d k :=
  mem_agenda_of_business (mem_business.2 ⟨n, i, hi, Or.inr ⟨hdue, rfl⟩⟩)

theorem of_mem_agenda_turn {tick : Tick} (h : (tick, .turn n) ∈ t.agenda d k) :
    ∃ i due, t.invocations[n]? = some i ∧ i.due? d n t.now t.shared = some due ∧
      tick = max t.now due := by
  obtain ⟨due, htick, hmem⟩ := of_mem_agenda h
  rcases hmem with hmem | hmem | hmem | hmem
  · simp [arrivals] at hmem
  · simp [sweeps] at hmem
  · obtain ⟨m, i, hi, ⟨-, he⟩ | ⟨hdue, he⟩⟩ := mem_business.1 hmem
    · cases he
    · cases he
      exact ⟨i, due, hi, hdue, htick⟩
  · unfold supply at hmem
    split_ifs at hmem <;> simp at hmem

theorem of_mem_agenda_abort {tick : Tick} (h : (tick, .abort n) ∈ t.agenda d k) :
    ∃ i due, t.invocations[n]? = some i ∧ i.abortDue? = some due ∧ tick = max t.now due := by
  obtain ⟨due, htick, hmem⟩ := of_mem_agenda h
  rcases hmem with hmem | hmem | hmem | hmem
  · simp [arrivals] at hmem
  · simp [sweeps] at hmem
  · obtain ⟨m, i, hi, ⟨hdue, he⟩ | ⟨-, he⟩⟩ := mem_business.1 hmem
    · cases he
      exact ⟨i, due, hi, hdue, htick⟩
    · cases he
  · unfold supply at hmem
    split_ifs at hmem <;> simp at hmem

/-- What an invocation waits for bounds what is done next. -/
theorem Due.le_max {tick due : Tick} {e : Errand} (h : Due d k t tick e)
    (hi : t.invocations[n]? = some i) (hdue : i.due? d n t.now t.shared = some due) :
    tick ≤ max t.now due :=
  h.2 _ (mem_agenda_turn hi hdue)

/-- Nothing comes between an answer or a sweep and the turn of the invocation that waits for it. -/
theorem Due.eq_now {deadline : Instant} {ticket : Nat} (h : Due d k t tick e)
    (hi : t.invocations[n]? = some i) (hp : i.phase = .awaiting deadline ticket)
    (hbox : t.shared.board.table.box ticket ≠ .waiting) : tick = t.now := by
  have hdue : i.due? d n t.now t.shared = some t.now := by
    unfold Invocation.due?
    rw [hp]
    exact congrArg some (if_neg hbox)
  have hle := h.le_max hi hdue
  rw [Nat.max_self] at hle
  exact Nat.le_antisymm hle h.now_le

/-! ### What a move leaves alone -/

theorem act_eq (hi : t.invocations[n]? = some i)
    (f : Invocation → Shared σ τ → Invocation × Shared σ τ) :
    t.act n f = { t with
      invocations := t.invocations.set n (f i t.shared).1, shared := (f i t.shared).2 } := by
  unfold act
  rw [hi]

theorem act_of_none (hi : t.invocations[n]? = none)
    (f : Invocation → Shared σ τ → Invocation × Shared σ τ) : t.act n f = t := by
  unfold act
  rw [hi]

theorem now_act (f : Invocation → Shared σ τ → Invocation × Shared σ τ) :
    (t.act n f).now = t.now := by
  unfold act
  split <;> rfl

theorem now_consume (d : Dispatcher σ τ) (k : Consumer) (t : Traffic σ τ) :
    (t.consume d k).now = t.now := by
  unfold consume
  split
  · rfl
  · dsimp only
    split <;> rfl

@[simp] theorem Move.now_after (m : Move σ τ) : (m.after d k).now = m.tick := by
  unfold Move.after perform
  split
  · rfl
  · rfl
  · exact now_act _
  · exact now_act _
  · exact now_consume d k _

theorem invocations_consume (d : Dispatcher σ τ) (k : Consumer) (t : Traffic σ τ) :
    (t.consume d k).invocations = t.invocations := by
  unfold consume
  split
  · rfl
  · dsimp only
    split <;> rfl

theorem invocations_act_of_ne {j : Nat} (h : n ≠ j)
    (f : Invocation → Shared σ τ → Invocation × Shared σ τ) :
    (t.act n f).invocations[j]? = t.invocations[j]? := by
  unfold act
  split
  · rfl
  · exact List.getElem?_set_ne h

theorem shared_consume (d : Dispatcher σ τ) (k : Consumer) (t : Traffic σ τ) :
    (t.consume d k).shared.state = t.shared.state ∧
      (t.consume d k).shared.board = t.shared.board := by
  unfold consume
  split
  · exact ⟨rfl, rfl⟩
  · dsimp only
    split <;> exact ⟨rfl, rfl⟩

theorem length_act (f : Invocation → Shared σ τ → Invocation × Shared σ τ) :
    (t.act n f).invocations.length = t.invocations.length := by
  unfold act
  split
  · rfl
  · exact List.length_set

theorem Move.length_after (m : Move σ τ) :
    (m.after d k).invocations.length = m.before.invocations.length := by
  unfold Move.after perform
  split
  · rfl
  · rfl
  · exact length_act _
  · exact length_act _
  · rw [invocations_consume]

theorem Journey.length_eq (h : Journey d k t₀ ms t) :
    t.invocations.length = t₀.invocations.length := by
  induction h with
  | start => rfl
  | move _ _ ih => exact (Move.length_after _).trans ih

/-- What a move comes to for one invocation. -/
inductive Move.Concerns (d : Dispatcher σ τ) (k : Consumer) (m : Move σ τ) (n : Nat)
    (i : Invocation) : Prop where
  | turn (he : m.errand = .turn n)
    (hafter : m.after d k = { m.before with
      now := m.tick
      invocations := m.before.invocations.set n (i.turn d n m.tick m.before.shared).1
      shared := (i.turn d n m.tick m.before.shared).2 })
  | abort (he : m.errand = .abort n)
    (hafter : m.after d k = { m.before with
      now := m.tick
      invocations := m.before.invocations.set n (i.abort d n m.before.shared).1
      shared := (i.abort d n m.before.shared).2 })
  | other (hturn : m.errand ≠ .turn n) (habort : m.errand ≠ .abort n)
    (hsame : (m.after d k).invocations[n]? = some i)

theorem Move.concerns {m : Move σ τ} (hi : m.before.invocations[n]? = some i) :
    m.Concerns d k n i := by
  obtain ⟨t, tick, e⟩ := m
  cases e with
  | deliver => exact .other nofun nofun hi
  | sweep => exact .other nofun nofun hi
  | consume =>
    refine .other nofun nofun ?_
    rw [← hi]
    exact congrArg (·[n]?) (invocations_consume d k _)
  | abort j =>
    by_cases h : j = n
    · subst h
      exact .abort rfl (act_eq (t := { t with now := tick }) hi fun i => i.abort d j)
    · refine .other nofun (fun he => h (Errand.abort.inj he)) ?_
      rw [← hi]
      exact invocations_act_of_ne h _
  | turn j =>
    by_cases h : j = n
    · subst h
      exact .turn rfl (act_eq (t := { t with now := tick }) hi fun i => i.turn d j tick)
    · refine .other (fun he => h (Errand.turn.inj he)) nofun ?_
      rw [← hi]
      exact invocations_act_of_ne h _

/-- How an invocation has come to where it stands after a move. -/
inductive Move.Origin (d : Dispatcher σ τ) (k : Consumer) (m : Move σ τ) (n : Nat)
    (i : Invocation) : Invocation → Prop where
  | turn (he : m.errand = .turn n)
    (hshared : (m.after d k).shared = (i.turn d n m.tick m.before.shared).2) :
    Origin d k m n i (i.turn d n m.tick m.before.shared).1
  | abort (he : m.errand = .abort n)
    (hshared : (m.after d k).shared = (i.abort d n m.before.shared).2) :
    Origin d k m n i (i.abort d n m.before.shared).1
  | other (hturn : m.errand ≠ .turn n) (habort : m.errand ≠ .abort n) : Origin d k m n i i

theorem Move.exists_origin {m : Move σ τ} {i' : Invocation}
    (hi' : (m.after d k).invocations[n]? = some i') :
    ∃ i, m.before.invocations[n]? = some i ∧ m.Origin d k n i i' := by
  have hlt : n < m.before.invocations.length := by
    rw [← Move.length_after (d := d) (k := k) m]
    exact (List.getElem?_eq_some_iff.1 hi').1
  have hi := List.getElem?_eq_getElem hlt
  generalize m.before.invocations[n] = i at hi
  refine ⟨i, hi, ?_⟩
  cases Move.concerns (d := d) (k := k) hi with
  | turn he hafter =>
    rw [hafter, List.getElem?_set_self hlt] at hi'
    obtain rfl := Option.some.inj hi'
    exact .turn he (congrArg (·.shared) hafter)
  | abort he hafter =>
    rw [hafter, List.getElem?_set_self hlt] at hi'
    obtain rfl := Option.some.inj hi'
    exact .abort he (congrArg (·.shared) hafter)
  | other hturn habort hsame =>
    obtain rfl := Option.some.inj (hsame.symm.trans hi')
    exact .other hturn habort

end Traffic

end Sluice
