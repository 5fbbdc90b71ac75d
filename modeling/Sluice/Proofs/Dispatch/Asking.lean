import Sluice.Proofs.Dispatch.Verdict

/-!
# What a turn takes from the store

In a turn an invocation asks the store for one unit at most. A unit that was granted is held until
the gate has said so, when a slow store has answered, and then until the message is handed over.

* `Phase.holds?` : the bucket of the unit that an invocation holds between its turns;
* `Invocation.asks?`, `Invocation.unit?` : what an invocation asks the store, and what it is given;
* `Invocation.state_turn` : nothing else happens to the store;
* `Invocation.Hears` : what the gate says to an invocation;
* `Invocation.has_of_grant?` : what passes the gate holds a unit, or is granted one.
-/

namespace Sluice

variable {σ τ : Type} {d : Dispatcher σ τ} {now : Tick} {b : String}

/-! ### What the gate says -/

/-- The bucket of the unit that a waiting caller has been granted. -/
def Waiting.holds? (v : Visit) : Waiting → Option String
  | .answer _ o => if o.isGranted then some v.bucket else none
  | .wake _ => none

/-- The bucket of the unit that an invocation holds. -/
def Phase.holds? : Phase → Option String
  | .admission _ v w => w.holds? v
  | .handing _ _ r => some r.bucketId
  | _ => none

/-- An invocation has served its message, or will never get that far. -/
def Phase.isPast : Phase → Bool
  | .awaiting .. | .ended .. | .dropped | .broken => true
  | _ => false

theorem Phase.holds?_of_isPast {ph : Phase} (h : ph.isPast = true) : ph.holds? = none := by
  cases ph with
  | coming | admission | handing => cases h
  | awaiting | ended | dropped | broken => rfl

namespace Gate

variable {g : Gate} {store : Store σ} {clock : Timestamp} {latency : Nat} {v : Visit}
  {cancelled : Bool} {now : Instant} {state : σ} {tally : Tally}

/-- The visit of a caller. -/
def Next.visit : Next → Visit
  | .waits v _ | .ends v _ | .breaks v => v

/-- The bucket of the unit that a caller has been granted. -/
def Next.holds? : Next → Option String
  | .waits v w => w.holds? v
  | .ends v (.granted _) => some v.bucket
  | .ends _ _ | .breaks _ => none

theorem Next.holds?_of_granted? {n : Next} (h : n.granted? = some v) :
    n.holds? = some v.bucket ∧ n.visit = v := by
  unfold granted? at h
  split at h
  · cases h
    exact ⟨rfl, rfl⟩
  · cases h

theorem bucket_heed (o : Outcome) : (g.heed v now o tally).1.visit.bucket = v.bucket := by
  cases o with
  | granted => rfl
  | denied hint =>
    change (g.sleepOn v now hint).visit.bucket = v.bucket
    unfold sleepOn
    split_ifs <;> rfl

theorem holds?_heed (o : Outcome) :
    (g.heed v now o tally).1.holds? = if o.isGranted then some v.bucket else none := by
  cases o with
  | granted => rfl
  | denied hint =>
    change (g.sleepOn v now hint).holds? = none
    unfold sleepOn
    split_ifs <;> rfl

theorem bucket_enter :
    (g.enter store clock latency v cancelled now state tally).1.visit.bucket = v.bucket := by
  unfold enter
  split_ifs
  · rfl
  · rfl
  · split
    · rfl
    · exact bucket_heed _
  · split <;> rfl

/-- What a caller holds that has asked was granted by the store. -/
theorem granted_of_holds?_enter
    (h : (g.enter store clock latency v cancelled now state tally).1.holds? = some b) :
    b = v.bucket ∧ ∃ o, (store.take clock v.bucket 1 state).1 = .ok o ∧ o.isGranted = true := by
  unfold enter at h
  split_ifs at h
  · cases h
  · cases h
  · -- The store answers at once.
    split at h
    · cases h
    · rename_i o _ htake
      rw [holds?_heed] at h
      split_ifs at h with ho
      exact ⟨(Option.some.inj h).symm, o, congrArg Prod.fst htake, ho⟩
  · -- The answer stands already, but the caller has to wait for it.
    split at h
    · cases h
    · rename_i o _ htake
      dsimp only [Next.holds?, Waiting.holds?] at h
      split_ifs at h with ho
      exact ⟨(Option.some.inj h).symm, o, congrArg Prod.fst htake, ho⟩

/-- A caller that is neither cancelled nor late asks the store once. -/
theorem state_enter (hc : cancelled = false) (hl : isLate v now = false) :
    (g.enter store clock latency v cancelled now state tally).2.1 =
      (store.take clock v.bucket 1 state).2 := by
  subst hc
  unfold enter
  rw [if_neg Bool.false_ne_true, hl, if_neg Bool.false_ne_true]
  split
  · rename_i htake
    rw [htake]
  · rename_i htake
    rw [htake]
    split_ifs <;> rfl

end Gate

/-! ### The store -/

section

variable {p : Plan} {number ticket : Nat} {deadline : Instant} {r : Request} {v v' : View σ τ}

theorem Look.state_eq (h : Look d p now deadline ticket v v') : v'.state = v.state := by
  cases h <;> rfl

theorem Look.isPast (h : Look d p now deadline ticket v v') : v'.phase.isPast = true := by
  cases h <;> rfl

theorem Hand.state_eq (h : Hand d number p now deadline ticket r v v') : v'.state = v.state := by
  cases h with
  | later | refused => rfl
  | accepted _ look => exact look.state_eq

/-- A message that was handed over once is served, or its sender waits for room. -/
theorem Hand.phase (h : Hand d number p now deadline ticket r v v') :
    v'.phase = .handing deadline ticket r ∨ v'.phase.isPast = true := by
  cases h with
  | later => exact Or.inl rfl
  | refused => exact Or.inr rfl
  | accepted _ look => exact Or.inr look.isPast

end

namespace Invocation

variable {number : Nat} {i : Invocation} {s : Shared σ τ} {v : Visit} {deadline : Instant}
  {r : Request}

/-- The visit with which an invocation asks the store in a turn, if it asks. -/
def asks? (d : Dispatcher σ τ) (number : Nat) (now : Tick) (i : Invocation) : Option Visit :=
  let timely (deadline : Instant) (v : Visit) : Option Visit :=
    if i.plan.isCancelled now ∨ deadline ≤ Tick.instant now then none else some v
  match i.phase with
  | .coming =>
    let deadline := Tick.instant now + (i.plan.limit d).nanos
    if d.horizon < deadline then none
    else match bucket d i.plan.call with
      | .ok b => timely deadline ⟨number, b, some deadline, 0⟩
      | .error _ => none
  | .admission deadline v (.wake t) => if t ≤ now then timely deadline v else none
  | _ => none

/-- The bucket of the unit that the store grants an invocation in a turn. -/
def unit? (d : Dispatcher σ τ) (number : Nat) (now : Tick) (i : Invocation) (s : Shared σ τ) :
    Option String :=
  (i.asks? d number now).bind fun v =>
    match (d.store.take (Tick.clock d.start now) v.bucket 1 s.state).1 with
    | .ok o => if o.isGranted then some v.bucket else none
    | .error _ => none

theorem asks?_of_coming (hp : i.phase = .coming)
    (hclock : Tick.instant now + (i.plan.limit d).nanos ≤ d.horizon)
    (hb : bucket d i.plan.call = .ok b)
    (hno : ¬(i.plan.isCancelled now = true ∨
      Tick.instant now + (i.plan.limit d).nanos ≤ Tick.instant now)) :
    i.asks? d number now =
      some ⟨number, b, some (Tick.instant now + (i.plan.limit d).nanos), 0⟩ := by
  simp only [asks?, hp, hb, if_neg hno, if_neg (Int.not_lt.2 hclock)]

theorem asks?_of_wake {t : Tick} (hp : i.phase = .admission deadline v (.wake t)) (ht : t ≤ now)
    (hno : ¬(i.plan.isCancelled now = true ∨ deadline ≤ Tick.instant now)) :
    i.asks? d number now = some v := by
  simp only [asks?, hp, if_pos ht, if_neg hno]

theorem unit?_of_granted {o : Outcome} (h : i.asks? d number now = some v)
    (htake : (d.store.take (Tick.clock d.start now) v.bucket 1 s.state).1 = .ok o)
    (ho : o.isGranted = true) : i.unit? d number now s = some v.bucket := by
  simp only [unit?, h, Option.bind_some, htake, ho, if_true]

theorem state_hand (ticket : Nat) (r : Request) :
    (i.hand d number now deadline ticket r s).2.state = s.state :=
  (hand_view number now deadline ticket r).2.state_eq

theorem state_proceed (n : Gate.Next) :
    (i.proceed d number now deadline n s).2.state = s.state := by
  unfold proceed relay
  split
  · rfl
  · split
    · rfl
    · exact state_hand _ _
  · rfl
  · rfl
  · rfl

theorem state_ask (hc : i.plan.isCancelled now = false) (hd : Tick.instant now < deadline)
    (hv : v.deadline = some deadline) : (i.ask d number now deadline v s).2.state =
      (d.store.take (Tick.clock d.start now) v.bucket 1 s.state).2 := by
  have hlate : Gate.isLate v (Tick.instant now) = false := by
    rw [Gate.isLate, hv, Option.any_some, decide_eq_false_iff_not]
    exact Int.not_le.2 hd
  exact (state_proceed _).trans (Gate.state_enter hc hlate)

/-- An invocation that is cancelled or late ends where it would have gone on. -/
theorem attend_of (go : Shared σ τ → Invocation × Shared σ τ) (s : Shared σ τ)
    (h : i.plan.isCancelled now = true ∨ deadline ≤ Tick.instant now) :
    ∃ stage result, i.attend d now deadline go s = i.finish now stage (.error result) s := by
  unfold attend
  by_cases hc : i.isCancelled now = true
  · exact ⟨_, _, if_pos hc⟩
  · exact ⟨_, _, (if_neg hc).trans (if_pos (h.resolve_left hc))⟩

theorem attend_of_not {go : Shared σ τ → Invocation × Shared σ τ}
    (h : ¬(i.plan.isCancelled now = true ∨ deadline ≤ Tick.instant now)) :
    i.attend d now deadline go s = go s := by
  rw [not_or] at h
  exact (if_neg h.1).trans (if_neg h.2)

/-- **A turn changes the store by what it asks.** -/
theorem state_turn (hv : i.Visits) : (i.turn d number now s).2.state =
    (i.asks? d number now).elim s.state fun v =>
      (d.store.take (Tick.clock d.start now) v.bucket 1 s.state).2 := by
  have hattend {deadline : Instant} {v : Visit} (hv : v.deadline = some deadline) :
      (i.attend d now deadline (i.ask d number now deadline v) s).2.state =
        (if i.plan.isCancelled now = true ∨ deadline ≤ Tick.instant now then none
          else some v).elim s.state fun v =>
            (d.store.take (Tick.clock d.start now) v.bucket 1 s.state).2 := by
    by_cases h : i.plan.isCancelled now = true ∨ deadline ≤ Tick.instant now
    · obtain ⟨stage, result, hends⟩ := attend_of (i.ask d number now deadline v) s h
      rw [hends, if_pos h]
      rfl
    · rw [attend_of_not h, if_neg h]
      rw [not_or] at h
      exact state_ask (Bool.eq_false_iff.2 h.1) (Int.not_le.1 h.2) hv
  unfold turn asks?
  cases hp : i.phase with
  | coming =>
    unfold start
    have hlimit : i.timeout d = i.plan.limit d := rfl
    dsimp only
    rw [hlimit]
    by_cases hclock : d.horizon < Tick.instant now + (i.plan.limit d).nanos
    · rw [if_pos hclock, if_pos hclock]
      rfl
    · rw [if_neg hclock, if_neg hclock]
      cases bucket d i.plan.call with
      | error f => rfl
      | ok b => exact hattend (v := ⟨number, b, some _, 0⟩) rfl
  | admission deadline v w =>
    have hv := hv deadline v w hp
    cases w with
    | answer t o =>
      -- Who waits for an answer of the store does not ask again.
      dsimp only
      unfold attend
      split_ifs
      · rfl
      · rfl
      · exact state_proceed _
      · rfl
    | wake t =>
      -- Who sleeps asks when the sleep is over.
      dsimp only
      by_cases ht : t ≤ now
      · simp only [if_pos ht]
        exact hattend hv
      · simp only [if_neg ht]
        unfold attend
        split_ifs <;> rfl
  | handing deadline ticket r => exact state_hand _ _
  | awaiting deadline ticket => exact (look_view now deadline ticket).2.state_eq
  | ended | dropped | broken => rfl

/-! ### What an invocation hears at the gate -/

/-- What the gate says to an invocation in a turn. -/
inductive Hears (d : Dispatcher σ τ) (number : Nat) (now : Tick) (i : Invocation)
    (s : Shared σ τ) : Gate.Next → Prop where
  | asked {v : Visit} (h : i.asks? d number now = some v) :
    Hears d number now i s (d.gate.enter d.store (Tick.clock d.start now) d.latency v
      (i.isCancelled now) (Tick.instant now) s.state s.tally).1
  | answered {deadline : Instant} {v : Visit} {t : Instant} {o : Outcome}
    (hp : i.phase = .admission deadline v (.answer t o)) :
    Hears d number now i s (d.gate.heed v (Tick.instant now) o s.tally).1

/-- The bucket of which an invocation at the gate wants a unit. -/
def Wants (d : Dispatcher σ τ) (i : Invocation) (b : String) : Prop :=
  match i.phase with
  | .coming => bucket d i.plan.call = .ok b
  | .admission _ v _ => v.bucket = b
  | _ => False

theorem wants_of_asks? (h : i.asks? d number now = some v) : i.Wants d v.bucket := by
  unfold asks? at h
  unfold Wants
  dsimp only at h
  split at h
  · rename_i hp
    split at h
    · cases h
    split at h
    · rename_i b hb
      split_ifs at h
      cases h
      rw [hp]
      exact hb
    · cases h
  · rename_i hp
    split_ifs at h
    cases h
    rw [hp]
  · cases h

theorem Hears.wants {n : Gate.Next} (h : Hears d number now i s n) :
    i.Wants d n.visit.bucket := by
  cases h with
  | asked h =>
    rw [Gate.bucket_enter]
    exact wants_of_asks? h
  | answered hp =>
    unfold Wants
    rw [hp, Gate.bucket_heed]

/-- An invocation has a unit of a bucket when it holds one or is granted one. -/
def Has (d : Dispatcher σ τ) (number : Nat) (now : Tick) (i : Invocation) (s : Shared σ τ)
    (b : String) : Prop :=
  i.phase.holds? = some b ∨ i.unit? d number now s = some b

theorem Hears.has {n : Gate.Next} (h : Hears d number now i s n) (hn : n.holds? = some b) :
    i.Has d number now s b := by
  cases h with
  | asked h =>
    obtain ⟨rfl, o, htake, ho⟩ := Gate.granted_of_holds?_enter hn
    exact Or.inr (unit?_of_granted h htake ho)
  | answered hp =>
    rw [Gate.holds?_heed] at hn
    unfold Has
    rw [hp]
    exact Or.inl hn

theorem hears_of_grant? (h : i.grant? d number now s = some v) :
    ∃ n, Hears d number now i s n ∧ n.granted? = some v := by
  unfold grant? at h
  dsimp only at h
  split at h
  · rename_i hp
    split at h
    · cases h
    rename_i hclock
    split at h
    · rename_i b hb
      split_ifs at h with hno
      exact ⟨_, .asked (asks?_of_coming hp (Int.not_lt.1 hclock) hb hno), h⟩
    · cases h
  · rename_i hp
    split_ifs at h with ht hno
    exact ⟨_, .asked (asks?_of_wake hp ht hno), h⟩
  · rename_i hp
    split_ifs at h
    exact ⟨_, .answered hp, h⟩
  · cases h

/-- An invocation that ends its visit with a grant has a unit of its bucket. -/
theorem has_of_grant? (h : i.grant? d number now s = some v) :
    i.Wants d v.bucket ∧ i.Has d number now s v.bucket := by
  obtain ⟨n, hn, hgrant⟩ := hears_of_grant? h
  obtain ⟨hholds, rfl⟩ := Gate.Next.holds?_of_granted? hgrant
  exact ⟨hn.wants, hn.has hholds⟩

end Invocation

end Sluice
