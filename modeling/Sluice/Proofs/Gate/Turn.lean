import Sluice.Gate.Crowd
import Sluice.Proofs.Time.Clock

/-!
# Turns at the gate

In a turn a caller goes to the gate and perhaps asks the store, or it hears what the store has
answered. A history leaves it open who has the next turn and when, how long the store takes, and
what others do to the store in between; a run is one of the histories.

* `Crowd.Turn`, `Crowd.serves` : all that can come of a turn;
* `Crowd.History` : turns in a row;
* `Crowd.History.run` : a run goes on with a history.
-/

namespace Sluice

variable {σ : Type} {h : Gatehouse σ} {now : Instant} {caller : Caller} {number : Nat}
  {standing : Standing} {v : Visit} {state : σ} {tally : Tally}

/-! ### One turn -/

/-- The visit of a caller that goes to the gate in its next turn. -/
def Standing.asking? (caller : Caller) (number : Nat) : Standing → Option Visit
  | .coming => some (caller.visit number)
  | .waits v (.wake _) => some v
  | .waits _ (.answer ..) => none
  | .ended .. | .broken .. => none

/-- The caller has no more turns. -/
def Standing.isOver : Standing → Bool
  | .ended .. | .broken .. => true
  | .coming | .waits .. => false

/-- Neither its token nor its deadline keeps a caller from asking. -/
def Caller.mayAsk (caller : Caller) (v : Visit) (now : Instant) : Bool :=
  !caller.isCancelled now && !Gate.isLate v now

namespace Crowd

/-- The visit of a caller that asks the store in a turn. -/
def asks? (now : Instant) (caller : Caller) (number : Nat) (standing : Standing) : Option Visit :=
  (standing.asking? caller number).filter (caller.mayAsk · now)

/-- What the store answers, and what it makes of it. -/
def take (h : Gatehouse σ) (now : Instant) (v : Visit) (state : σ) : Except Failure Outcome × σ :=
  h.store.take (Instant.clock h.start now) v.bucket 1 state

/-- A call of the store. -/
structure Call where
  /-- The number of the caller. -/
  number : Nat
  /-- The bucket. -/
  bucket : String
  /-- What the store answers. -/
  answer : Except Failure Outcome

/-- The call of the store that a caller makes in a turn. -/
def call? (h : Gatehouse σ) (now : Instant) (caller : Caller) (number : Nat) (standing : Standing)
    (state : σ) : Option Call :=
  (asks? now caller number standing).map fun v => ⟨number, v.bucket, (take h now v state).1⟩

/-- What can come of a turn: where the caller stood, the call of the store that it made, where it
stands then, and what has been counted. -/
inductive Turn (h : Gatehouse σ) (now : Instant) (caller : Caller) (number : Nat) :
    Standing → Option Call → Standing → (Tally → Tally) → Prop where
  | cancelled {s : Standing} {v : Visit} (hv : s.asking? caller number = some v)
    (hc : caller.isCancelled now = true) :
    Turn h now caller number s none (.ended now v (.failed .cancelled)) id
  | late {s : Standing} {v : Visit} (hv : s.asking? caller number = some v)
    (hc : caller.isCancelled now = false) (hl : Gate.isLate v now = true) :
    Turn h now caller number s none (.ended now v .late) id
  | failed {s : Standing} {v : Visit} {f : Failure} (hv : s.asking? caller number = some v)
    (hmay : caller.mayAsk v now = true) :
    Turn h now caller number s (some ⟨number, v.bucket, .error f⟩) (.ended now v (.failed f)) id
  | asked {s : Standing} {v : Visit} {o : Outcome} (hv : s.asking? caller number = some v)
    (hmay : caller.mayAsk v now = true) :
    Turn h now caller number s (some ⟨number, v.bucket, .ok o⟩)
      (.waits v (.answer (now + Tick.instant h.latency) o)) id
  | granted {v : Visit} {i : Instant} {r : UInt32} :
    Turn h now caller number (.waits v (.answer i (.granted r))) none (.ended now v (.granted r))
      .grant
  | denied {v : Visit} {i : Instant} {hint : Duration}
    (hp : (h.gate.backoff.spread v.denials hint).isPossible = true) :
    Turn h now caller number (.waits v (.answer i (.denied hint))) none
      (.waits { v with denials := Gate.countDenial v.denials }
        (.wake (Gate.wakeTick v now (h.gate.sleep v hint)))) (·.deny v.bucket)
  | broken {v : Visit} {i : Instant} {hint : Duration}
    (hp : (h.gate.backoff.spread v.denials hint).isPossible = false) :
    Turn h now caller number (.waits v (.answer i (.denied hint))) none (.broken now v)
      (·.deny v.bucket)
  | idle {s : Standing} (hs : s.isOver = true) : Turn h now caller number s none s id

theorem asks?_of_asking? (hv : standing.asking? caller number = some v) :
    asks? now caller number standing = if caller.mayAsk v now then some v else none := by
  rw [asks?, hv, Option.filter_some]

theorem mayAsk_eq_false (hmay : caller.mayAsk v now = false) :
    caller.isCancelled now = true ∨ caller.isCancelled now = false ∧ Gate.isLate v now = true := by
  unfold Caller.mayAsk at hmay
  cases hc : caller.isCancelled now <;> simp_all

theorem ask_of_cancelled (hc : caller.isCancelled now = true) :
    ask h now caller v state tally = (.ended now v (.failed .cancelled), state, tally) := by
  simp [ask, Gate.enter, hc, settle]

theorem ask_of_late (hc : caller.isCancelled now = false) (hl : Gate.isLate v now = true) :
    ask h now caller v state tally = (.ended now v .late, state, tally) := by
  simp [ask, Gate.enter, hc, hl, settle]

theorem ask_of_mayAsk (hmay : caller.mayAsk v now = true) :
    ask h now caller v state tally = match take h now v state with
      | (.error f, state) => (.ended now v (.failed f), state, tally)
      | (.ok o, state) => (.waits v (.answer (now + Tick.instant h.latency) o), state, tally) := by
  simp only [Caller.mayAsk, Bool.and_eq_true, Bool.not_eq_true'] at hmay
  rcases htake : take h now v state with ⟨r, state'⟩
  unfold take at htake
  cases r <;> simp [ask, Gate.enter, htake, hmay, settle]

/-- A caller that goes to the gate is sent away or asks the store. -/
theorem serves_ask (hv : standing.asking? caller number = some v) :
    ∃ note, Turn h now caller number standing (call? h now caller number standing state)
        (ask h now caller v state tally).1 note ∧
      (ask h now caller v state tally).2.2 = note tally := by
  unfold call?
  rw [asks?_of_asking? hv]
  cases hmay : caller.mayAsk v now with
  | true =>
    rw [ask_of_mayAsk hmay]
    rcases htake : take h now v state with ⟨r, state'⟩
    simp only [if_true, Option.map_some, htake]
    cases r with
    | error f => exact ⟨id, .failed hv hmay, rfl⟩
    | ok o => exact ⟨id, .asked hv hmay, rfl⟩
  | false =>
    rcases mayAsk_eq_false hmay with hc | ⟨hc, hl⟩
    · rw [ask_of_cancelled hc]
      exact ⟨id, .cancelled hv hc, rfl⟩
    · rw [ask_of_late hc hl]
      exact ⟨id, .late hv hc hl, rfl⟩

theorem hear_granted {r : UInt32} :
    hear h now v (.granted r) tally = (.ended now v (.granted r), tally.grant) := rfl

theorem hear_of_isPossible {hint : Duration}
    (hp : (h.gate.backoff.spread v.denials hint).isPossible = true) :
    hear h now v (.denied hint) tally = (.waits { v with denials := Gate.countDenial v.denials }
      (.wake (Gate.wakeTick v now (h.gate.sleep v hint))), tally.deny v.bucket) := by
  simp [hear, Gate.heed, Gate.sleepOn, hp, settle]

theorem hear_of_not_isPossible {hint : Duration}
    (hp : (h.gate.backoff.spread v.denials hint).isPossible = false) :
    hear h now v (.denied hint) tally = (.broken now v, tally.deny v.bucket) := by
  simp [hear, Gate.heed, Gate.sleepOn, hp, settle]

/-- A caller that hears an answer has a unit, or sleeps, or cannot choose a sleep. -/
theorem serves_hear {i : Instant} {o : Outcome} :
    ∃ note, Turn h now caller number (.waits v (.answer i o)) none (hear h now v o tally).1 note ∧
      (hear h now v o tally).2 = note tally := by
  cases o with
  | granted r => exact ⟨_, .granted, rfl⟩
  | denied hint =>
    cases hp : (h.gate.backoff.spread v.denials hint).isPossible with
    | true =>
      rw [hear_of_isPossible hp]
      exact ⟨_, .denied hp, rfl⟩
    | false =>
      rw [hear_of_not_isPossible hp]
      exact ⟨_, .broken hp, rfl⟩

theorem serve_of_asking? (hv : standing.asking? caller number = some v) :
    serve h now caller number standing state tally = ask h now caller v state tally := by
  unfold Standing.asking? at hv
  split at hv <;> cases hv <;> rfl

/-- **All that can come of a turn.** -/
theorem serves (h : Gatehouse σ) (now : Instant) (caller : Caller) (number : Nat)
    (standing : Standing) (state : σ) (tally : Tally) :
    ∃ note, Turn h now caller number standing (call? h now caller number standing state)
        (serve h now caller number standing state tally).1 note ∧
      (serve h now caller number standing state tally).2.2 = note tally := by
  cases standing with
  | coming => exact serves_ask rfl
  | waits v w =>
    cases w with
    | wake t => exact serves_ask rfl
    | answer t o => exact serves_hear
  | ended t v verdict => exact ⟨id, .idle rfl, rfl⟩
  | broken t v => exact ⟨id, .idle rfl, rfl⟩

/-! ### Histories -/

/-- A turn: how everybody stood before it, when it was and whose, and how long the store took if it
was asked. -/
structure Move (σ : Type) where
  /-- Before the turn. -/
  before : Crowd σ
  /-- The instant. -/
  now : Instant
  /-- The number of the caller. -/
  number : Nat
  /-- The ticks that the store takes to answer. -/
  latency : Nat

/-- The surroundings of a turn. -/
def Move.house (h : Gatehouse σ) (m : Move σ) : Gatehouse σ := { h with latency := m.latency }

/-- What a turn leaves behind. -/
def Move.after (h : Gatehouse σ) (m : Move σ) : Crowd σ :=
  match m.before.callers[m.number]? with
  | none => m.before
  | some (caller, standing) =>
    let (standing, state, tally) :=
      serve (m.house h) m.now caller m.number standing m.before.state m.before.tally
    ⟨m.before.callers.set m.number (caller, standing), m.now, state, tally⟩

/-- The call of the store that a turn makes. -/
def Move.call? (h : Gatehouse σ) (m : Move σ) : Option Call := do
  let (caller, standing) ← m.before.callers[m.number]?
  Crowd.call? h m.now caller m.number standing m.before.state

/-- The calls of the store in a history. -/
def calls (h : Gatehouse σ) (ms : List (Move σ)) : List Call := ms.filterMap (·.call? h)

/-- What the store has answered a caller. -/
def answers (h : Gatehouse σ) (n : Nat) (ms : List (Move σ)) : List (Except Failure Outcome) :=
  ((calls h ms).filter (·.number = n)).map (·.answer)

/-- The turns that lead from `c₀` to where everybody stands now, the first one first. Anybody may
have the next turn, at any instant, and meanwhile others may do anything to the store. -/
inductive History (h : Gatehouse σ) (c₀ : Crowd σ) : List (Move σ) → Crowd σ → Prop where
  | start : History h c₀ [] c₀
  | turn {ms : List (Move σ)} {c : Crowd σ} (history : History h c₀ ms c) (now : Instant)
    (number latency : Nat) : History h c₀ (ms ++ [⟨c, now, number, latency⟩])
      (Move.after h ⟨c, now, number, latency⟩)
  | meanwhile {ms : List (Move σ)} {c : Crowd σ} (history : History h c₀ ms c) (state : σ) :
    History h c₀ ms { c with state }

/-- The next turn of a run. -/
def next? (h : Gatehouse σ) (c : Crowd σ) : Option (Move σ) :=
  c.agenda.first?.map fun e => ⟨c, e.1, e.2, h.latency⟩

/-- The turns of a run. -/
def moves (h : Gatehouse σ) : Nat → Crowd σ → List (Move σ)
  | 0, _ => []
  | fuel + 1, c =>
    match c.next? h with
    | some m => m :: moves h fuel (m.after h)
    | none => []

theorem of_mem_agenda {c : Crowd σ} {e : Instant × Nat} (he : e ∈ c.agenda) :
    ∃ caller standing i, c.callers[e.2]? = some (caller, standing) ∧
      caller.due? standing = some i ∧ e.1 = max c.now i := by
  obtain ⟨⟨⟨caller, standing⟩, n⟩, hn, he⟩ := List.mem_filterMap.1 he
  obtain ⟨t, ht, rfl⟩ := Option.map_eq_some_iff.1 he
  exact ⟨caller, standing, t, List.mem_zipIdx_iff_getElem?.1 hn, ht, rfl⟩

/-- A step of a run is its next turn. -/
theorem step?_eq (h : Gatehouse σ) (c : Crowd σ) : c.step? h = (c.next? h).map (·.after h) := by
  unfold step? next?
  cases he : c.agenda.first? with
  | none => rfl
  | some e =>
    obtain ⟨caller, standing, t, hcaller, -⟩ := of_mem_agenda (Agenda.first?_spec he).1
    simp only [Option.bind_eq_bind, Option.bind_some, hcaller, Option.map_some, Move.after]
    rfl

/-- **A run goes on with a history.** -/
theorem History.run {c₀ c : Crowd σ} {ms : List (Move σ)} (history : History h c₀ ms c)
    (fuel : Nat) : History h c₀ (ms ++ moves h fuel c) (c.run h fuel) := by
  induction fuel generalizing ms c with
  | zero => rwa [moves, List.append_nil]
  | succ fuel ih =>
    unfold moves Crowd.run
    rw [step?_eq]
    cases hm : c.next? h with
    | none => rwa [List.append_nil]
    | some m =>
      obtain ⟨e, -, rfl⟩ := Option.map_eq_some_iff.1 hm
      simpa using ih (history.turn e.1 e.2 h.latency)

theorem calls_append {ms : List (Move σ)} (m : Move σ) :
    calls h (ms ++ [m]) = calls h ms ++ (m.call? h).toList := by
  unfold calls
  rw [List.filterMap_append]
  cases hm : m.call? h <;> simp [hm]

end Crowd

end Sluice
