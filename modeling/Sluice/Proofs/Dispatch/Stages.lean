import Sluice.Quota.Ledger
import Sluice.Quota.Memory
import Sluice.Proofs.Dispatch.Exchange

/-!
# What a turn does to the stages of an invocation

In a turn an invocation goes to the stage in which its message is in the queue, to the stage of its
result, to both, or to neither. What is counted about ended invocations changes with the result.

* `Stage.next` : the diagram of the stages; `Stage.ofResult` : the end that belongs to a result;
* `Course.Walks` : stages to which a course goes one after the other without a refusal;
* `Tally.ends` : what is counted about ended invocations;
* `Invocation.Steps` : what a turn comes to, by what it does to the stages;
* `Invocation.Stands` : how far an invocation has come, given where it stands;
* `Invocation.Stands.turn` : a turn goes to the stages that `Invocation.told` lists, and to no other
  ones.
-/

namespace Sluice

variable {σ τ : Type}

/-! ### The diagram -/

namespace Stage

/-- The stages that may follow a stage. -/
def next : Stage → List Stage
  | admitting => [sent, timedOut, cancelled, sendFailed]
  | sent => [completed, timedOut, cancelled]
  | completed | timedOut | cancelled | sendFailed => []

/-- The end of an invocation that returns a result. -/
def ofResult : Except Failure Reply → Stage
  | .ok _ | .error (.remoteFailure ..) | .error (.remoteRateLimited _) => completed
  | .error (.timedOut ..) => timedOut
  | .error .cancelled => cancelled
  | .error _ => sendFailed

theorem isEnd_ofResult (r : Except Failure Reply) : (ofResult r).isEnd = true := by
  unfold ofResult
  split <;> rfl

/-- A result that is no answer can come before the message is sent. -/
theorem ofResult_mem_next_admitting {r : Except Failure Reply} (h : ofResult r ≠ completed) :
    ofResult r ∈ next .admitting := by
  have hend := isEnd_ofResult r
  generalize ofResult r = e at h hend
  cases e with
  | admitting | sent => cases hend
  | completed => exact absurd rfl h
  | timedOut | cancelled | sendFailed => simp [next]

/-- A result that is no failure to send can come after the message is sent. -/
theorem ofResult_mem_next_sent {r : Except Failure Reply} (h : ofResult r ≠ sendFailed) :
    ofResult r ∈ next .sent := by
  have hend := isEnd_ofResult r
  generalize ofResult r = e at h hend
  cases e with
  | admitting | sent => cases hend
  | sendFailed => exact absurd rfl h
  | completed | timedOut | cancelled => simp [next]

end Stage

/-- The answer of the remote always completes an invocation. -/
theorem Response.ofResult_outcome (r : Response) : Stage.ofResult r.outcome = .completed := by
  unfold outcome
  cases r.status <;> rfl

namespace Course

variable {c c' c'' : Course} {s : Stage} {ss ss' : List Stage}

/-- All stages of a course, the first one first. -/
def path (c : Course) : List Stage := c.past.reverse ++ [c.stage]

/-- A course goes to stages one after the other, and no move is refused. -/
inductive Walks : Course → List Stage → Course → Prop where
  | stays (c : Course) : Walks c [] c
  | goes {c c' c'' : Course} {s : Stage} {ss : List Stage} (hmove : c.move s = (true, c'))
    (h : Walks c' ss c'') : Walks c (s :: ss) c''

theorem Walks.append (h : Walks c ss c') (h' : Walks c' ss' c'') : Walks c (ss ++ ss') c'' := by
  induction h with
  | stays => exact h'
  | goes hmove _ ih => exact .goes hmove (ih h')

theorem move_of_isEnd (h : c.stage.isEnd = false) (s : Stage) : c.move s = (true, c.moved s) := by
  unfold moved move
  rw [h]
  rfl

theorem walks_moved (h : c.stage.isEnd = false) (s : Stage) : Walks c [s] (c.moved s) :=
  .goes (move_of_isEnd h s) (.stays _)

theorem path_of_move (h : c.move s = (true, c')) : c'.path = c.path ++ [s] := by
  unfold move at h
  split at h
  · cases h
  · cases h
    simp [path]

/-- What a course goes to without a refusal becomes part of its stages. -/
theorem Walks.path_eq (h : Walks c ss c') : c'.path = c.path ++ ss := by
  induction h with
  | stays => exact (List.append_nil _).symm
  | goes hmove _ ih => rw [ih, path_of_move hmove, List.append_assoc, List.singleton_append]

end Course

/-! ### What is counted about ended invocations -/

/-- Ended invocations, and how long they took, by their last stage. -/
abbrev Ends : Type := Catalog Nat × Catalog (List Float)

/-- One more invocation that ended in a stage after some seconds. -/
def Ends.add (x : Ends) (stage : String) (seconds : Float) : Ends :=
  (Tally.bump x.1 stage, x.2.update stage fun ds => seconds :: ds.getD [])

/-- What has been counted about ended invocations. -/
def Tally.ends (t : Tally) : Ends := (t.ended, t.durations)

theorem Tally.ends_finish (t : Tally) (stage : String) (seconds : Float) :
    (t.finish stage seconds).ends = t.ends.add stage seconds := rfl

/-- What has been counted about ended invocations. -/
def Shared.ends (s : Shared σ τ) : Ends := s.tally.ends

namespace Board

variable (b : Board) (id : Uuid)

theorem ends_deregister : (b.deregister id).2.tally.ends = b.tally.ends := by
  unfold deregister
  split <;> rfl

theorem ends_expire : (b.expire id).2.tally.ends = b.tally.ends := by
  unfold expire
  split <;> rfl

theorem ends_resolve (r : Response) : (b.resolve id r).2.tally.ends = b.tally.ends := by
  unfold resolve
  split <;> rfl

theorem ends_sweep (now : Instant) : (b.sweep now).2.tally.ends = b.tally.ends := by
  unfold sweep
  split <;> rfl

theorem ends_register (deadline : Instant) :
    (b.register id deadline).2.tally.ends = b.tally.ends := by
  unfold register
  split <;> rfl

theorem ends_poll (ticket : Nat) : (b.poll ticket).2.tally.ends = b.tally.ends := rfl

end Board

/-- Whatever fails in a store is a failure of the store. -/
def Store.FailsPlainly (s : Store σ) : Prop :=
  ∀ clock b cost state f, (s.take clock b cost state).1 = .error f → ∃ text, f = .store text

theorem Memory.failsPlainly (limits : Limits) : (Memory.store limits).FailsPlainly := by
  intro clock b cost state f h
  cases h

/-- A row fails to be read only if it holds no point in time. -/
theorem Row.toBucket_eq_error {id : String} {r : Row} {f : Failure} (h : r.toBucket id = .error f) :
    ∃ text, f = .store text := by
  have htime {ms : Int64} (h : Row.time ms = .error f) : ∃ text, f = .store text := by
    unfold Row.time at h
    split at h
    · cases h
    · exact ⟨_, (Except.error.inj h).symm⟩
  unfold Row.toBucket at h
  cases hreset : Row.time r.resetAtMs with
  | error f' =>
    rw [hreset] at h
    cases h
    exact htime hreset
  | ok resetAt =>
    rw [hreset] at h
    cases hupdated : Row.time r.updatedAtMs with
    | error f' =>
      rw [hupdated] at h
      cases h
      exact htime hupdated
    | ok updatedAt =>
      rw [hupdated] at h
      cases h

theorem Ledger.failsPlainly (limits : Limits) : (Ledger.store limits).FailsPlainly := by
  intro clock b cost rows f h
  change (commit rows _).1 = .error f at h
  cases hlookup : lookup limits clock b rows with
  | ok found =>
    rw [hlookup] at h
    cases h
  | error f' =>
    rw [hlookup] at h
    cases h
    unfold lookup at hlookup
    split at hlookup
    · rename_i r _
      cases hr : r.toBucket b with
      | ok c =>
        rw [hr] at hlookup
        cases hlookup
      | error f' =>
        rw [hr] at hlookup
        cases hlookup
        exact Row.toBucket_eq_error hr
    · cases hlookup

namespace Gate

variable {g : Gate} {store : Store σ} {clock : Timestamp} {latency : Nat} {v : Visit}
  {cancelled : Bool} {now : Instant} {state : σ} {tally : Tally}

theorem ends_heed (o : Outcome) : (g.heed v now o tally).2.ends = tally.ends := by
  cases o <;> rfl

theorem ends_enter :
    (g.enter store clock latency v cancelled now state tally).2.2.ends = tally.ends := by
  unfold enter
  split_ifs
  · rfl
  · rfl
  · split
    · rfl
    · exact ends_heed _
  · split <;> rfl

end Gate

/-- The result with which an invocation has ended. -/
def Phase.result? : Phase → Option (Except Failure Reply)
  | .ended _ r => some r
  | _ => none

theorem Phase.result?_of_isPast {ph : Phase} (h : ph.isPast = false) : ph.result? = none := by
  cases ph with
  | coming | admission | handing => rfl
  | awaiting | ended | dropped | broken => cases h

namespace Invocation

variable {d : Dispatcher σ τ} {number : Nat} {now : Tick} {i : Invocation} {s s' : Shared σ τ}
  {x : Invocation × Shared σ τ} {v : Visit} {deadline : Instant} {r : Request}

/-! ### Endings -/

/-- An invocation goes on in the stage in which it is. -/
structure KeepsOn (i : Invocation) (s : Shared σ τ) (x : Invocation × Shared σ τ) : Prop where
  course : x.1.course = i.course
  ends : x.2.ends = s.ends

/-- An invocation ends in the stage of its result, under which it is counted. -/
structure EndsWith (now : Tick) (i : Invocation) (s : Shared σ τ) (r : Except Failure Reply)
    (x : Invocation × Shared σ τ) : Prop where
  phase : x.1.phase = .ended now r
  course : x.1.course = i.course.moved (.ofResult r)
  ends : x.2.ends = s.ends.add x.1.course.stage.label (i.seconds now)

theorem endsWith_finish {stage : Stage} {r : Except Failure Reply} (hs : s'.ends = s.ends)
    (hstage : stage = .ofResult r) : EndsWith now i s r (i.finish now stage r s') := by
  subst hstage
  refine ⟨rfl, rfl, ?_⟩
  rw [← hs]
  exact s'.tally.ends_finish _ _

theorem stage_conclude (m : Settlement) :
    (i.conclude d m).1 = .ofResult (i.conclude d m).2 ∧ (i.conclude d m).1 ≠ .sendFailed := by
  cases m with
  | completed r => exact ⟨r.ofResult_outcome.symm, nofun⟩
  | expired => exact ⟨rfl, nofun⟩
  | abandoned => exact ⟨rfl, nofun⟩

/-- What an invocation comes to whose message has been sent. -/
inductive Settles (now : Tick) (i : Invocation) (s : Shared σ τ) (x : Invocation × Shared σ τ) :
    Prop where
  | waits {deadline : Instant} {ticket : Nat} (hp : x.1.phase = .awaiting deadline ticket)
    (hkeeps : KeepsOn i s x)
  | ends {r : Except Failure Reply} (hr : Stage.ofResult r ≠ .sendFailed) (h : EndsWith now i s r x)

theorem settles_settle (m : Settlement) (hs : s'.ends = s.ends) :
    Settles now i s (i.settle d now m s') := by
  obtain ⟨hstage, hne⟩ := stage_conclude (d := d) (i := i) m
  have hends : Shared.ends { s' with board := (s'.board.deregister i.plan.id).2 } = s.ends :=
    (Board.ends_deregister _ _).trans hs
  exact .ends (hstage ▸ hne) (endsWith_finish hends hstage)

theorem settles_look (ticket : Nat) (hs : s'.ends = s.ends) :
    Settles now i s (i.look d now deadline ticket s') := by
  have hpoll := (s'.board.ends_poll ticket).trans hs
  unfold look
  by_cases hc : i.isCancelled now = true
  · rw [if_pos hc]
    exact settles_settle _ hs
  · rw [if_neg hc]
    generalize s'.board.poll ticket = found at hpoll
    obtain ⟨m | m, board⟩ := found
    · dsimp only
      split_ifs with hd
      · exact settles_settle _ ((Board.ends_expire _ _).trans hs)
      · exact .waits rfl ⟨rfl, hs⟩
    · exact settles_settle _ hpoll

/-! ### Turns -/

/-- What a turn comes to, by what it does to the stages of the invocation. -/
inductive Steps (d : Dispatcher σ τ) (number : Nat) (now : Tick) (i : Invocation)
    (s : Shared σ τ) (x : Invocation × Shared σ τ) : Prop where
  | early (hp : i.phase.isPast = false) (hno : i.sends? d number now s = none)
    (hp' : x.1.phase.isPast = false) (hkeeps : KeepsOn i s x)
  | breaks (hp : i.phase.isPast = false) (hno : i.sends? d number now s = none)
    (hp' : x.1.phase = .broken) (hkeeps : KeepsOn i s x)
  | fails {r : Except Failure Reply} (hp : i.phase.isPast = false)
    (hno : i.sends? d number now s = none) (hr : Stage.ofResult r ≠ .completed)
    (h : EndsWith now i s r x)
  | sends {r : Request} (hp : i.phase.isPast = false) (hsend : i.sends? d number now s = some r)
    (h : Settles now { i with course := i.course.moved .sent } s x)
  | awaits {deadline : Instant} {ticket : Nat} (hp : i.phase = .awaiting deadline ticket)
    (h : Settles now i s x)

theorem sends?_of_offers?_eq_none (h : i.offers? d number now s = none) :
    i.sends? d number now s = none := by
  rw [sends?, h]
  rfl

/-- **A message that is offered is sent when it is accepted, and its sender fails when it is
refused.** -/
theorem steps_hand {ticket : Nat} (ho : i.offers? d number now s = some r)
    (hp : i.phase.isPast = false) (hline : s'.line = s.line) (hs : s'.ends = s.ends) :
    Steps d number now i s (i.hand d number now deadline ticket r s') := by
  have hsends : i.sends? d number now s = if (d.queue.offer number r.toUtf8 s'.line).1 = .accepted
      then some r else none := by
    rw [sends?, ho, Option.filter_some, hline]
    simp only [decide_eq_true_eq]
  unfold hand Queue.send
  generalize d.queue.offer number r.toUtf8 s'.line = o at hsends ⊢
  obtain ⟨o, line⟩ := o
  cases o with
  | later => exact .early hp hsends rfl ⟨rfl, hs⟩
  | refused reason =>
    refine .fails hp hsends (r := .error (.relayUnavailable reason)) nofun (endsWith_finish ?_ rfl)
    exact (Board.ends_deregister _ _).trans hs
  | accepted => exact .sends hp hsends (settles_look ticket hs)

theorem AtGate.isPast (hg : i.AtGate d now deadline) : i.phase.isPast = false := by
  unfold AtGate at hg
  split at hg
  · rename_i hp
    rw [hp]
    rfl
  · rename_i hp
    rw [hp]
    rfl
  · exact hg.elim

theorem steps_relay (hg : i.AtGate d now deadline)
    (hgrant : i.grant? d number now s = some v) (hline : s'.line = s.line)
    (htable : s'.board.table = s.board.table) (hs : s'.ends = s.ends) :
    Steps d number now i s (i.relay d number now deadline v.bucket s') := by
  have hoffers : i.offers? d number now s = _ := offers?_of_atGate hg
  have hends : (s'.board.register i.plan.id deadline).2.tally.ends = s.ends :=
    (Board.ends_register _ _ _).trans hs
  unfold relay
  cases hfind : s.board.table.find? i.plan.id with
  | some e =>
    rw [hfind] at hoffers
    rw [Board.register_of_find? s'.board i.plan.id (htable ▸ hfind) deadline]
    exact .fails hg.isPast (sends?_of_offers?_eq_none hoffers)
      (r := .error (.duplicateId i.plan.id)) nofun (endsWith_finish hs rfl)
  | none =>
    obtain ⟨b, hb, -⟩ :=
      Board.register_of_absent s'.board i.plan.id (htable ▸ hfind) deadline
    rw [hfind, hgrant] at hoffers
    rw [hb] at hends ⊢
    exact steps_hand hoffers hg.isPast hline hends

/-- A store that fails only as a store does makes an invocation fail to send. -/
theorem steps_proceed (hstore : d.store.FailsPlainly) (hg : i.AtGate d now deadline) {n : Gate.Next}
    (hsaid : Said d number now i s deadline n) (hline : s'.line = s.line)
    (htable : s'.board.table = s.board.table) (hs : s'.ends = s.ends) :
    Steps d number now i s (i.proceed d number now deadline n s') := by
  cases hsaid with
  | waits hgrant =>
    exact .early hg.isPast (sends?_of_offers?_eq_none (offers?_eq_none_of_grant? hg hgrant)) rfl
      ⟨rfl, hs⟩
  | granted hgrant => exact steps_relay hg hgrant hline htable hs
  | failed hgrant htake =>
    obtain ⟨text, rfl⟩ := hstore _ _ _ _ _ htake
    exact .fails hg.isPast (sends?_of_offers?_eq_none (offers?_eq_none_of_grant? hg hgrant))
      (r := .error (.store text)) nofun (endsWith_finish hs rfl)
  | breaks hgrant =>
    exact .breaks hg.isPast (sends?_of_offers?_eq_none (offers?_eq_none_of_grant? hg hgrant)) rfl
      ⟨rfl, hs⟩

theorem steps_attend {go : Shared σ τ → Invocation × Shared σ τ} (hg : i.AtGate d now deadline)
    (hgo : i.plan.isCancelled now = false → Tick.instant now < deadline →
      Steps d number now i s (go s)) :
    Steps d number now i s (i.attend d now deadline go s) := by
  have hno (h : i.plan.isCancelled now = true ∨ deadline ≤ Tick.instant now) :
      i.sends? d number now s = none :=
    sends?_of_offers?_eq_none (offers?_eq_none_of_grant? hg (grant?_eq_none hg h))
  unfold attend
  by_cases hc : i.isCancelled now = true
  · rw [if_pos hc]
    exact .fails hg.isPast (hno (Or.inl hc)) (r := .error .cancelled) nofun
      (endsWith_finish rfl rfl)
  · rw [if_neg hc]
    split_ifs with hd
    · exact .fails hg.isPast (hno (Or.inr hd)) (r := .error (i.lateness d)) nofun
        (endsWith_finish rfl rfl)
    · exact hgo (Bool.eq_false_iff.2 hc) (Int.not_le.1 hd)

theorem steps_ask (hstore : d.store.FailsPlainly) (hg : i.AtGate d now deadline)
    (hc : i.plan.isCancelled now = false) (hd : Tick.instant now < deadline)
    (hv : v.deadline = some deadline)
    (hgrant : i.grant? d number now s = (d.gate.enter d.store (Tick.clock d.start now)
        d.latency v (i.isCancelled now) (Tick.instant now) s.state s.tally).1.granted?) :
    Steps d number now i s (i.ask d number now deadline v s) :=
  steps_proceed hstore hg (said_enter hc hd hv hgrant) rfl rfl Gate.ends_enter

/-- Only a URL that cannot be read has no bucket. -/
theorem bucket_eq_error {c : Call} {f : Failure} (h : bucket d c = .error f) :
    ∃ text, f = .invalidConfig text := by
  unfold bucket Route.bucketOf at h
  split at h
  · cases h
  · split at h
    · cases h
    · exact ⟨_, (Except.error.inj h).symm⟩

theorem steps_start (hstore : d.store.FailsPlainly) (hp : i.phase = .coming) :
    Steps d number now i s (i.start d number now s) := by
  have hpast : i.phase.isPast = false := by rw [hp]; rfl
  unfold start
  dsimp only
  split_ifs with hclock
  · have hgrant : i.grant? d number now s = none := by
      simp only [grant?, hp]
      exact if_pos hclock
    exact .breaks hpast (sends?_of_offers?_eq_none (by simp [offers?, hgrant, hp])) rfl ⟨rfl, rfl⟩
  have hclock : Tick.instant now + (i.plan.limit d).nanos ≤ d.horizon := Int.not_lt.1 hclock
  cases hb : bucket d i.plan.call with
  | error f =>
    obtain ⟨text, rfl⟩ := bucket_eq_error hb
    have hno : i.sends? d number now s = none :=
      sends?_of_offers?_eq_none (by simp [offers?, grant?, hp, hb])
    exact .fails hpast hno (r := .error (.invalidConfig text)) (fun h => by cases h)
      (endsWith_finish rfl rfl)
  | ok b =>
    have hg : i.AtGate d now (Tick.instant now + (i.plan.limit d).nanos) := by
      unfold AtGate
      rw [hp]
      exact ⟨rfl, hclock, b, hb⟩
    refine steps_attend hg fun hc hd => steps_ask hstore hg hc hd rfl ?_
    simp only [grant?, hp, hb]
    rw [if_neg (Int.not_lt.2 hclock)]
    exact if_neg (not_cancelled_or_late hc hd)

/-- **What a turn does to the stages** of an invocation that is not over. -/
theorem steps_turn (hstore : d.store.FailsPlainly) (hv : i.Visits) (hover : i.isOver = false) :
    Steps d number now i s (i.turn d number now s) := by
  unfold turn
  cases hp : i.phase with
  | coming => exact steps_start hstore hp
  | admission deadline v w =>
    have hg : i.AtGate d now deadline := by
      unfold AtGate
      rw [hp]
    have hv := hv deadline v w hp
    -- A turn before the end of the sleep, or before the store has answered, does nothing.
    have hidle (hgrant : i.grant? d number now s = none) : Steps d number now i s (i, s) :=
      .early hg.isPast (sends?_of_offers?_eq_none (offers?_eq_none_of_grant? hg hgrant)) hg.isPast
        ⟨rfl, rfl⟩
    cases w with
    | answer t o =>
      refine steps_attend hg fun hc hd => ?_
      have hgrant : i.grant? d number now s = if t ≤ Tick.instant now then
          (d.gate.heed v (Tick.instant now) o s.tally).1.granted? else none := by
        simp only [grant?, hp, if_neg (not_cancelled_or_late hc hd)]
      split_ifs at hgrant ⊢ with ht
      · exact steps_proceed hstore hg (said_heed hv s.tally hgrant) rfl rfl (Gate.ends_heed o)
      · exact hidle hgrant
    | wake t =>
      refine steps_attend hg fun hc hd => ?_
      have hgrant : i.grant? d number now s = if t ≤ now then
          (d.gate.enter d.store (Tick.clock d.start now) d.latency v (i.isCancelled now)
            (Tick.instant now) s.state s.tally).1.granted? else none := by
        simp only [grant?, hp, if_neg (not_cancelled_or_late hc hd)]
      split_ifs at hgrant ⊢ with ht
      · exact steps_ask hstore hg hc hd hv hgrant
      · exact hidle hgrant
  | handing deadline ticket r =>
    exact steps_hand (offers?_of_handing hp) (by rw [hp]; rfl) rfl rfl
  | awaiting deadline ticket => exact .awaits hp (settles_look ticket rfl)
  | ended | dropped | broken =>
    rw [isOver, hp] at hover
    cases hover

/-! ### How far an invocation has come -/

/-- The result that an invocation returns in a turn. -/
def returns? (d : Dispatcher σ τ) (number : Nat) (now : Tick) (i : Invocation) (s : Shared σ τ) :
    Option (Except Failure Reply) :=
  if i.isOver then none else (i.turn d number now s).1.phase.result?

/-- The stages to which an invocation is to go in a turn: one when its message is sent, and the one
of its result. -/
def told (d : Dispatcher σ τ) (number : Nat) (now : Tick) (i : Invocation) (s : Shared σ τ) :
    List Stage :=
  ((i.sends? d number now s).map fun _ => Stage.sent).toList ++
    ((i.returns? d number now s).map .ofResult).toList

/-- How far an invocation has come, given where it stands. -/
inductive Stands (id : Uuid) : Phase → Course → Prop where
  | early {ph : Phase} (hp : ph.isPast = false) : Stands id ph (.begin id)
  | sent {deadline : Instant} {ticket : Nat} :
    Stands id (.awaiting deadline ticket) ((Course.begin id).moved .sent)
  | failed {at' : Tick} {r : Except Failure Reply} (hr : Stage.ofResult r ≠ .completed) :
    Stands id (.ended at' r) ((Course.begin id).moved (.ofResult r))
  | settled {at' : Tick} {r : Except Failure Reply} (hr : Stage.ofResult r ≠ .sendFailed) :
    Stands id (.ended at' r) (((Course.begin id).moved .sent).moved (.ofResult r))
  | dropped {c : Course} (hc : c = .begin id ∨ c = (Course.begin id).moved .sent) :
    Stands id .dropped c
  | broken : Stands id .broken (.begin id)

section

variable {id : Uuid} {ph : Phase} {c : Course}

theorem Stands.eq_begin (h : Stands id ph c) (hp : ph.isPast = false) : c = .begin id := by
  cases h with
  | early => rfl
  | sent | failed | settled | dropped | broken => cases hp

theorem Stands.eq_sent {ticket : Nat} (h : Stands id (.awaiting deadline ticket) c) :
    c = (Course.begin id).moved .sent := by
  cases h with
  | early hp => cases hp
  | sent => rfl

/-- An invocation that has ended is in the stage of its result. -/
theorem Stands.stage_of_ended {r : Except Failure Reply} {at' : Tick}
    (h : Stands id (.ended at' r) c) : c.stage = .ofResult r := by
  cases h with
  | early hp => cases hp
  | failed | settled => rfl

theorem Stands.isEnd_of_result? (h : Stands id ph c) (hp : ph.result? = none) :
    c.stage.isEnd = false := by
  cases h with
  | early | sent | broken => rfl
  | failed | settled => cases hp
  | dropped hc => rcases hc with rfl | rfl <;> rfl

/-- **The stages of an invocation are a path of the diagram.** -/
theorem Stands.path (h : Stands id ph c) :
    c.path.head? = some .admitting ∧ c.path.IsChain fun a b => b ∈ a.next := by
  have hsent : Stage.sent ∈ Stage.next .admitting := by simp [Stage.next]
  cases h with
  | early | broken => exact ⟨rfl, .singleton _⟩
  | sent => exact ⟨rfl, .cons_cons hsent (.singleton _)⟩
  | failed hr =>
    exact ⟨rfl, .cons_cons (Stage.ofResult_mem_next_admitting hr) (.singleton _)⟩
  | settled hr =>
    exact ⟨rfl, .cons_cons hsent (.cons_cons (Stage.ofResult_mem_next_sent hr) (.singleton _))⟩
  | dropped hc =>
    rcases hc with rfl | rfl
    · exact ⟨rfl, .singleton _⟩
    · exact ⟨rfl, .cons_cons hsent (.singleton _)⟩

end

/-- An invocation goes to stages and then to that of its result, if it ends. It is counted as ended
if it does. -/
structure Advances (now : Tick) (i : Invocation) (s : Shared σ τ) (ss : List Stage)
    (x : Invocation × Shared σ τ) : Prop where
  stands : Stands i.plan.id x.1.phase x.1.course
  walks : i.course.Walks (ss ++ (x.1.phase.result?.map .ofResult).toList) x.1.course
  ends : x.2.ends = x.1.phase.result?.elim s.ends fun r =>
    s.ends.add (Stage.ofResult r).label (i.seconds now)

theorem Settles.advances (h : Settles now i s x)
    (hc : i.course = (Course.begin i.plan.id).moved .sent) : Advances now i s [] x := by
  cases h with
  | waits hp hkeeps =>
    refine ⟨?_, ?_, ?_⟩
    · rw [hkeeps.course, hc, hp]
      exact .sent
    · rw [hkeeps.course, hp]
      exact .stays _
    · rw [hkeeps.ends, hp]
      rfl
  | @ends r hr h =>
    have hcourse := h.course
    rw [hc] at hcourse
    refine ⟨?_, ?_, ?_⟩
    · rw [hcourse, h.phase]
      exact .settled hr
    · rw [hcourse, h.phase, hc]
      exact Course.walks_moved rfl _
    · rw [h.ends, h.phase, hcourse]
      rfl

theorem Steps.advances (h : Steps d number now i s x)
    (hst : Stands i.plan.id i.phase i.course) :
    Advances now i s ((i.sends? d number now s).map fun _ => Stage.sent).toList x := by
  cases h with
  | early hp hno hp' hkeeps =>
    have hresult := Phase.result?_of_isPast hp'
    refine ⟨?_, ?_, ?_⟩
    · rw [hkeeps.course, hst.eq_begin hp]
      exact .early hp'
    · rw [hkeeps.course, hno, hresult]
      exact .stays _
    · rw [hkeeps.ends, hresult]
      rfl
  | breaks hp hno hp' hkeeps =>
    refine ⟨?_, ?_, ?_⟩
    · rw [hkeeps.course, hst.eq_begin hp, hp']
      exact .broken
    · rw [hkeeps.course, hno, hp']
      exact .stays _
    · rw [hkeeps.ends, hp']
      rfl
  | @fails r hp hno hr h =>
    have hcourse := h.course
    rw [hst.eq_begin hp] at hcourse
    refine ⟨?_, ?_, ?_⟩
    · rw [hcourse, h.phase]
      exact .failed hr
    · rw [hcourse, h.phase, hno, hst.eq_begin hp]
      exact Course.walks_moved rfl _
    · rw [h.ends, h.phase, hcourse]
      rfl
  | sends hp hsend h =>
    have hbegin := hst.eq_begin hp
    have hsettled := h.advances (congrArg (·.moved .sent) hbegin)
    refine ⟨hsettled.stands, ?_, hsettled.ends⟩
    rw [hsend]
    exact (Course.walks_moved (hbegin ▸ rfl) _).append hsettled.walks
  | awaits hp h =>
    rw [hp] at hst
    have hno : i.sends? d number now s = none :=
      sends?_of_offers?_eq_none (offers?_eq_none_of_isPast (by rw [hp]; rfl))
    rw [hno]
    exact h.advances hst.eq_sent

/-- **A turn goes to the stages that it is told**, and is counted as an end if it returns. -/
theorem Stands.turn (hstore : d.store.FailsPlainly) (hv : i.Visits)
    (hst : Stands i.plan.id i.phase i.course) (number : Nat) (now : Tick) (s : Shared σ τ) :
    Stands i.plan.id (i.turn d number now s).1.phase (i.turn d number now s).1.course ∧
      i.course.Walks (i.told d number now s) (i.turn d number now s).1.course ∧
      (i.turn d number now s).2.ends = (i.returns? d number now s).elim s.ends fun r =>
        s.ends.add (Stage.ofResult r).label (i.seconds now) := by
  unfold told returns?
  cases hover : i.isOver with
  | true =>
    have hno : i.sends? d number now s = none :=
      sends?_of_offers?_eq_none (offers?_eq_none_of_isPast (isPast_of_isOver hover))
    rw [turn_of_isOver hover, hno]
    exact ⟨hst, .stays _, rfl⟩
  | false =>
    have hsteps : Steps d number now i s (i.turn d number now s) := steps_turn hstore hv hover
    have h := hsteps.advances hst
    exact ⟨h.stands, h.walks, h.ends⟩

/-- An invocation that is dropped stays in its stage, and is not counted as ended. -/
theorem Stands.abort (hst : Stands i.plan.id i.phase i.course) (d : Dispatcher σ τ)
    (number : Nat) (s : Shared σ τ) :
    Stands i.plan.id (i.abort d number s).1.phase (i.abort d number s).1.course ∧
      (i.abort d number s).1.course = i.course ∧ (i.abort d number s).2.ends = s.ends := by
  obtain ⟨p, c, ph⟩ := i
  cases ph with
  | coming | admission => exact ⟨.dropped (Or.inl (hst.eq_begin rfl)), rfl, rfl⟩
  | handing => exact ⟨.dropped (Or.inl (hst.eq_begin rfl)), rfl, Board.ends_deregister _ _⟩
  | awaiting => exact ⟨.dropped (Or.inr hst.eq_sent), rfl, Board.ends_deregister _ _⟩
  | ended | dropped | broken => exact ⟨hst, rfl, rfl⟩

end Invocation

end Sluice
