import Sluice.Proofs.Gate.Turn
import Sluice.Proofs.Gate.Sleep
import Sluice.Settings.Check

/-!
# A caller alone at the gate

One caller asks a store that answers at once. What the store answers may depend on anything: the
clock, what has been asked before, and what somebody else does to it meanwhile.

* `Crowd.Leads` : what a run comes to, and the calls of the store on the way;
* `Crowd.Attempt`, `Crowd.attempts` : all that can come of an attempt, from going to the gate to
  hearing the answer;
* `Crowd.ends_by` : a caller with a deadline goes home, and until then asks the store at most once
  a millisecond;
* `Crowd.never_home` : a caller that cannot choose a sleep does not go home.

A gate at which there is no sleep to choose after some denial breaks its callers down, so these
results are about gates at which there always is.
-/

namespace Sluice

namespace Crowd

variable {σ : Type} {h : Gatehouse σ} {c c' : Crowd σ} {m : Move σ} {cs : List Call} {call : Call}
  {caller : Caller} {s s' : Standing} {v : Visit} {now i : Instant} {t : Tick} {state state' : σ}
  {tally : Tally} {d : Instant}

/-! ### Where a run leads -/

/-- Where a run that goes on with `c` comes to, and the calls of the store on the way. -/
inductive Leads (h : Gatehouse σ) : Crowd σ → List Call → Crowd σ → Prop where
  | rest {c : Crowd σ} : Leads h c [] c
  | turn {c c' : Crowd σ} {m : Move σ} {cs : List Call} (next : c.next? h = some m)
    (rest : Leads h (m.after h) cs c') : Leads h c ((m.call? h).toList ++ cs) c'

theorem Leads.trans {c'' : Crowd σ} {cs' : List Call} (hl : Leads h c cs c')
    (hl' : Leads h c' cs' c'') : Leads h c (cs ++ cs') c'' := by
  induction hl with
  | rest => exact hl'
  | turn next _ ih =>
    rw [List.append_assoc]
    exact .turn next (ih hl')

/-- **A run does what it leads to** if it is not cut off. -/
theorem Leads.run (hl : Leads h c cs c') :
    ∃ fuel, c.run h fuel = c' ∧ calls h (moves h fuel c) = cs := by
  induction hl with
  | rest => exact ⟨0, rfl, rfl⟩
  | turn next _ ih =>
    obtain ⟨fuel, hrun, hcalls⟩ := ih
    refine ⟨fuel + 1, ?_, ?_⟩
    · rw [Crowd.run, step?_eq, next]
      exact hrun
    · rw [moves, next, calls]
      change (List.filterMap _ ([_] ++ moves h fuel _)) = _
      rw [List.filterMap_append]
      refine congrArg₂ (· ++ ·) ?_ hcalls
      rw [List.filterMap_cons]
      split <;> simp_all

theorem run_add (m n : Nat) : c.run h (m + n) = (c.run h m).run h n := by
  induction m generalizing c with
  | zero => rw [Nat.zero_add, Crowd.run]
  | succ m ih =>
    rw [Nat.succ_add, Crowd.run, Crowd.run]
    cases hc : c.step? h with
    | some c' => exact ih
    | none =>
      cases n with
      | zero => rfl
      | succ n => rw [Crowd.run, hc]

theorem run_of_next? (hc : c.next? h = none) (n : Nat) : c.run h n = c := by
  cases n with
  | zero => rfl
  | succ n => rw [Crowd.run, step?_eq, hc, Option.map_none]

/-- **A run ends in one way.** -/
theorem run_eq_run {m n : Nat} (hm : (c.run h m).next? h = none)
    (hn : (c.run h n).next? h = none) : c.run h m = c.run h n := by
  rw [← run_of_next? hm n, ← run_of_next? hn m, ← run_add, ← run_add, Nat.add_comm]

/-! ### Turns of a lone caller -/

/-- A crowd of one caller. -/
def alone (caller : Caller) (s : Standing) (now : Instant) (state : σ) (tally : Tally) : Crowd σ :=
  ⟨[(caller, s)], now, state, tally⟩

theorem ofCallers_singleton :
    ofCallers [caller] state = alone caller .coming 0 state .zero := rfl

theorem next?_alone (hdue : caller.due? s = some i) :
    (alone caller s now state tally).next? h =
      some ⟨alone caller s now state tally, max now i, 0, h.latency⟩ := by
  have hagenda : (alone caller s now state tally).agenda = [(max now i, 0)] := by
    simp [agenda, alone, hdue]
  rw [next?, hagenda]
  rfl

theorem leads_alone {tally' : Tally} (hdue : caller.due? s = some i)
    (hserve : serve h (max now i) caller 0 s state tally = (s', state', tally'))
    (hrest : Leads h (alone caller s' (max now i) state' tally') cs c') :
    Leads h (alone caller s now state tally)
      ((call? h (max now i) caller 0 s state).toList ++ cs) c' := by
  refine Leads.turn (next?_alone hdue) ?_
  change Leads h (alone caller (serve h (max now i) caller 0 s state tally).1 (max now i)
    (serve h (max now i) caller 0 s state tally).2.1
    (serve h (max now i) caller 0 s state tally).2.2) cs c'
  rwa [hserve]

theorem leads_still {tally' : Tally} (hdue : caller.due? s = some i)
    (hcall : call? h (max now i) caller 0 s state = none)
    (hserve : serve h (max now i) caller 0 s state tally = (s', state', tally'))
    (hrest : Leads h (alone caller s' (max now i) state' tally') cs c') :
    Leads h (alone caller s now state tally) cs c' := by
  have hleads := leads_alone hdue hserve hrest
  rw [hcall] at hleads
  exact hleads

theorem leads_call {tally' : Tally} (hdue : caller.due? s = some i)
    (hcall : call? h (max now i) caller 0 s state = some call)
    (hserve : serve h (max now i) caller 0 s state tally = (s', state', tally'))
    (hrest : Leads h (alone caller s' (max now i) state' tally') cs c') :
    Leads h (alone caller s now state tally) (call :: cs) c' := by
  have hleads := leads_alone hdue hserve hrest
  rw [hcall] at hleads
  exact hleads

theorem leads_hear {o : Outcome} {tally' : Tally} (hhear : hear h now v o tally = (s', tally')) :
    Leads h (alone caller (.waits v (.answer now o)) now state tally) []
      (alone caller s' now state tally') := by
  have hmax : max now now = now := max_self now
  have hserve : serve h (max now now) caller 0 (.waits v (.answer now o)) state tally =
      (s', state, tally') := by
    rw [hmax, serve, hhear]
  refine leads_still rfl rfl hserve ?_
  rw [hmax]
  exact .rest

/-! ### Attempts -/

section Attempts

variable (hv : s.asking? caller 0 = some v) (hdue : caller.due? s = some i)

include hv hdue

theorem leads_cancelled (hc : caller.isCancelled (max now i) = true) :
    Leads h (alone caller s now state tally) []
      (alone caller (.ended (max now i) v (.failed .cancelled)) (max now i) state tally) := by
  have hcall : call? h (max now i) caller 0 s state = none := by
    rw [call?, asks?_of_asking? hv, if_neg (by simp [Caller.mayAsk, hc])]
    rfl
  exact leads_still hdue hcall ((serve_of_asking? hv).trans (ask_of_cancelled hc)) .rest

theorem leads_late (hc : caller.isCancelled (max now i) = false)
    (hl : Gate.isLate v (max now i) = true) :
    Leads h (alone caller s now state tally) []
      (alone caller (.ended (max now i) v .late) (max now i) state tally) := by
  have hcall : call? h (max now i) caller 0 s state = none := by
    rw [call?, asks?_of_asking? hv, if_neg (by simp [Caller.mayAsk, hl])]
    rfl
  exact leads_still hdue hcall ((serve_of_asking? hv).trans (ask_of_late hc hl)) .rest

theorem leads_ask {r : Except Failure Outcome} (hmay : caller.mayAsk v (max now i) = true)
    (htake : take h (max now i) v state = (r, state'))
    (hask : ask h (max now i) caller v state tally = (s', state', tally))
    (hrest : Leads h (alone caller s' (max now i) state' tally) [] c') :
    Leads h (alone caller s now state tally) [⟨0, v.bucket, r⟩] c' := by
  have hcall : call? h (max now i) caller 0 s state = some ⟨0, v.bucket, r⟩ := by
    rw [call?, asks?_of_asking? hv, if_pos hmay, Option.map_some, htake]
  exact leads_call hdue hcall ((serve_of_asking? hv).trans hask) hrest

theorem leads_failed {f : Failure} (hmay : caller.mayAsk v (max now i) = true)
    (htake : take h (max now i) v state = (.error f, state')) :
    Leads h (alone caller s now state tally) [⟨0, v.bucket, .error f⟩]
      (alone caller (.ended (max now i) v (.failed f)) (max now i) state' tally) :=
  leads_ask hv hdue hmay htake (by rw [ask_of_mayAsk hmay, htake]) .rest

theorem leads_answered {o : Outcome} {tally' : Tally} (hlatency : h.latency = 0)
    (hmay : caller.mayAsk v (max now i) = true)
    (htake : take h (max now i) v state = (.ok o, state'))
    (hhear : hear h (max now i) v o tally = (s', tally')) :
    Leads h (alone caller s now state tally) [⟨0, v.bucket, .ok o⟩]
      (alone caller s' (max now i) state' tally') := by
  refine leads_ask hv hdue hmay htake ?_ (leads_hear hhear)
  rw [ask_of_mayAsk hmay, htake, hlatency]
  dsimp only
  rw [show max now i + Tick.instant 0 = max now i from Int.add_zero _]

end Attempts

/-- All that can come of an attempt: the calls of the store, where the caller stands then, and the
state of the store. -/
inductive Attempt (h : Gatehouse σ) (caller : Caller) (v : Visit) (i : Instant) (state : σ) :
    List Call → Standing → σ → Prop where
  | cancelled (hc : caller.isCancelled i = true) :
    Attempt h caller v i state [] (.ended i v (.failed .cancelled)) state
  | late (hc : caller.isCancelled i = false) (hl : Gate.isLate v i = true) :
    Attempt h caller v i state [] (.ended i v .late) state
  | failed {f : Failure} {state' : σ} (hmay : caller.mayAsk v i = true)
    (htake : take h i v state = (.error f, state')) :
    Attempt h caller v i state [⟨0, v.bucket, .error f⟩] (.ended i v (.failed f)) state'
  | granted {r : UInt32} {state' : σ} (hmay : caller.mayAsk v i = true)
    (htake : take h i v state = (.ok (.granted r), state')) :
    Attempt h caller v i state [⟨0, v.bucket, .ok (.granted r)⟩] (.ended i v (.granted r)) state'
  | denied {hint : Duration} {state' : σ} (hmay : caller.mayAsk v i = true)
    (htake : take h i v state = (.ok (.denied hint), state')) :
    Attempt h caller v i state [⟨0, v.bucket, .ok (.denied hint)⟩]
      (.waits { v with denials := Gate.countDenial v.denials }
        (.wake (Gate.wakeTick v i (h.gate.sleep v hint)))) state'

/-- **All that can come of an attempt** of a lone caller whose store answers at once. -/
theorem attempts (hlatency : h.latency = 0) (hp : h.gate.backoff.IsPossible)
    (hv : s.asking? caller 0 = some v) (hdue : caller.due? s = some i) (now : Instant) (state : σ)
    (tally : Tally) :
    ∃ cs s' state' tally', Attempt h caller v (max now i) state cs s' state' ∧
      Leads h (alone caller s now state tally) cs
        (alone caller s' (max now i) state' tally') := by
  -- Whether it asks at all, and then what the store says.
  cases hmay : caller.mayAsk v (max now i) with
  | false =>
    rcases mayAsk_eq_false hmay with hc | ⟨hc, hl⟩
    · exact ⟨_, _, _, _, .cancelled hc, leads_cancelled hv hdue hc⟩
    · exact ⟨_, _, _, _, .late hc hl, leads_late hv hdue hc hl⟩
  | true =>
    rcases htake : take h (max now i) v state with ⟨r, state'⟩
    cases r with
    | error f => exact ⟨_, _, _, _, .failed hmay htake, leads_failed hv hdue hmay htake⟩
    | ok o =>
      cases o with
      | granted r =>
        exact ⟨_, _, _, _, .granted hmay htake,
          leads_answered hv hdue hlatency hmay htake hear_granted⟩
      | denied hint =>
        exact ⟨_, _, _, _, .denied hmay htake,
          leads_answered hv hdue hlatency hmay htake (hear_of_isPossible (hp _ _))⟩

/-- A store that denies everything. -/
def denying (hint : Duration) : Store Unit where
  get now id _ := (.ok (Bucket.fresh id .standard now), ())
  take _ _ _ _ := (.ok (.denied hint), ())
  correct _ _ _ _ := (.ok (), ())
  list _ := .ok []

/-- A gate without chance before a store that denies everything. -/
def denyingHouse (b : Backoff) (hint : Duration) : Gatehouse Unit :=
  ⟨⟨b, fun _ _ => 0⟩, denying hint, .epoch, 0⟩

/-! ### Deadlines -/

theorem not_cancelled_of_mayAsk (hmay : caller.mayAsk v now = true) :
    caller.isCancelled now = false ∧ Gate.isLate v now = false := by
  simpa [Caller.mayAsk] using hmay

/-- A caller that sleeps goes on after it fell asleep, when it wakes or when its token fires. -/
theorem due?_wake (hc : caller.isCancelled now = false) (hlt : now < t.instant) :
    ∃ i, caller.due? (.waits v (.wake t)) = some i ∧ now < i ∧ i ≤ t.instant ∧
      (i = t.instant ∨ caller.isCancelled i = true) := by
  refine ⟨_, rfl, ?_⟩
  cases hcancel : caller.cancel with
  | none => exact ⟨hlt, le_refl _, Or.inl rfl⟩
  | some c =>
    have hnc : now < c := by simpa [Caller.isCancelled, hcancel] using hc
    refine ⟨lt_min hlt hnc, min_le_left _ _, ?_⟩
    rcases le_total t.instant c with hle | hle
    · exact Or.inl (min_eq_left hle)
    · exact Or.inr (by simpa [Caller.isCancelled, hcancel] using hle)

/-- **A caller with a deadline goes home**: from an attempt on it asks the store at most once for
every millisecond until its deadline. -/
theorem leads_home (hlatency : h.latency = 0) (hp : h.gate.backoff.IsPossible)
    (hv : s.asking? caller 0 = some v) (hd : v.deadline = some d) (hdue : caller.due? s = some i)
    (now : Instant) (state : σ) (tally : Tally) :
    ∃ cs at' v' verdict state' tally', Leads h (alone caller s now state tally) cs
        (alone caller (.ended at' v' verdict) at' state' tally') ∧
      at' ≤ max (max now i) (Tick.atOrAfter d).instant ∧
      cs.length ≤ Tick.atOrAfter (d - max now i) := by
  -- Between two attempts there is a millisecond, or the deadline.
  induction hk : Tick.atOrAfter (d - max now i) using Nat.strongRecOn
    generalizing s v now i state tally with
  | ind k ih =>
  subst hk
  have hbefore (hmay : caller.mayAsk v (max now i) = true) : max now i < d :=
    Gate.lt_of_not_late (not_cancelled_of_mayAsk hmay).2 hd
  have hpos (hmay : caller.mayAsk v (max now i) = true) : 0 < Tick.atOrAfter (d - max now i) :=
    Nat.zero_lt_of_lt (Tick.atOrAfter_sub_lt (hbefore hmay) (Or.inr (le_refl d)))
  obtain ⟨cs, s', state', tally', hattempt, hleads⟩ :=
    attempts hlatency hp hv hdue now state tally
  cases hattempt with
  | cancelled => exact ⟨_, _, _, _, _, _, hleads, le_max_left _ _, Nat.zero_le _⟩
  | late => exact ⟨_, _, _, _, _, _, hleads, le_max_left _ _, Nat.zero_le _⟩
  | failed hmay => exact ⟨_, _, _, _, _, _, hleads, le_max_left _ _, hpos hmay⟩
  | granted hmay => exact ⟨_, _, _, _, _, _, hleads, le_max_left _ _, hpos hmay⟩
  | denied hmay =>
    rename_i hint _
    obtain ⟨hc, hl⟩ := not_cancelled_of_mayAsk hmay
    have hdelay : 1000000 ≤ (h.gate.sleep v hint).nanos := h.gate.le_sleep
    have hwake' : (Gate.wakeTick v (max now i) (h.gate.sleep v hint)).instant ≤
        (Tick.atOrAfter d).instant := Tick.instant_mono (Gate.wakeTick_le hd)
    obtain ⟨j, hdue', hlater, hle, hat⟩ :=
      due?_wake (v := { v with denials := Gate.countDenial v.denials }) hc
        (Gate.lt_wakeTick hl hdelay)
    have hmax : max (max now i) j = j := max_eq_right (le_of_lt hlater)
    have hend : j ≤ max (max now i) (Tick.atOrAfter d).instant :=
      le_trans (le_trans hle hwake') (le_max_right _ _)
    rcases hat with rfl | hfired
    · have hless := Tick.atOrAfter_sub_lt (hbefore hmay) (Gate.le_wakeTick hdelay hd)
      obtain ⟨cs', at', v', verdict, state'', tally'', hleads', hat, hcs⟩ :=
        ih _ (by rwa [hmax]) (v := { v with denials := Gate.countDenial v.denials }) rfl hd hdue'
          (max now i) state' tally' rfl
      rw [hmax] at hat hcs
      refine ⟨_, at', v', verdict, state'', tally'', hleads.trans hleads', ?_, ?_⟩
      · exact le_trans hat (max_le hend (le_max_right _ _))
      · rw [List.length_append, List.length_singleton, Nat.add_comm]
        exact Nat.le_trans (Nat.succ_le_succ hcs) hless
    · -- The token fires first, and the store is not asked again.
      have hgone : Leads h (alone caller (.waits { v with denials := Gate.countDenial v.denials }
          (.wake (Gate.wakeTick v (max now i) (h.gate.sleep v hint)))) (max now i) state' tally')
          [] _ := leads_cancelled rfl hdue' (by rwa [hmax])
      refine ⟨_, _, _, _, _, _, hleads.trans hgone, ?_, hpos hmay⟩
      rwa [hmax]

/-- **A caller with a deadline is back in time**, whenever it comes and whatever the store answers:
at its deadline rounded up to a tick at the latest, or at once if it comes later. It asks the store
at most once for every millisecond that it has, and not at all if it has none. -/
theorem ends_by (h : Gatehouse σ) (hlatency : h.latency = 0) (hp : h.gate.backoff.IsPossible)
    (caller : Caller) {d : Instant} (hd : caller.deadline = some d) (state : σ) :
    ∃ fuel at' v verdict,
      ((ofCallers [caller] state).run h fuel).callers = [(caller, .ended at' v verdict)] ∧
        at' ≤ max caller.start (Tick.atOrAfter d).instant ∧
        (calls h (moves h fuel (ofCallers [caller] state))).length ≤
          Tick.atOrAfter (d - caller.start) := by
  obtain ⟨cs, at', v, verdict, state', tally', hleads, hat, hcs⟩ :=
    leads_home (s := .coming) hlatency hp rfl hd rfl 0 state .zero
  obtain ⟨fuel, hrun, hcalls⟩ := hleads.run
  have hzero : 0 ≤ (Tick.atOrAfter d).instant := Int.mul_nonneg (Int.natCast_nonneg _) (by decide)
  rw [ofCallers_singleton]
  refine ⟨fuel, at', v, verdict, ?_, le_trans hat (max_le (max_le ?_ ?_) ?_), ?_⟩
  · rw [hrun]
    rfl
  · exact le_trans hzero (le_max_right _ _)
  · exact le_max_left _ _
  · exact le_max_right _ _
  · rw [hcalls]
    refine Nat.le_trans hcs (Tick.atOrAfter_mono ?_)
    exact Int.sub_le_sub_left (le_max_right _ _) _

/-- Two and a half milliseconds before a store that always says that there is nothing to wait for:
the caller, who comes between two ticks, asks three times at most. -/
theorem ends_by_denied :
    let caller : Caller := ⟨300000, "b", some 2800000, none⟩
    let h := denyingHouse .standard .zero
    h.latency = 0 ∧ h.gate.backoff.IsPossible ∧ ∃ fuel at' v verdict,
      ((ofCallers [caller] ()).run h fuel).callers = [(caller, .ended at' v verdict)] ∧
        at' ≤ 3000000 ∧ (calls h (moves h fuel (ofCallers [caller] ()))).length ≤ 3 := by
  have hp : Backoff.standard.IsPossible := Backoff.isPossible (by decide)
  exact ⟨rfl, hp,
    ends_by (denyingHouse .standard .zero) rfl hp ⟨300000, "b", some 2800000, none⟩ rfl ()⟩

/-! ### No sleep to choose -/

theorem next?_of_due? (hc : c.callers = [(caller, s)]) (hs : caller.due? s = none) :
    c.next? h = none := by
  have hagenda : c.agenda = [] := by simp [agenda, hc, hs]
  rw [next?, hagenda]
  rfl

/-- **A caller that cannot choose a sleep never goes home.** -/
theorem never_home {hint : Duration} (hlatency : h.latency = 0) (hstart : 0 ≤ caller.start)
    (hmay : caller.mayAsk (caller.visit 0) caller.start = true)
    (htake : take h caller.start (caller.visit 0) state = (.ok (.denied hint), state'))
    (hp : (h.gate.backoff.spread (caller.visit 0).denials hint).isPossible = false) (fuel : Nat)
    (at' : Instant) (v : Visit) (verdict : Verdict) :
    ((ofCallers [caller] state).run h fuel).callers ≠ [(caller, .ended at' v verdict)] := by
  intro hended
  have hmax : max 0 caller.start = caller.start := max_eq_right hstart
  have hleads : Leads h (alone caller .coming 0 state .zero)
      [⟨0, caller.bucket, .ok (.denied hint)⟩]
      (alone caller (.broken (max 0 caller.start) (caller.visit 0)) (max 0 caller.start) state'
        (Tally.zero.deny caller.bucket)) :=
    leads_answered rfl rfl hlatency (by rwa [hmax]) (by rwa [hmax]) (hear_of_not_isPossible hp)
  obtain ⟨fuel', hbroken, -⟩ := hleads.run
  -- It has broken down at its first denial, and nothing is due any more.
  have hover : ((alone caller .coming 0 state .zero).run h fuel').next? h = none := by
    rw [hbroken]
    exact next?_of_due? rfl rfl
  rw [ofCallers_singleton] at hended
  rw [run_eq_run (next?_of_due? hended rfl) hover, hbroken] at hended
  simp [alone] at hended

theorem never_home_denying {b : Backoff} {hint : Duration}
    (hp : (b.spread 0 hint).isPossible = false) (fuel : Nat) (at' : Instant) (v : Visit)
    (verdict : Verdict) :
    ((ofCallers [⟨0, "b", some 1000000, none⟩] ()).run (denyingHouse b hint) fuel).callers ≠
      [(⟨0, "b", some 1000000, none⟩, .ended at' v verdict)] :=
  never_home (h := denyingHouse b hint) rfl (le_refl 0) rfl rfl hp fuel at' v verdict

/-- Valid settings with sleeps of centuries, of which next to nothing is left to chance. -/
def patientSettings : Settings :=
  { Settings.standard with admission := ⟨10000000000000, 10000000000000, 1e-17⟩ }

theorem check_patientSettings : patientSettings.check = .ok () := by
  have hname : Level.info.lowerName = "info" := by decide +kernel
  have hlower : "info".map Char.toLower = "info" := by decide +kernel
  have hlevel : (Level.ofName? "info").isSome = true :=
    List.find?_isSome.2 ⟨.info, by decide, beq_iff_eq.2 (hname.trans hlower.symm)⟩
  have hshape : (Shape.ofName? "compact").isSome = true := by decide +kernel
  have hhttp : Settings.isHttp "http://127.0.0.1:8085/enqueue" = true := by simp [Settings.isHttp]
  have hjitter : ((0.0 : Float) ≤ 1e-17 && (1e-17 : Float) ≤ 1.0) = true := by decide +kernel
  have hfaults : patientSettings.faults = [] := by
    unfold Settings.faults patientSettings Settings.standard
    dsimp only
    rw [hlevel, hshape, hhttp, hjitter]
    rfl
  rw [Settings.check, hfaults]
/-- A time that needs 54 bits if it is counted in microseconds. -/
def oddHint : Duration := ⟨9007199254740995000, by decide⟩

/-- The share of such a sleep that is not left to chance is rounded to more than the sleep, and a
caller with a deadline never goes home. -/
theorem never_home_patient : patientSettings.check = .ok () ∧ ∀ fuel at' v verdict,
    ((ofCallers [⟨0, "b", some 1000000, none⟩] ()).run
      (denyingHouse patientSettings.backoff oddHint) fuel).callers ≠
        [(⟨0, "b", some 1000000, none⟩, .ended at' v verdict)] := by
  have hp : (patientSettings.backoff.spread 0 oddHint).isPossible = false := by
    decide +kernel
  exact ⟨check_patientSettings, never_home_denying hp⟩

end Crowd

end Sluice
