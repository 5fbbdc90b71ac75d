import Sluice.Proofs.Dispatch.Promptness

/-!
# What decides the result of an invocation

What an invocation ends with depends on what comes first: its call cannot be read, its token fires,
the queue refuses its message, an answer settles its entry, or its deadline passes.

* `Plan.misdirection`, `Plan.cancellation`, `Plan.expiry` : what is known when an invocation is
  planned;
* `Traffic.Move.grant?`, `Plan.request` : the grant of an invocation, and what it hands over then;
* `Traffic.Move.refusal?`, `Traffic.Move.settlement?` : what the queue and the answers say to it;
* `Traffic.fates` : everything that decides;
* `Traffic.first?_fates_misdirection`, `Traffic.first?_fates_cancellation`,
  `Traffic.first?_fates_verdict`, `Traffic.first?_fates_expiry` : which of them is the first.
-/

namespace Sluice

variable {σ τ : Type} {d : Dispatcher σ τ} {p : Plan} {now tick : Tick}

/-! ### What decides -/

namespace Plan

/-- A call that names no bucket and has a URL that cannot be read fails when it begins. -/
def misdirection (p : Plan) : Agenda (Except Failure Reply) :=
  match p.call.bucketId, Url.parse p.call.targetUrl with
  | none, .error fault => [(p.start, .error (.invalidConfig
      ("invalid target url " ++ p.call.targetUrl ++ ": " ++ fault.message)))]
  | _, _ => []

/-- The token fires; one that has fired before the invocation begins counts from then on. -/
def cancellation (p : Plan) : Agenda (Except Failure Reply) :=
  (p.cancel.map fun c => (max p.start c, .error .cancelled)).toList

/-- The deadline passes. -/
def expiry (d : Dispatcher σ τ) (p : Plan) : Agenda (Except Failure Reply) :=
  [(Tick.atOrAfter (p.deadline d), .error (p.lateness d))]

theorem misdirection_of_ok {b : String} (h : Invocation.bucket d p.call = .ok b) :
    p.misdirection = [] := by
  unfold Invocation.bucket Route.bucketOf at h
  unfold misdirection
  split at h
  · rename_i hb
    rw [hb]
  · rename_i hb
    cases hurl : Url.parse p.call.targetUrl with
    | ok url => rw [hb]
    | error fault =>
      rw [hurl] at h
      cases h

theorem misdirection_of_error {f : Failure} (h : Invocation.bucket d p.call = .error f) :
    p.misdirection = [(p.start, .error f)] := by
  unfold Invocation.bucket Route.bucketOf at h
  unfold misdirection
  split at h
  · cases h
  · rename_i hb
    cases hurl : Url.parse p.call.targetUrl with
    | ok url =>
      rw [hurl] at h
      cases h
    | error fault =>
      rw [hurl] at h
      rw [hb, ← Except.error.inj h]

theorem start_le_of_mem_cancellation {x : Tick × Except Failure Reply} (h : x ∈ p.cancellation) :
    p.start ≤ x.1 := by
  unfold cancellation at h
  obtain ⟨c, -, rfl⟩ := Option.map_eq_some_iff.1 (Option.mem_toList.1 h)
  exact Nat.le_max_left _ _

theorem InTime.le_of_mem_cancellation (hin : p.InTime d tick) {x : Tick × Except Failure Reply}
    (h : x ∈ p.cancellation) : tick ≤ x.1 := by
  unfold cancellation at h
  obtain ⟨c, hc, rfl⟩ := Option.map_eq_some_iff.1 (Option.mem_toList.1 h)
  exact hin.2 c hc

theorem lt_of_mem_cancellation (hc : p.isCancelled tick = false)
    {x : Tick × Except Failure Reply} (h : x ∈ p.cancellation) : tick < x.1 := by
  unfold cancellation at h
  obtain ⟨c, hcancel, rfl⟩ := Option.map_eq_some_iff.1 (Option.mem_toList.1 h)
  exact Nat.lt_of_lt_of_le (lt_of_not_cancelled hc hcancel) (Nat.le_max_right _ _)

/-- An invocation that finds its token fired is there in time. -/
theorem InTime.cancellation_eq (hin : p.InTime d tick) (hs : p.start ≤ tick)
    (hc : p.isCancelled tick = true) : p.cancellation = [(tick, .error .cancelled)] := by
  unfold isCancelled at hc
  obtain ⟨c, hcancel, hle⟩ := (Option.any_eq_true _ _).1 hc
  have hmax : max p.start c = tick :=
    Nat.le_antisymm (Nat.max_le.2 ⟨hs, of_decide_eq_true hle⟩) (hin.2 c hcancel)
  unfold cancellation
  rw [hcancel, Option.map_some, Option.toList_some, hmax]

end Plan

namespace Invocation

variable {number : Nat} {i : Invocation} {s : Shared σ τ} {v : Visit} {deadline : Instant}

/-- Nothing is granted after the token or the deadline. -/
theorem grant?_spec (h : i.grant? d number now s = some v) : ∃ deadline, i.AtGate d now deadline ∧
    i.plan.isCancelled now = false ∧ Tick.instant now < deadline := by
  have hsaid {deadline : Instant} {g : Option Visit}
      (h : (if i.plan.isCancelled now = true ∨ deadline ≤ Tick.instant now then none else g) =
        some v) : i.plan.isCancelled now = false ∧ Tick.instant now < deadline := by
    split_ifs at h with hnot
    rw [not_or] at hnot
    exact ⟨Bool.eq_false_iff.2 hnot.1, Int.not_le.1 hnot.2⟩
  unfold grant? at h
  unfold AtGate
  split at h
  · rename_i hp
    dsimp only at h
    split at h
    · cases h
    rename_i hclock
    split at h
    · rename_i b hb
      rw [hp]
      exact ⟨_, ⟨rfl, Int.not_lt.1 hclock, b, hb⟩, hsaid h⟩
    · cases h
  · rename_i hp
    rw [hp]
    split_ifs at h
    exact ⟨_, rfl, hsaid h⟩
  · rename_i hp
    rw [hp]
    split_ifs at h
    exact ⟨_, rfl, hsaid h⟩
  · cases h

end Invocation

/-- What an invocation hands to the queue when its visit to the gate has ended with a grant. -/
def Plan.request (d : Dispatcher σ τ) (p : Plan) (v : Visit) (tick : Tick) : Request :=
  .ofCall p.id v.bucket p.call d.returnAddress (Tick.clock d.start tick)

/-- The failure of an invocation whose message is refused. -/
def Reception.refusal? : Reception → Option (Except Failure Reply)
  | .refused reason => some (.error (.relayUnavailable reason))
  | _ => none

namespace Traffic

variable {t : Traffic σ τ} {ms : List (Move σ τ)} {m : Move σ τ} {i : Invocation} {n : Nat}

/-- The visit to the gate that an invocation ends with a grant in a move. -/
def Move.grant? (d : Dispatcher σ τ) (n : Nat) (m : Move σ τ) : Option Visit :=
  match m.errand with
  | .turn j =>
    if j = n then m.before.invocations[n]?.bind (·.grant? d n m.tick m.before.shared) else none
  | _ => none

/-- The queue refuses the message that an invocation hands over after its grant. -/
def Move.refusal? (d : Dispatcher σ τ) (n : Nat) (p : Plan) (m : Move σ τ) :
    Option (Except Failure Reply) :=
  (m.grant? d n).bind fun v =>
    (d.queue.offer n (p.request d v m.tick).toUtf8 m.before.shared.line).1.refusal?

/-- An answer settles the entry of an id. -/
def Move.settlement? (id : Uuid) (m : Move σ τ) : Option (Except Failure Reply) :=
  match m.errand with
  | .deliver _ x =>
    if x.id = id ∧ (m.before.shared.board.resolve id x.response).1 = .settled then
      some x.response.outcome
    else none
  | _ => none

/-- What an invocation is told in a move. -/
def Move.verdict? (d : Dispatcher σ τ) (n : Nat) (p : Plan) (m : Move σ τ) :
    Option (Except Failure Reply) :=
  (m.refusal? d n p).or (m.settlement? p.id)

/-- What an invocation has been told. -/
def verdicts (d : Dispatcher σ τ) (n : Nat) (p : Plan) (ms : List (Move σ τ)) :
    Agenda (Except Failure Reply) :=
  ms.filterMap fun m => (m.verdict? d n p).map (m.tick, ·)

/-- Everything that decides the result of an invocation. -/
def fates (d : Dispatcher σ τ) (n : Nat) (p : Plan) (ms : List (Move σ τ)) :
    Agenda (Except Failure Reply) :=
  p.misdirection ++ (p.cancellation ++ (verdicts d n p ms ++ p.expiry d))

theorem verdicts_append (m : Move σ τ) : verdicts d n p (ms ++ [m]) =
    verdicts d n p ms ++ ((m.verdict? d n p).map (m.tick, ·)).toList := by
  unfold verdicts
  rw [List.filterMap_append]
  cases h : m.verdict? d n p <;> simp [h]

theorem verdicts_append_of_none (h : m.verdict? d n p = none) :
    verdicts d n p (ms ++ [m]) = verdicts d n p ms := by
  rw [verdicts_append, h]
  exact List.append_nil _

theorem verdicts_append_of_some {r : Except Failure Reply} (h : m.verdict? d n p = some r)
    (hms : verdicts d n p ms = []) : verdicts d n p (ms ++ [m]) = [(m.tick, r)] := by
  rw [verdicts_append, h, hms]
  rfl

theorem Move.grant?_turn (hi : t.invocations[n]? = some i) :
    Move.grant? d n ⟨t, tick, .turn n⟩ = i.grant? d n tick t.shared := by
  simp only [grant?, if_pos, hi, Option.bind_some]

theorem Move.grant?_of_ne (h : m.errand ≠ .turn n) : m.grant? d n = none := by
  unfold grant?
  split
  · rename_i j hj
    exact if_neg fun hjn => h (hj.trans (congrArg _ hjn))
  · rfl

theorem Move.verdict?_of_grant?_eq_none (h : m.grant? d n = none)
    (hs : m.settlement? p.id = none) : m.verdict? d n p = none := by
  unfold verdict? refusal?
  rw [h, hs]
  rfl

/-- An id without an entry is not settled. -/
theorem Move.settlement?_of_absent {id : Uuid}
    (h : m.before.shared.board.table.find? id = none) : m.settlement? id = none := by
  unfold settlement?
  split
  · rename_i x _
    refine if_neg fun hc => ?_
    have := congrArg Prod.fst (Board.resolve_eq m.before.shared.board id x.response)
    rw [Table.resolve_of_absent h, hc.2] at this
    cases this
  · rfl

/-! ### Which one is the earliest -/

theorem first?_fates_misdirection {f : Failure}
    (hb : Invocation.bucket d p.call = .error f) (hms : verdicts d n p ms = []) :
    (fates d n p ms).first? = some (p.start, .error f) := by
  unfold fates
  rw [Plan.misdirection_of_error hb, hms, List.nil_append, List.singleton_append]
  refine Agenda.first?_cons fun y hy => ?_
  rcases List.mem_append.1 hy with hy | hy
  · exact Plan.start_le_of_mem_cancellation hy
  · obtain rfl := List.mem_singleton.1 hy
    exact Plan.inTime_start.1

theorem first?_fates_cancellation (hb : p.misdirection = []) (hin : p.InTime d tick)
    (hs : p.start ≤ tick) (hc : p.isCancelled tick = true)
    (hms : ∀ x ∈ verdicts d n p ms, tick ≤ x.1) :
    (fates d n p ms).first? = some (tick, .error .cancelled) := by
  unfold fates
  rw [hb, hin.cancellation_eq hs hc, List.nil_append, List.singleton_append]
  refine Agenda.first?_cons fun y hy => ?_
  rcases List.mem_append.1 hy with hy | hy
  · exact hms y hy
  · obtain rfl := List.mem_singleton.1 hy
    exact hin.1

theorem first?_fates_verdict (hb : p.misdirection = []) (hin : p.InTime d tick)
    (hc : p.isCancelled tick = false) {r : Except Failure Reply}
    (hms : verdicts d n p ms = [(tick, r)]) : (fates d n p ms).first? = some (tick, r) := by
  unfold fates
  rw [hb, hms]
  refine Agenda.first?_append_cons (fun y hy => Plan.lt_of_mem_cancellation hc hy) fun y hy => ?_
  obtain rfl := List.mem_singleton.1 hy
  exact hin.1

theorem first?_fates_expiry (hb : p.misdirection = []) (hin : p.InTime d tick)
    (hc : p.isCancelled tick = false) (hlate : Tick.atOrAfter (p.deadline d) ≤ tick)
    (hms : verdicts d n p ms = []) :
    (fates d n p ms).first? = some (tick, .error (p.lateness d)) := by
  unfold fates Plan.expiry
  rw [hb, hms, Nat.le_antisymm hlate hin.1]
  exact Agenda.first?_append_cons (fun y hy => Plan.lt_of_mem_cancellation hc hy)
    fun y hy => absurd hy List.not_mem_nil

end Traffic

end Sluice
