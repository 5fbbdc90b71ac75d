import Sluice.Proofs.Gate.Alone
import Sluice.Quota.Memory

/-!
# Every unit is accounted for

Any number of callers share a store that may answer anything. In every history of theirs a grant
that a caller takes home is the last thing that the store told it, everybody else goes home without
a unit, and the counters agree with what the store has handed out.

* `Crowd.Stands` : where a caller can stand, given what the store has answered it;
* `Crowd.Stands.turn` : a turn keeps it where it can stand;
* `Crowd.Account` : the same for everybody, and for the counters;
* `Crowd.Balances` : what this says about the callers that have gone home;
* `Crowd.History.counts_balance` : the books balance after every history;
* `Crowd.counts_no_further` : more denials than a caller can count.
-/

namespace Sluice

/-! ### What somebody holds or is about to hear -/

/-- The caller has gone home with a unit. -/
def Standing.isGranted : Standing → Bool
  | .ended _ _ (.granted _) => true
  | _ => false

/-- The store has granted a unit, and the caller has not heard of it. -/
def Standing.awaitsGrant : Standing → Bool
  | .waits _ (.answer _ (.granted _)) => true
  | _ => false

/-- The store has denied a unit of a bucket, and the caller has not heard of it. -/
def Standing.awaitsDenial (b : String) : Standing → Bool
  | .waits v (.answer _ (.denied _)) => v.bucket = b
  | _ => false

/-- The caller waits for the store. -/
def Standing.awaits : Standing → Bool
  | .waits _ (.answer ..) => true
  | _ => false

/-- Denials of a bucket that have been counted. -/
def Tally.denials (t : Tally) (b : String) : Nat := (t.denied.find? b).getD 0

@[simp] theorem Tally.denials_deny (t : Tally) (b b' : String) :
    (t.deny b').denials b = t.denials b + (decide (b' = b)).toNat := by
  unfold denials deny bump Catalog.update
  rw [Catalog.find?_insert]
  split_ifs with hb
  · simp [hb]
  · simp [Ne.symm hb]

@[simp] theorem Tally.denials_grant (t : Tally) (b : String) : t.grant.denials b = t.denials b :=
  rfl

@[simp] theorem Tally.granted_deny (t : Tally) (b : String) : (t.deny b).granted = t.granted := rfl

@[simp] theorem Tally.granted_grant (t : Tally) : t.grant.granted = t.granted + 1 := rfl

namespace Crowd

variable {σ : Type} {h : Gatehouse σ} {now : Instant} {caller : Caller} {number : Nat}
  {s s' : Standing} {v : Visit} {c₀ c : Crowd σ} {ms : List (Move σ)} {m : Move σ}
  {call : Option Call} {note : Tally → Tally} {as : List (Except Failure Outcome)}

/-- A unit was granted. -/
def Call.isGrant (c : Call) : Bool :=
  match c.answer with
  | .ok o => o.isGranted
  | .error _ => false

/-- A unit of a bucket was denied. -/
def Call.isDenial (b : String) (c : Call) : Bool :=
  match c.answer with
  | .ok o => c.bucket = b && !o.isGranted
  | .error _ => false

/-! ### One caller -/

/-- A visit is its caller's. -/
structure Belongs (caller : Caller) (v : Visit) : Prop where
  bucket : v.bucket = caller.bucket
  deadline : v.deadline = caller.deadline

/-- These answers were denials, and the visit has counted them as far as it can count. -/
structure Denied (v : Visit) (as : List (Except Failure Outcome)) : Prop where
  denials : ∀ a ∈ as, ∃ hint, a = .ok (.denied hint)
  count : v.denials.toNat = min as.length 4294967295

/-- Where a caller can stand, given what the store has answered it. -/
inductive Stands (caller : Caller) : List (Except Failure Outcome) → Standing → Prop where
  | coming : Stands caller [] .coming
  | sleeps {v : Visit} {as : List (Except Failure Outcome)} {t : Tick} (hv : Belongs caller v)
    (hd : Denied v as) : Stands caller as (.waits v (.wake t))
  | awaits {v : Visit} {as : List (Except Failure Outcome)} {t : Instant} {o : Outcome}
    (hv : Belongs caller v) (hd : Denied v as) :
    Stands caller (as ++ [.ok o]) (.waits v (.answer t o))
  | granted {v : Visit} {as : List (Except Failure Outcome)} {t : Instant} {r : UInt32}
    (hd : Denied v as) : Stands caller (as ++ [.ok (.granted r)]) (.ended t v (.granted r))
  | late {v : Visit} {as : List (Except Failure Outcome)} {t : Instant} (hd : Denied v as) :
    Stands caller as (.ended t v .late)
  | cancelled {v : Visit} {as : List (Except Failure Outcome)} {t : Instant} (hd : Denied v as) :
    Stands caller as (.ended t v (.failed .cancelled))
  | failed {v : Visit} {as : List (Except Failure Outcome)} {t : Instant} {f : Failure}
    (hd : Denied v as) : Stands caller (as ++ [.error f]) (.ended t v (.failed f))
  | broken {v : Visit} {as : List (Except Failure Outcome)} {t : Instant} {hint : Duration}
    (hd : Denied v as) : Stands caller (as ++ [.ok (.denied hint)]) (.broken t v)

theorem toNat_countDenial (n : UInt32) :
    (Gate.countDenial n).toNat = min (n.toNat + 1) 4294967295 := by
  have hlt := n.toNat_lt
  unfold Gate.countDenial
  split_ifs with hn
  · subst hn
    rfl
  · have hne : n.toNat ≠ 4294967295 := fun heq => hn (UInt32.toNat_inj.1 heq)
    rw [UInt32.toNat_add]
    change (n.toNat + 1) % 4294967296 = _
    omega

theorem Denied.append (hd : Denied v as) (hint : Duration) :
    Denied { v with denials := Gate.countDenial v.denials } (as ++ [.ok (.denied hint)]) := by
  constructor
  · intro a ha
    rcases List.mem_append.1 ha with ha | ha
    · exact hd.denials a ha
    · exact ⟨hint, List.mem_singleton.1 ha⟩
  · rw [toNat_countDenial, hd.count, List.length_append, List.length_singleton]
    omega

theorem Stands.of_asking? (hs : Stands caller as s) (hv : s.asking? caller number = some v) :
    Belongs caller v ∧ Denied v as := by
  cases hs with
  | coming =>
    cases hv
    exact ⟨⟨rfl, rfl⟩, fun _ ha => absurd ha List.not_mem_nil, rfl⟩
  | sleeps hv' hd =>
    cases hv
    exact ⟨hv', hd⟩
  | awaits => cases hv
  | granted => cases hv
  | late => cases hv
  | cancelled => cases hv
  | failed => cases hv
  | broken => cases hv

/-- **A turn keeps a caller where it can stand.** -/
theorem Stands.turn (hs : Stands caller as s) (ht : Turn h now caller number s call s' note) :
    Stands caller (as ++ (call.map (·.answer)).toList) s' := by
  -- Only a turn in which the store is asked adds an answer.
  cases ht with
  | cancelled hv =>
    rw [Option.map_none, Option.toList_none, List.append_nil]
    exact .cancelled (hs.of_asking? hv).2
  | late hv =>
    rw [Option.map_none, Option.toList_none, List.append_nil]
    exact .late (hs.of_asking? hv).2
  | failed hv => exact .failed (hs.of_asking? hv).2
  | asked hv => exact .awaits (hs.of_asking? hv).1 (hs.of_asking? hv).2
  | granted =>
    rw [Option.map_none, Option.toList_none, List.append_nil]
    cases hs with
    | awaits hv hd => exact .granted hd
  | denied =>
    rw [Option.map_none, Option.toList_none, List.append_nil]
    cases hs with
    | awaits hv hd => exact .sleeps ⟨hv.bucket, hv.deadline⟩ (hd.append _)
  | broken =>
    rw [Option.map_none, Option.toList_none, List.append_nil]
    cases hs with
    | awaits hv hd => exact .broken hd
  | idle => rwa [Option.map_none, Option.toList_none, List.append_nil]

/-! ### The counters -/

theorem isGranted_of_asking? (hv : s.asking? caller number = some v) : s.isGranted = false := by
  cases s <;> first | rfl | cases hv

theorem awaits_of_asking? (hv : s.asking? caller number = some v) :
    s.awaitsGrant = false ∧ ∀ b, s.awaitsDenial b = false := by
  unfold Standing.asking? at hv
  split at hv
  · exact ⟨rfl, fun _ => rfl⟩
  · exact ⟨rfl, fun _ => rfl⟩
  · cases hv
  · cases hv
  · cases hv

/-- Grants are counted when callers hear of them. -/
theorem Turn.granted_note (ht : Turn h now caller number s call s' note) (tally : Tally) :
    (note tally).granted + s.isGranted.toNat = tally.granted + s'.isGranted.toNat := by
  cases ht with
  | cancelled hv => rw [isGranted_of_asking? hv]; rfl
  | late hv => rw [isGranted_of_asking? hv]; rfl
  | failed hv => rw [isGranted_of_asking? hv]; rfl
  | asked hv => rw [isGranted_of_asking? hv]; rfl
  | granted => rfl
  | denied => rfl
  | broken => rfl
  | idle => rfl

/-- What the store grants somebody hears of, and takes home. -/
theorem Turn.grants (ht : Turn h now caller number s call s' note) :
    (call.any (·.isGrant)).toNat + (s.isGranted.toNat + s.awaitsGrant.toNat) =
      s'.isGranted.toNat + s'.awaitsGrant.toNat := by
  cases ht with
  | cancelled hv => rw [isGranted_of_asking? hv, (awaits_of_asking? hv).1]; rfl
  | late hv => rw [isGranted_of_asking? hv, (awaits_of_asking? hv).1]; rfl
  | failed hv => rw [isGranted_of_asking? hv, (awaits_of_asking? hv).1]; rfl
  | asked hv =>
    rename_i o _
    rw [isGranted_of_asking? hv, (awaits_of_asking? hv).1]
    cases o <;> rfl
  | granted => rfl
  | denied => rfl
  | broken => rfl
  | idle => exact Nat.zero_add _

/-- What the store denies is counted when somebody hears of it. -/
theorem Turn.denials_note (ht : Turn h now caller number s call s' note) (tally : Tally)
    (b : String) :
    (note tally).denials b + (s'.awaitsDenial b).toNat =
      tally.denials b + (s.awaitsDenial b).toNat + (call.any (·.isDenial b)).toNat := by
  cases ht with
  | cancelled hv => rw [(awaits_of_asking? hv).2]; rfl
  | late hv => rw [(awaits_of_asking? hv).2]; rfl
  | failed hv => rw [(awaits_of_asking? hv).2]; rfl
  | asked hv =>
    rename_i o _
    rw [(awaits_of_asking? hv).2]
    cases o <;> simp [Standing.awaitsDenial, Call.isDenial, Outcome.isGranted]
  | granted => rfl
  | denied => simp [Standing.awaitsDenial]
  | broken => simp [Standing.awaitsDenial]
  | idle => rfl

/-! ### Everybody -/

/-- What the store has handed out, given where the callers stand. -/
structure Account (h : Gatehouse σ) (cs : List Caller) (ms : List (Move σ)) (c : Crowd σ) :
    Prop where
  /-- Each caller stands where it can stand. -/
  stands : ∀ n caller s, c.callers[n]? = some (caller, s) →
    cs[n]? = some caller ∧ Stands caller (answers h n ms) s
  /-- The grants that have been counted are those that somebody has taken home. -/
  granted : c.tally.granted = c.callers.countP (·.2.isGranted)
  /-- The grants of the store have been taken home or are about to be heard of. -/
  grants : (calls h ms).countP (·.isGrant) =
    c.callers.countP (·.2.isGranted) + c.callers.countP (·.2.awaitsGrant)
  /-- The denials of the store have been counted or are about to be heard of. -/
  denials : ∀ b, (calls h ms).countP (·.isDenial b) =
    c.tally.denials b + c.callers.countP (·.2.awaitsDenial b)

theorem account_ofCallers (cs : List Caller) (state : σ) :
    Account h cs [] (ofCallers cs state) := by
  have hzero (P : Standing → Bool) (hP : P .coming = false) :
      (ofCallers cs state).callers.countP (P ·.2) = 0 := by
    rw [ofCallers, List.countP_map, List.countP_eq_zero]
    intro x _
    simp [hP]
  refine ⟨?_, ?_, ?_, ?_⟩
  · intro n caller s hn
    change (cs.map (·, Standing.coming))[n]? = _ at hn
    rw [List.getElem?_map] at hn
    obtain ⟨caller', hcs, heq⟩ := Option.map_eq_some_iff.1 hn
    cases heq
    exact ⟨hcs, .coming⟩
  · rw [hzero _ rfl]
    rfl
  · rw [hzero _ rfl, hzero _ rfl]
    rfl
  · intro b
    rw [hzero _ rfl]
    rfl

theorem countP_set (P : Standing → Bool) {callers : List (Caller × Standing)} {n : Nat}
    (hn : callers[n]? = some (caller, s)) (s' : Standing) :
    (callers.set n (caller, s')).countP (P ·.2) + (P s).toNat =
      callers.countP (P ·.2) + (P s').toNat := by
  obtain ⟨hlt, heq⟩ := List.getElem?_eq_some_iff.1 hn
  have hle := List.boole_getElem_le_countP (p := fun x : Caller × Standing => P x.2) hlt
  rw [List.countP_set hlt]
  rw [heq] at hle ⊢
  cases hs : P s <;> cases hs' : P s' <;> simp_all

theorem Move.after_eq (hn : m.before.callers[m.number]? = some (caller, s)) :
    ∃ s' state note, Turn (m.house h) m.now caller m.number s (m.call? h) s' note ∧
      m.after h = ⟨m.before.callers.set m.number (caller, s'), m.now, state,
        note m.before.tally⟩ := by
  obtain ⟨note, ht, htally⟩ :=
    serves (m.house h) m.now caller m.number s m.before.state m.before.tally
  have hcall : m.call? h =
      Crowd.call? (m.house h) m.now caller m.number s m.before.state := by
    rw [Move.call?, hn]
    rfl
  rw [hcall]
  refine ⟨_, (serve (m.house h) m.now caller m.number s m.before.state m.before.tally).2.1, note,
    ht, ?_⟩
  rw [← htally, Move.after, hn]

theorem Move.number_of_call? {call : Call} (hcall : m.call? h = some call) :
    call.number = m.number := by
  rw [Move.call?] at hcall
  obtain ⟨x, -, hx⟩ := Option.bind_eq_some_iff.1 hcall
  obtain ⟨v, -, rfl⟩ := Option.map_eq_some_iff.1 hx
  rfl

theorem answers_append_self :
    answers h m.number (ms ++ [m]) =
      answers h m.number ms ++ ((m.call? h).map (·.answer)).toList := by
  unfold answers
  rw [calls_append]
  cases hcall : m.call? h with
  | none => simp
  | some call => simp [Move.number_of_call? hcall]

theorem answers_append_of_ne {n : Nat} (hn : m.number ≠ n) :
    answers h n (ms ++ [m]) = answers h n ms := by
  unfold answers
  rw [calls_append]
  cases hcall : m.call? h with
  | none => simp
  | some call => simp [Move.number_of_call? hcall, hn]

theorem countP_calls_append (P : Call → Bool) :
    (calls h (ms ++ [m])).countP P = (calls h ms).countP P + ((m.call? h).any P).toNat := by
  rw [calls_append, List.countP_append]
  cases hcall : m.call? h with
  | none => rfl
  | some call => cases hP : P call <;> simp [hP]

/-- **A turn keeps the account.** -/
theorem Account.after {cs : List Caller} (ha : Account h cs ms m.before) :
    Account h cs (ms ++ [m]) (m.after h) := by
  cases hn : m.before.callers[m.number]? with
  | none =>
    -- There is nobody of that number, and nothing happens.
    have hcall : m.call? h = none := by rw [Move.call?, hn]; rfl
    have hafter : m.after h = m.before := by rw [Move.after, hn]
    have hcalls : calls h (ms ++ [m]) = calls h ms := by
      rw [calls_append, hcall, Option.toList_none, List.append_nil]
    rw [hafter]
    refine ⟨fun n caller s hc => ?_, ha.granted, ?_, ?_⟩
    · rw [answers, hcalls]
      exact ha.stands n caller s hc
    · rw [hcalls]
      exact ha.grants
    · rw [hcalls]
      exact ha.denials
  | some x =>
    obtain ⟨caller, s⟩ := x
    obtain ⟨s', state, note, ht, hafter⟩ := Move.after_eq (h := h) hn
    obtain ⟨hcaller, hs⟩ := ha.stands _ _ _ hn
    have hgranted := countP_set Standing.isGranted hn s'
    have hawaits := countP_set Standing.awaitsGrant hn s'
    rw [hafter]
    refine ⟨fun n caller' s'' hc => ?_, ?_, ?_, fun b => ?_⟩
    · change (m.before.callers.set m.number (caller, s'))[n]? = _ at hc
      by_cases hne : m.number = n
      · subst hne
        rw [List.getElem?_set_self (List.getElem?_eq_some_iff.1 hn).1] at hc
        cases hc
        rw [answers_append_self]
        exact ⟨hcaller, hs.turn ht⟩
      · rw [List.getElem?_set_ne hne] at hc
        rw [answers_append_of_ne hne]
        exact ha.stands n caller' s'' hc
    · have hnote := ht.granted_note m.before.tally
      have := ha.granted
      dsimp only
      omega
    · have hgrants := ht.grants
      have := ha.grants
      rw [countP_calls_append]
      dsimp only
      omega
    · have hnote := ht.denials_note m.before.tally b
      have hdenials := countP_set (Standing.awaitsDenial b) hn s'
      have := ha.denials b
      rw [countP_calls_append]
      dsimp only
      omega

/-- **The account of every history.** -/
theorem History.account {cs : List Caller} {state : σ}
    (history : History h (ofCallers cs state) ms c) : Account h cs ms c := by
  induction history with
  | start => exact account_ofCallers cs state
  | turn _ now number latency ih => exact ih.after
  | meanwhile _ state ih => exact ⟨ih.stands, ih.granted, ih.grants, ih.denials⟩

/-! ### The main result -/

theorem History.of_mem (history : History h c₀ ms c) (hm : m ∈ ms) :
    ∃ ms', History h c₀ ms' m.before := by
  induction history with
  | start => cases hm
  | turn history now number latency ih =>
    rcases List.mem_append.1 hm with hm | hm
    · exact ih hm
    · obtain rfl := List.mem_singleton.1 hm
      exact ⟨_, history⟩
  | meanwhile _ _ ih => exact ih hm

/-- A turn asks the store for its caller's bucket, before the deadline and before the token has
fired. -/
def Move.Timely (h : Gatehouse σ) (cs : List Caller) (m : Move σ) : Prop :=
  ∀ call, m.call? h = some call → ∃ caller, cs[call.number]? = some caller ∧
    call.bucket = caller.bucket ∧ (∀ t, caller.cancel = some t → m.now < t) ∧
    ∀ d, caller.deadline = some d → m.now < d

theorem Account.timely {cs : List Caller} (ha : Account h cs ms m.before) : m.Timely h cs := by
  intro call hcall
  obtain ⟨⟨caller, s⟩, hn, hx⟩ := Option.bind_eq_some_iff.1 hcall
  obtain ⟨v, hv, rfl⟩ := Option.map_eq_some_iff.1 hx
  obtain ⟨hasking, hmay⟩ := Option.filter_eq_some_iff.1 hv
  obtain ⟨hcaller, hs⟩ := ha.stands _ _ _ hn
  obtain ⟨hbelongs, -⟩ := hs.of_asking? hasking
  simp only [Caller.mayAsk, Bool.and_eq_true, Bool.not_eq_true'] at hmay
  refine ⟨caller, hcaller, hbelongs.bucket, fun t ht => ?_, fun d hd => ?_⟩
  · have := hmay.1
    simpa [Caller.isCancelled, ht] using this
  · have := hmay.2
    simpa [Gate.isLate, hbelongs.deadline, hd] using this

/-- **The books balance.** -/
structure Balances (h : Gatehouse σ) (cs : List Caller) (ms : List (Move σ)) (c : Crowd σ) :
    Prop where
  /-- The grant that a caller takes home is the last thing that the store told it. Everything before
  was a denial, and the caller has counted them as far as it can count. -/
  granted : ∀ n caller t v r, c.callers[n]? = some (caller, .ended t v (.granted r)) →
    ∃ as, answers h n ms = as ++ [.ok (.granted r)] ∧
      (∀ a ∈ as, ∃ hint, a = .ok (.denied hint)) ∧ v.denials.toNat = min as.length 4294967295
  /-- A caller that goes home with anything else was granted nothing. -/
  refused : ∀ n caller t v verdict, c.callers[n]? = some (caller, .ended t v verdict) →
    (∀ r, verdict ≠ .granted r) → ∀ r, .ok (.granted r) ∉ answers h n ms
  /-- Nobody asks the store at or after its deadline, or once its token has fired. -/
  timely : ∀ m ∈ ms, m.Timely h cs
  /-- The counter of grants agrees with what callers have taken home. -/
  counted : c.tally.granted = c.callers.countP (·.2.isGranted)
  /-- Once nobody waits for the store, what it has granted has been taken home. -/
  grants : (∀ x ∈ c.callers, x.2.awaits = false) →
    (calls h ms).countP (·.isGrant) = c.tally.granted
  /-- Once nobody waits for the store, the counter of each bucket agrees with what it has denied. -/
  denials : (∀ x ∈ c.callers, x.2.awaits = false) →
    ∀ b, c.tally.denials b = (calls h ms).countP (·.isDenial b)

theorem Denied.not_granted (hd : Denied v as) (r : UInt32) : .ok (.granted r) ∉ as := by
  intro hr
  obtain ⟨hint, heq⟩ := hd.denials _ hr
  cases heq

theorem Stands.of_granted {t : Instant} {r : UInt32}
    (hs : Stands caller as (.ended t v (.granted r))) :
    ∃ as', as = as' ++ [.ok (.granted r)] ∧ Denied v as' := by
  cases hs with
  | granted hd => exact ⟨_, rfl, hd⟩

theorem Stands.refused {t : Instant} {verdict : Verdict}
    (hs : Stands caller as (.ended t v verdict)) (hv : ∀ r, verdict ≠ .granted r) (r : UInt32) :
    .ok (.granted r) ∉ as := by
  cases hs with
  | granted => exact absurd rfl (hv _)
  | late hd => exact hd.not_granted r
  | cancelled hd => exact hd.not_granted r
  | failed hd =>
    intro hr
    rcases List.mem_append.1 hr with hr | hr
    · exact hd.not_granted r hr
    · cases List.mem_singleton.1 hr

theorem countP_eq_zero_of_awaits {P : Standing → Bool} (hP : ∀ s, s.awaits = false → P s = false)
    (hall : ∀ x ∈ c.callers, x.2.awaits = false) : c.callers.countP (P ·.2) = 0 := by
  rw [List.countP_eq_zero]
  intro x hx
  rw [hP _ (hall x hx)]
  exact Bool.false_ne_true

theorem awaitsGrant_of_awaits (hs : s.awaits = false) : s.awaitsGrant = false := by
  unfold Standing.awaits at hs
  unfold Standing.awaitsGrant
  split
  · cases hs
  · rfl

theorem awaitsDenial_of_awaits {b : String} (hs : s.awaits = false) :
    s.awaitsDenial b = false := by
  unfold Standing.awaits at hs
  unfold Standing.awaitsDenial
  split
  · cases hs
  · rfl

/-- **After every history of a crowd the books balance**, whatever the store answers. -/
theorem History.counts_balance {cs : List Caller} {state : σ}
    (history : History h (ofCallers cs state) ms c) : Balances h cs ms c := by
  have ha := history.account
  refine ⟨?_, ?_, ?_, ha.granted, ?_, ?_⟩
  · intro n caller t v r hn
    obtain ⟨as, has, hd⟩ := (ha.stands _ _ _ hn).2.of_granted
    exact ⟨as, has, hd.denials, hd.count⟩
  · intro n caller t v verdict hn hv
    exact (ha.stands _ _ _ hn).2.refused hv
  · intro m hm
    obtain ⟨ms', history'⟩ := history.of_mem hm
    exact history'.account.timely
  · intro hall
    have hnone := countP_eq_zero_of_awaits (P := Standing.awaitsGrant)
      (fun _ => awaitsGrant_of_awaits) hall
    have := ha.grants
    have := ha.granted
    omega
  · intro hall b
    have hnone := countP_eq_zero_of_awaits (P := Standing.awaitsDenial b)
      (fun _ => awaitsDenial_of_awaits) hall
    have := ha.denials b
    omega

/-- A gate without chance before a unit every ten milliseconds. -/
def narrowGate : Gatehouse (Catalog Bucket) :=
  ⟨⟨⟨.ofMillis 10, .ofMillis 10, 0.0⟩, fun _ _ => 0⟩, Memory.store ⟨1, .ofMillis 10⟩, .epoch, 0⟩

/-- Two callers that come together. -/
def pair : List Caller := [⟨0, "b", none, none⟩, ⟨0, "b", some 20000000, some 15000000⟩]

/-- The second caller is denied once, sleeps, and is granted a unit of the next window. -/
theorem counts_balance_pair :
    let c := (ofCallers pair .empty).run narrowGate 8
    Balances narrowGate pair (moves narrowGate 8 (ofCallers pair .empty)) c ∧
      c.tally.granted = 2 ∧ c.tally.denials "b" = 1 :=
  ⟨(History.start.run 8).counts_balance, by decide, by decide⟩

/-! ### The count of a caller is bounded -/

/-- A store that denies as often as its state says, and then grants. -/
def countdown : Store Nat where
  get now id n := (.ok (Bucket.fresh id .standard now), n)
  take _ _ _ n :=
    match n with
    | 0 => (.ok (.granted 0), 0)
    | n + 1 => (.ok (.denied .zero), n)
  correct _ _ _ n := (.ok (), n)
  list _ := .ok []

/-- A gate without chance before the store that grants in the end. -/
def countdownHouse : Gatehouse Nat := ⟨⟨.standard, fun _ _ => 0⟩, countdown, .epoch, 0⟩

/-- A caller that waits as long as it takes. -/
def steadfast : Caller := ⟨0, "b", none, none⟩

theorem mayAsk_steadfast (hd : v.deadline = none) (now : Instant) :
    steadfast.mayAsk v now = true := by
  simp [Caller.mayAsk, Caller.isCancelled, Gate.isLate, steadfast, hd]

/-- It is granted a unit after as many denials as the store has in store for it. -/
theorem leads_countdown {i : Instant} (hv : s.asking? steadfast 0 = some v)
    (hd : v.deadline = none) (hdue : steadfast.due? s = some i) (n : Nat) (now : Instant)
    (tally : Tally) :
    ∃ at' v' tally', Leads countdownHouse (alone steadfast s now n tally)
      (List.replicate n ⟨0, v.bucket, .ok (.denied .zero)⟩ ++ [⟨0, v.bucket, .ok (.granted 0)⟩])
      (alone steadfast (.ended at' v' (.granted 0)) at' 0 tally') := by
  have hp : Backoff.standard.IsPossible := Backoff.isPossible (by decide)
  -- Each denial sends the caller to sleep; it wakes in the same state with one denial more.
  induction n generalizing s v i now tally with
  | zero =>
    exact ⟨_, _, _, leads_answered hv hdue rfl (mayAsk_steadfast hd _) rfl hear_granted⟩
  | succ n ih =>
    have hleads : Leads countdownHouse (alone steadfast s now (n + 1) tally)
        [⟨0, v.bucket, .ok (.denied .zero)⟩] _ :=
      leads_answered hv hdue rfl (mayAsk_steadfast hd _) rfl (hear_of_isPossible (hp _ _))
    obtain ⟨at', v', tally', hrest⟩ := ih
      (s := .waits { v with denials := Gate.countDenial v.denials }
        (.wake (Gate.wakeTick v (max now i) (countdownHouse.gate.sleep v .zero))))
      rfl hd rfl (max now i) (tally.deny v.bucket)
    exact ⟨at', v', tally', hleads.trans hrest⟩

/-- It takes home a unit and the number of its denials, as far as it can count. -/
theorem granted_after (n : Nat) : ∃ fuel at' v,
    ((ofCallers [steadfast] n).run countdownHouse fuel).callers =
        [(steadfast, .ended at' v (.granted 0))] ∧
      answers countdownHouse 0 (moves countdownHouse fuel (ofCallers [steadfast] n)) =
        List.replicate n (.ok (.denied .zero)) ++ [.ok (.granted 0)] ∧
      v.denials.toNat = min n 4294967295 := by
  obtain ⟨at', v, tally, hleads⟩ := leads_countdown (s := .coming) rfl rfl rfl n 0 .zero
  obtain ⟨fuel, hrun, hcalls⟩ := hleads.run
  have hcallers : ((ofCallers [steadfast] n).run countdownHouse fuel).callers =
      [(steadfast, .ended at' v (.granted 0))] := congrArg Crowd.callers hrun
  have hanswers : answers countdownHouse 0 (moves countdownHouse fuel (ofCallers [steadfast] n)) =
      List.replicate n (.ok (.denied .zero)) ++ [.ok (.granted 0)] := by
    rw [answers, ofCallers_singleton, hcalls]
    simp
  -- The account says how far it has counted.
  have hstands := (History.account (History.start.run (h := countdownHouse) fuel)).stands 0
    steadfast (.ended at' v (.granted 0)) (by rw [hcallers]; rfl)
  obtain ⟨as, has, hdenied⟩ := hstands.2.of_granted
  rw [List.nil_append, hanswers] at has
  obtain ⟨rfl, -⟩ := List.append_inj' has rfl
  refine ⟨fuel, at', v, hcallers, hanswers, ?_⟩
  rw [hdenied.count, List.length_replicate]

/-- **A caller does not count beyond what its count can hold.** It has been denied `2 ^ 32` times
before its grant, and reports one denial less. -/
theorem counts_no_further : ∃ fuel at' v,
    ((ofCallers [steadfast] 4294967296).run countdownHouse fuel).callers =
        [(steadfast, .ended at' v (.granted 0))] ∧
      answers countdownHouse 0 (moves countdownHouse fuel (ofCallers [steadfast] 4294967296)) =
        List.replicate 4294967296 (.ok (.denied .zero)) ++ [.ok (.granted 0)] ∧
      v.denials.toNat = 4294967295 :=
  granted_after 4294967296

end Crowd

end Sluice
