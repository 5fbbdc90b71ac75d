import Sluice.Proofs.Dispatch.Asking

/-!
# What a turn gives to the queue

In a turn an invocation offers one message at most to the queue. The unit that it was granted is
spent when the message is accepted, and otherwise held or lost: to the token, to the deadline, to an
id that is pending already, to a refusal.

* `Invocation.offers?`, `Invocation.sends?` : what an invocation offers to the queue, and what is
  accepted;
* `Invocation.Serves` : what a turn comes to, by what it offers;
* `Invocation.line_turn` : nothing else happens to the queue;
* `Invocation.spends_turn` : a unit is held or spent, and not both, and it was granted;
* `Traffic.Move.state_after`, `Traffic.Move.line_after` : what any move does to the store and the
  queue.
-/

namespace Sluice

variable {σ τ : Type} {d : Dispatcher σ τ} {k : Consumer} {now : Tick} {b : String}

namespace Invocation

variable {number : Nat} {i : Invocation} {s : Shared σ τ} {v : Visit} {deadline : Instant}
  {r : Request}

/-! ### The queue -/

/-- The request of which an invocation offers the message to the queue in a turn. -/
def offers? (d : Dispatcher σ τ) (number : Nat) (now : Tick) (i : Invocation) (s : Shared σ τ) :
    Option Request :=
  match i.phase with
  | .handing _ _ r => some r
  | _ =>
    if (s.board.table.find? i.plan.id).isSome then none
    else (i.grant? d number now s).map fun v => i.plan.request d v now

/-- The request of which the queue accepts the message in a turn. -/
def sends? (d : Dispatcher σ τ) (number : Nat) (now : Tick) (i : Invocation) (s : Shared σ τ) :
    Option Request :=
  (i.offers? d number now s).filter fun r =>
    (d.queue.offer number r.toUtf8 s.line).1 = .accepted

theorem offers?_of_handing {ticket : Nat} (hp : i.phase = .handing deadline ticket r) :
    i.offers? d number now s = some r := by
  rw [offers?, hp]

theorem offers?_of_atGate (hg : i.AtGate d now deadline) : i.offers? d number now s =
    if (s.board.table.find? i.plan.id).isSome then none
    else (i.grant? d number now s).map fun v => i.plan.request d v now := by
  unfold AtGate at hg
  unfold offers?
  split
  · rename_i hp
    rw [hp] at hg
    exact hg.elim
  · rfl

/-- Neither a cancelled nor a late invocation is granted anything. -/
theorem grant?_eq_none (hg : i.AtGate d now deadline)
    (h : i.plan.isCancelled now = true ∨ deadline ≤ Tick.instant now) :
    i.grant? d number now s = none := by
  by_contra hne
  obtain ⟨v, hv⟩ := Option.ne_none_iff_exists'.1 hne
  obtain ⟨deadline', hg', hc, hd⟩ := grant?_spec hv
  -- At the gate there is one deadline.
  have hdeadline : deadline' = deadline := by
    unfold AtGate at hg hg'
    split at hg
    · rename_i hp
      simp only [hp] at hg'
      exact hg'.1.trans hg.1.symm
    · rename_i hp
      simp only [hp] at hg'
      exact hg'.trans hg.symm
    · exact hg.elim
  subst hdeadline
  rcases h with h | h
  · exact Bool.false_ne_true (hc.symm.trans h)
  · exact absurd hd (Int.not_lt.2 h)

theorem isPast_of_isOver (h : i.isOver = true) : i.phase.isPast = true := by
  obtain ⟨p, course, ph⟩ := i
  cases ph with
  | coming | admission | handing | awaiting => cases h
  | ended | dropped | broken => rfl

theorem offers?_eq_none_of_grant? (hg : i.AtGate d now deadline)
    (hgrant : i.grant? d number now s = none) : i.offers? d number now s = none := by
  rw [offers?_of_atGate hg, hgrant]
  split_ifs <;> rfl

theorem offers?_eq_none_of_isPast (hp : i.phase.isPast = true) :
    i.offers? d number now s = none := by
  obtain ⟨p, course, ph⟩ := i
  cases ph with
  | coming | admission | handing => cases hp
  | awaiting | ended | dropped | broken => simp [offers?, grant?]

/-- What a turn comes to, by what it offers. -/
inductive Serves (d : Dispatcher σ τ) (number : Nat) (now : Tick) (i : Invocation)
    (s : Shared σ τ) (v' : View σ τ) : Option Request → Prop where
  | offers {deadline : Instant} {ticket : Nat} {r : Request} {v : View σ τ}
    (hline : v.line = s.line) (hand : Hand d number i.plan now deadline ticket r v v') :
    Serves d number now i s v' (some r)
  | stays (hline : v'.line = s.line) (hp : v'.phase = i.phase) : Serves d number now i s v' none
  | waits {deadline : Instant} {v : Visit} {w : Waiting} (hline : v'.line = s.line)
    (hv : v.deadline = some deadline) (hp : v'.phase = .admission deadline v w)
    (hears : Hears d number now i s (.waits v w)) : Serves d number now i s v' none
  | ends (hline : v'.line = s.line) (hp : v'.phase.isPast = true) : Serves d number now i s v' none

theorem phase_look_ne {ticket : Nat} {deadline' : Instant} {w : Waiting} :
    (i.look d now deadline ticket s).1.phase ≠ .admission deadline' v w := by
  intro h
  have hp : (i.look d now deadline ticket s).1.phase.isPast = true :=
    (look_view now deadline ticket).2.isPast
  rw [h] at hp
  cases hp

theorem phase_hand_ne {ticket : Nat} {deadline' : Instant} {w : Waiting} :
    (i.hand d number now deadline ticket r s).1.phase ≠ .admission deadline' v w := by
  intro h
  have hp : (i.hand d number now deadline ticket r s).1.phase = .handing deadline ticket r ∨
      (i.hand d number now deadline ticket r s).1.phase.isPast = true :=
    (hand_view number now deadline ticket r).2.phase
  rw [h] at hp
  rcases hp with hp | hp <;> cases hp

theorem waits_of_proceed {n : Gate.Next} {deadline' : Instant} {w : Waiting}
    (h : (i.proceed d number now deadline n s).1.phase = .admission deadline' v w) :
    n = .waits v w := by
  unfold proceed relay at h
  split at h
  · cases h
    rfl
  · split at h
    · cases h
    · exact absurd h phase_hand_ne
  · cases h
  · cases h
  · cases h

theorem go_of_attend {go : Shared σ τ → Invocation × Shared σ τ} {deadline' : Instant}
    {w : Waiting} (h : (i.attend d now deadline go s).1.phase = .admission deadline' v w) :
    ¬(i.plan.isCancelled now = true ∨ deadline ≤ Tick.instant now) ∧
      (go s).1.phase = .admission deadline' v w := by
  by_cases hno : i.plan.isCancelled now = true ∨ deadline ≤ Tick.instant now
  · obtain ⟨stage, result, hends⟩ := attend_of (d := d) go s hno
    rw [hends] at h
    cases h
  · rw [attend_of_not hno] at h
    exact ⟨hno, h⟩

/-- An invocation waits at the gate for what it has waited for, or because the gate said so. -/
theorem hears_of_admission {w : Waiting}
    (h : (i.turn d number now s).1.phase = .admission deadline v w) :
    i.phase = .admission deadline v w ∨ Hears d number now i s (.waits v w) := by
  unfold turn at h
  split at h
  · rename_i hp
    unfold start at h
    dsimp only at h
    split at h
    · cases h
    rename_i hclock
    cases hb : bucket d i.plan.call with
    | error f =>
      rw [hb] at h
      cases h
    | ok b =>
      rw [hb] at h
      obtain ⟨hno, h⟩ := go_of_attend h
      rw [← waits_of_proceed h]
      exact Or.inr (.asked (asks?_of_coming hp (Int.not_lt.1 hclock) hb hno))
  · rename_i hp
    obtain ⟨-, h⟩ := go_of_attend h
    split_ifs at h
    · rw [← waits_of_proceed h]
      exact Or.inr (.answered hp)
    · exact Or.inl h
  · rename_i hp
    obtain ⟨hno, h⟩ := go_of_attend h
    split_ifs at h with ht
    · rw [← waits_of_proceed h]
      exact Or.inr (.asked (asks?_of_wake hp ht hno))
    · exact Or.inl h
  -- Whoever has been granted a unit does not come back to the gate.
  · exact absurd h phase_hand_ne
  · exact absurd h phase_look_ne
  · exact Or.inl h
  · exact Or.inl h
  · exact Or.inl h

/-- **A turn offers its message or leaves the queue alone.** -/
theorem serves_turn (hv : i.Visits) : Serves d number now i s (view (i.turn d number now s))
    (i.offers? d number now s) := by
  have hturn : Turn d number now i s (view (i.turn d number now s)) := (turn_view hv).2
  have hhears {deadline : Instant} {v : Visit} {w : Waiting}
      (h : (view (i.turn d number now s)).phase = .admission deadline v w) :
      i.phase = .admission deadline v w ∨ Hears d number now i s (.waits v w) :=
    hears_of_admission h
  generalize view (i.turn d number now s) = v' at hturn hhears ⊢
  cases hturn with
  | idle h =>
    rw [offers?_eq_none_of_isPast (isPast_of_isOver h)]
    exact .stays rfl rfl
  | broken hbreak hgrant =>
    have hnone : i.offers? d number now s = none := by
      rcases hbreak with ⟨hp, -⟩ | ⟨⟨deadline, hg⟩, -⟩
      · simp [offers?, hgrant, hp]
      · exact offers?_eq_none_of_grant? hg hgrant
    rw [hnone]
    exact .ends rfl rfl
  | misdirected hp _ hb =>
    have hnone : i.offers? d number now s = none := by
      simp [offers?, grant?, hp, hb]
    rw [hnone]
    exact .ends rfl rfl
  | cancelled hg hc =>
    rw [offers?_eq_none_of_grant? hg (grant?_eq_none hg (Or.inl hc))]
    exact .ends rfl rfl
  | late hg _ hd =>
    rw [offers?_eq_none_of_grant? hg (grant?_eq_none hg (Or.inr hd))]
    exact .ends rfl rfl
  | failed hg hgrant =>
    rw [offers?_eq_none_of_grant? hg hgrant]
    exact .ends rfl rfl
  | waits hg _ _ hv hgrant =>
    rw [offers?_eq_none_of_grant? hg hgrant]
    -- A turn that comes too early finds nothing to do.
    rcases hhears rfl with hp | hears
    · exact .stays rfl hp.symm
    · exact .waits rfl hv rfl hears
  | duplicate hg _ hfind =>
    rw [offers?_of_atGate hg, hfind]
    exact .ends rfl rfl
  | granted hg _ _ hgrant hfind hand =>
    rw [offers?_of_atGate hg, hfind, hgrant]
    exact .offers rfl hand
  | handing hp hand =>
    rw [offers?_of_handing hp]
    exact .offers rfl hand
  | awaiting hp look =>
    rw [offers?_eq_none_of_isPast (by rw [hp]; rfl)]
    exact .ends look.line_eq look.isPast

theorem line_turn (hv : i.Visits) : (i.turn d number now s).2.line =
    (i.offers? d number now s).elim s.line fun r => (d.queue.offer number r.toUtf8 s.line).2 := by
  have hserves : Serves d number now i s (view (i.turn d number now s))
      (i.offers? d number now s) := serves_turn hv
  cases ho : i.offers? d number now s with
  | none =>
    rw [ho] at hserves
    cases hserves with
    | stays hline | waits hline | ends hline => exact hline
  | some r =>
    rw [ho] at hserves
    cases hserves with
    | offers hline hand => exact hline ▸ hand.line_eq

theorem turn_of_isOver (h : i.isOver = true) : i.turn d number now s = (i, s) := by
  obtain ⟨p, course, ph⟩ := i
  cases ph with
  | coming | admission | handing | awaiting => cases h
  | ended | dropped | broken => rfl

theorem abort_of_isOver (h : i.isOver = true) : i.abort d number s = (i, s) := by
  obtain ⟨p, course, ph⟩ := i
  cases ph with
  | coming | admission | handing | awaiting => cases h
  | ended | dropped | broken => rfl

theorem isPast_abort : (i.abort d number s).1.phase.isPast = true := by
  obtain ⟨p, course, ph⟩ := i
  cases ph <;> rfl

theorem state_abort : (i.abort d number s).2.state = s.state := by
  obtain ⟨p, course, ph⟩ := i
  cases ph <;> rfl

/-- An invocation that is dropped leaves the line, if it stood there. -/
theorem line_abort : (i.abort d number s).2.line = s.line ∨
    (i.abort d number s).2.line = d.queue.withdraw number s.line := by
  obtain ⟨p, course, ph⟩ := i
  cases ph with
  | handing => exact Or.inr rfl
  | coming | admission | awaiting | ended | dropped | broken => exact Or.inl rfl

/-! ### Units are held or spent -/

/-- What becomes of the unit that an invocation has: it is held, or spent on a message that is sent,
or lost. -/
inductive Spends (has : String → Prop) : Option String → Option Request → Prop where
  | nothing : Spends has none none
  | holds {b : String} (h : has b) : Spends has (some b) none
  | sends {r : Request} (h : has r.bucketId) : Spends has none (some r)

theorem has_of_offers? (h : i.offers? d number now s = some r) :
    i.Has d number now s r.bucketId := by
  unfold offers? at h
  split at h
  · rename_i hp
    cases h
    unfold Has
    rw [hp]
    exact Or.inl rfl
  · split_ifs at h
    obtain ⟨v, hgrant, rfl⟩ := Option.map_eq_some_iff.1 h
    exact (has_of_grant? hgrant).2

/-- What is held was had, and nothing has been sent. -/
theorem Spends.of_held {has : String → Prop} {held : Option String}
    (h : ∀ b, held = some b → has b) : Spends has held none := by
  cases held with
  | none => exact .nothing
  | some b => exact .holds (h b rfl)

/-- What is sent or held is no more than what was held and has been granted. -/
theorem Spends.le {held unit after : Option String} {sent : Option Request}
    (h : Spends (fun b => held = some b ∨ unit = some b) after sent) (b : String) :
    sent.toList.countP (·.bucketId = b) + (if after = some b then 1 else 0) ≤
      (if held = some b then 1 else 0) + unit.toList.countP (· = b) := by
  have hone {b' : String} (h : held = some b' ∨ unit = some b') :
      (if b' = b then 1 else 0) ≤
        (if held = some b then 1 else 0) + unit.toList.countP (· = b) := by
    by_cases hb : b' = b
    · subst hb
      rcases h with rfl | rfl <;> simp
    · rw [if_neg hb]
      exact Nat.zero_le _
  cases h with
  | nothing => simp
  | holds h => simpa using hone h
  | sends h => simpa using hone h

/-- **In a turn a unit is held or spent, and not both.** -/
theorem spends_turn (hv : i.Visits) : Spends (i.Has d number now s)
    (i.turn d number now s).1.phase.holds? (i.sends? d number now s) := by
  change Spends _ (view (i.turn d number now s)).phase.holds? _
  have hserves : Serves d number now i s (view (i.turn d number now s))
      (i.offers? d number now s) := serves_turn hv
  unfold sends?
  generalize view (i.turn d number now s) = v' at hserves ⊢
  -- What is spent is spent by offering a message; without an offer the unit is kept or given up.
  cases ho : i.offers? d number now s with
  | none =>
    rw [ho] at hserves
    cases hserves with
    | stays _ hp =>
      rw [hp]
      exact .of_held fun b hb => Or.inl hb
    | waits _ _ hp hears =>
      rw [hp]
      exact .of_held fun b hb => hears.has hb
    | ends _ hp =>
      rw [Phase.holds?_of_isPast hp]
      exact .nothing
  | some r =>
    have hhas := has_of_offers? ho
    rw [ho] at hserves
    cases hserves with
    | offers hline hand =>
      rw [← hline, Option.filter_some]
      cases hand with
      | later hoffer =>
        rw [hoffer]
        exact .holds hhas
      | refused hoffer =>
        rw [hoffer]
        exact .nothing
      | accepted hoffer look =>
        rw [hoffer, Phase.holds?_of_isPast look.isPast]
        exact .sends hhas

end Invocation

/-! ### Moves -/

theorem Traffic.line_consume (d : Dispatcher σ τ) (k : Consumer) (t : Traffic σ τ) :
    (t.consume d k).shared.line = t.shared.line ∨
      ∃ bytes, d.queue.receive t.shared.line = some (bytes, (t.consume d k).shared.line) := by
  unfold consume
  split
  · exact Or.inl rfl
  · rename_i bytes line hreceive
    refine Or.inr ⟨bytes, ?_⟩
    rw [hreceive]
    dsimp only
    split <;> rfl

namespace Traffic.Move

variable {m : Move σ τ} {i : Invocation} {n : Nat} {α : Type} {f : Nat → Invocation → Option α}

/-- What comes of the turn that an invocation has in a move, with the number of the invocation. -/
def inTurn? (m : Move σ τ) (f : Nat → Invocation → Option α) : Option (Nat × α) :=
  match m.errand with
  | .turn n => (m.before.invocations[n]?.bind (f n)).map (n, ·)
  | _ => none

/-- The visit with which an invocation asks the store in a move. -/
def asks? (d : Dispatcher σ τ) (m : Move σ τ) : Option (Nat × Visit) :=
  m.inTurn? fun n i => i.asks? d n m.tick

/-- The bucket of the unit that an invocation is granted in a move. -/
def unit? (d : Dispatcher σ τ) (m : Move σ τ) : Option (Nat × String) :=
  m.inTurn? fun n i => i.unit? d n m.tick m.before.shared

/-- The request that an invocation offers to the queue in a move. -/
def offers? (d : Dispatcher σ τ) (m : Move σ τ) : Option (Nat × Request) :=
  m.inTurn? fun n i => i.offers? d n m.tick m.before.shared

/-- The request of an invocation that the queue accepts in a move. -/
def sends? (d : Dispatcher σ τ) (m : Move σ τ) : Option (Nat × Request) :=
  m.inTurn? fun n i => i.sends? d n m.tick m.before.shared

theorem inTurn?_turn (he : m.errand = .turn n) (hi : m.before.invocations[n]? = some i) :
    m.inTurn? f = (f n i).map (n, ·) := by
  rw [inTurn?, he]
  simp only [hi, Option.bind_some]

theorem inTurn?_of_none (he : m.errand = .turn n) (hi : m.before.invocations[n]? = none) :
    m.inTurn? f = none := by
  rw [inTurn?, he]
  simp only [hi, Option.bind_none, Option.map_none]

theorem inTurn?_of_ne (h : ∀ n, m.errand ≠ .turn n) : m.inTurn? f = none := by
  unfold inTurn?
  split
  · rename_i he
    exact absurd he (h _)
  · rfl

theorem inTurn?_eq_some {x : Nat × α} (h : m.inTurn? f = some x) :
    m.errand = .turn x.1 ∧ ∃ i, m.before.invocations[x.1]? = some i ∧ f x.1 i = some x.2 := by
  unfold inTurn? at h
  split at h
  · rename_i n he
    obtain ⟨a, ha, rfl⟩ := Option.map_eq_some_iff.1 h
    obtain ⟨i, hi, hf⟩ := Option.bind_eq_some_iff.1 ha
    exact ⟨he, i, hi, hf⟩
  · cases h

theorem after_abort (he : m.errand = .abort n) (hi : m.before.invocations[n]? = some i) :
    (m.after d k).invocations = m.before.invocations.set n (i.abort d n m.before.shared).1 ∧
      (m.after d k).shared = (i.abort d n m.before.shared).2 := by
  rw [after, he, perform, act_eq (t := { m.before with now := m.tick }) hi]
  exact ⟨rfl, rfl⟩

theorem after_turn (he : m.errand = .turn n) (hi : m.before.invocations[n]? = some i) :
    (m.after d k).invocations = m.before.invocations.set n (i.turn d n m.tick m.before.shared).1 ∧
      (m.after d k).shared = (i.turn d n m.tick m.before.shared).2 := by
  rw [after, he, perform, act_eq (t := { m.before with now := m.tick }) hi]
  exact ⟨rfl, rfl⟩

theorem after_of_none (he : m.errand = .abort n ∨ m.errand = .turn n)
    (hi : m.before.invocations[n]? = none) :
    (m.after d k).invocations = m.before.invocations ∧
      (m.after d k).shared = m.before.shared := by
  rcases he with he | he
  · rw [after, he, perform, act_of_none (t := { m.before with now := m.tick }) hi]
    exact ⟨rfl, rfl⟩
  · rw [after, he, perform, act_of_none (t := { m.before with now := m.tick }) hi]
    exact ⟨rfl, rfl⟩

/-- **The store changes by what it is asked.** -/
theorem state_after (hv : ∀ i ∈ m.before.invocations, i.Visits) :
    (m.after d k).shared.state = (m.asks? d).elim m.before.shared.state fun x =>
      (d.store.take (Tick.clock d.start m.tick) x.2.bucket 1 m.before.shared.state).2 := by
  cases he : m.errand with
  | deliver | sweep =>
    rw [asks?, inTurn?_of_ne (by simp [he]), after, he]
    rfl
  | consume =>
    rw [asks?, inTurn?_of_ne (by simp [he]), after, he]
    exact (shared_consume d k _).1
  | abort n =>
    rw [asks?, inTurn?_of_ne (by simp [he])]
    cases hi : m.before.invocations[n]? with
    | none => rw [(after_of_none (Or.inl he) hi).2, Option.elim_none]
    | some i => rw [(after_abort he hi).2, Invocation.state_abort, Option.elim_none]
  | turn n =>
    cases hi : m.before.invocations[n]? with
    | none =>
      rw [asks?, inTurn?_of_none he hi, (after_of_none (Or.inr he) hi).2, Option.elim_none]
    | some i =>
      rw [asks?, inTurn?_turn he hi, (after_turn he hi).2,
        Invocation.state_turn (hv i (List.mem_of_getElem? hi))]
      cases i.asks? d n m.tick <;> rfl

/-- **The queue changes by what it is offered**, by a sender that goes away, and by what the
consumer takes out. -/
theorem line_after (hv : ∀ i ∈ m.before.invocations, i.Visits) :
    (∃ x, m.offers? d = some x ∧ (m.after d k).shared.line =
        (d.queue.offer x.1 x.2.toUtf8 m.before.shared.line).2) ∨
      m.offers? d = none ∧ ((m.after d k).shared.line = m.before.shared.line ∨
        (∃ n, (m.after d k).shared.line = d.queue.withdraw n m.before.shared.line) ∨
        ∃ bytes, d.queue.receive m.before.shared.line =
          some (bytes, (m.after d k).shared.line)) := by
  cases he : m.errand with
  | deliver | sweep =>
    refine Or.inr ⟨inTurn?_of_ne (by simp [he]), Or.inl ?_⟩
    rw [after, he]
    rfl
  | consume =>
    refine Or.inr ⟨inTurn?_of_ne (by simp [he]), ?_⟩
    rw [after, he]
    exact (line_consume d k { m.before with now := m.tick }).imp_right Or.inr
  -- Somebody who is dropped may have stood in line.
  | abort n =>
    refine Or.inr ⟨inTurn?_of_ne (by simp [he]), ?_⟩
    cases hi : m.before.invocations[n]? with
    | none => exact Or.inl (congrArg Shared.line (after_of_none (Or.inl he) hi).2)
    | some i =>
      rw [(after_abort he hi).2]
      exact Invocation.line_abort.imp_right fun h => Or.inl ⟨n, h⟩
  | turn n =>
    cases hi : m.before.invocations[n]? with
    | none =>
      refine Or.inr ⟨inTurn?_of_none he hi, Or.inl ?_⟩
      rw [(after_of_none (Or.inr he) hi).2]
    | some i =>
      rw [offers?, inTurn?_turn he hi, (after_turn he hi).2,
        Invocation.line_turn (hv i (List.mem_of_getElem? hi))]
      cases i.offers? d n m.tick m.before.shared with
      | none => exact Or.inr ⟨rfl, Or.inl rfl⟩
      | some r => exact Or.inl ⟨_, rfl, rfl⟩

end Traffic.Move

end Sluice
