import Sluice.Proofs.Dispatch.Registration

/-!
# What an invocation sees of the table

An invocation sees its own entry and its own box, and no others. So it does the same on two shares
that agree about these, whatever else there is in their tables, and leaves them so that they agree
again.

* `Table.Agree` : two tables agree about one entry and one box;
* `Shared.Alike` : two shares agree about all but the entries and the boxes;
* `Invocation.Same` : an invocation has come to the same, and the shares agree about it;
* `Invocation.same_turn`, `Invocation.same_abort` : a turn on two shares that agree comes to the
  same, and so does dropping the invocation;
* `Invocation.same_look_of_expired` : whether somebody else has expired an overdue entry or the
  invocation has to do it itself, it comes to the same.
-/

namespace Sluice

variable {σ τ : Type}

/-- What has been counted, apart from the number of pending entries. -/
def Tally.apart (t : Tally) : Tally := t.setPending 0

/-! ### Tables and boards -/

namespace Table

variable {id : Uuid} {own : Option Nat} {t t' : Table}

/-- Two tables agree about the entry of an id and the box of `own`. -/
structure Agree (id : Uuid) (own : Option Nat) (t t' : Table) : Prop where
  find? : t.find? id = t'.find? id
  box : ∀ m, own = some m → t.box m = t'.box m

theorem Agree.of_absent (h : t.find? id = none) (h' : t'.find? id = none) : Agree id none t t' :=
  ⟨h.trans h'.symm, nofun⟩

theorem agree_deregister (t t' : Table) (id : Uuid) :
    Agree id none (t.deregister id).2 (t'.deregister id).2 :=
  .of_absent (find?_deregister t id) (find?_deregister t' id)

/-- An answer settles both entries or neither. -/
theorem Agree.resolve (h : Agree id own t t') (hlen : t.boxes.length = t'.boxes.length)
    (r : Response) : (t.resolve id r).1 = (t'.resolve id r).1 ∧
      Agree id own (t.resolve id r).2 (t'.resolve id r).2 := by
  have hfind := h.find?
  cases hf : t.find? id with
  | none =>
    rw [hf] at hfind
    rw [resolve_of_absent hf, resolve_of_absent hfind.symm]
    exact ⟨rfl, h⟩
  | some e =>
    rw [hf] at hfind
    cases hp : e.isPending with
    | false =>
      rw [resolve_of_settled hf hp, resolve_of_settled hfind.symm hp]
      exact ⟨rfl, h⟩
    | true =>
      rw [resolve_of_pending hf hp, resolve_of_pending hfind.symm hp]
      refine ⟨rfl, ?_, fun m hm => ?_⟩
      · rw [find?_mark, find?_mark]
        exact congrArg _ h.find?
      · show (t.putBox _ _).box m = (t'.putBox _ _).box m
        rw [box_putBox, box_putBox, hlen, h.box m hm]

end Table

namespace Board

variable {b b' b'' : Board}

/-- Two boards have counted the same apart from their entries, and have as many boxes. -/
structure Alike (b b' : Board) : Prop where
  tally : b.tally.apart = b'.tally.apart
  length : b.table.boxes.length = b'.table.boxes.length

theorem Alike.refl (b : Board) : b.Alike b := ⟨rfl, rfl⟩

theorem Alike.symm (h : b.Alike b') : b'.Alike b := ⟨h.tally.symm, h.length.symm⟩

theorem Alike.trans (h : b.Alike b') (h' : b'.Alike b'') : b.Alike b'' :=
  ⟨h.tally.trans h'.tally, h.length.trans h'.length⟩

theorem alike_deregister (b : Board) (id : Uuid) : (b.deregister id).2.Alike b := by
  refine ⟨?_, ?_⟩
  · unfold deregister
    split <;> rfl
  · rw [table_deregister]
    exact Table.length_boxes_after (a := .deregister id) nofun

theorem alike_expire (b : Board) (id : Uuid) : (b.expire id).2.Alike b := by
  refine ⟨?_, ?_⟩
  · unfold expire
    split <;> rfl
  · rw [table_expire]
    exact Table.length_boxes_after (a := .expire id) nofun

theorem alike_poll (b : Board) (ticket : Nat) : (b.poll ticket).2.Alike b :=
  ⟨rfl, Table.length_boxes_after (a := .poll ticket) nofun⟩

theorem alike_sweep (b : Board) (now : Instant) : (b.sweep now).2.Alike b := by
  refine ⟨?_, ?_⟩
  · unfold sweep
    split <;> rfl
  · rcases b.table_sweep now with h | h <;> rw [h]
    exact Table.length_boxes_expiries _ _

/-- An answer is counted alike if it finds the same entry. -/
theorem Alike.resolve (h : b.Alike b') {id : Uuid} {r : Response}
    (hr : (b.table.resolve id r).1 = (b'.table.resolve id r).1) :
    (b.resolve id r).1 = (b'.resolve id r).1 ∧ (b.resolve id r).2.Alike (b'.resolve id r).2 := by
  have hlen : (b.table.resolve id r).2.boxes.length = (b'.table.resolve id r).2.boxes.length :=
    (Table.length_boxes_after (a := .resolve id r) nofun).trans
      (h.length.trans (Table.length_boxes_after (a := .resolve id r) nofun).symm)
  unfold Board.resolve
  generalize b.table.resolve id r = x at hr hlen ⊢
  generalize b'.table.resolve id r = x' at hr hlen ⊢
  obtain ⟨o, t⟩ := x
  obtain ⟨o', t'⟩ := x'
  obtain rfl : o = o' := hr
  cases o with
  | settled => exact ⟨rfl, h.tally, hlen⟩
  | alreadySettled => exact ⟨rfl, congrArg Tally.duplicate h.tally, hlen⟩
  | unknown => exact ⟨rfl, congrArg Tally.unknownId h.tally, hlen⟩

/-- An id that is in neither table gets the same ticket. -/
theorem Alike.register (h : b.Alike b') {id : Uuid} (hf : b.table.find? id = none)
    (hf' : b'.table.find? id = none) (deadline : Instant) :
    ∃ ticket, (b.register id deadline).1 = .ok ticket ∧ (b'.register id deadline).1 = .ok ticket ∧
      (b.register id deadline).2.Alike (b'.register id deadline).2 ∧
      Table.Agree id (some ticket) (b.register id deadline).2.table
        (b'.register id deadline).2.table := by
  have hregister {b : Board} (hb : b.table.find? id = none) : b.register id deadline =
      (.ok b.table.boxes.length, b.recount (b.table.register id deadline).2) := by
    unfold Board.register
    rw [Table.register_of_absent hb]
  rw [hregister hf, hregister hf']
  refine ⟨b.table.boxes.length, rfl, by rw [h.length], ⟨h.tally, ?_⟩, ?_, ?_⟩
  · show (b.table.register _ _).2.boxes.length = (b'.table.register _ _).2.boxes.length
    rw [Table.register_of_absent hf, Table.register_of_absent hf', List.length_append,
      List.length_append, h.length]
  · show (b.table.register _ _).2.find? _ = (b'.table.register _ _).2.find? _
    rw [Table.find?_register hf, Table.find?_register hf', h.length]
  · rintro m ⟨⟩
    refine (Table.box_register hf deadline).trans (Eq.symm ?_)
    rw [h.length]
    exact Table.box_register hf' deadline

end Board

/-! ### Shares -/

namespace Shared

variable {s s' : Shared σ τ}

/-- Two shares agree about all but the entries and the boxes. -/
structure Alike (s s' : Shared σ τ) : Prop where
  state : s.state = s'.state
  line : s.line = s'.line
  board : s.board.Alike s'.board

/-- With other boards that are alike. -/
theorem Alike.withBoard (h : s.Alike s') {b b' : Board} (hb : b.Alike s.board)
    (hb' : b'.Alike s'.board) : Alike { s with board := b } { s' with board := b' } :=
  ⟨h.state, h.line, hb.trans (h.board.trans hb'.symm)⟩

end Shared

namespace Gate

variable {t t' : Tally}

/-- The gate does not look at what has been counted. -/
theorem heed_apart (g : Gate) (v : Visit) (now : Instant) (o : Outcome) (h : t.apart = t'.apart) :
    (g.heed v now o t).1 = (g.heed v now o t').1 ∧
      (g.heed v now o t).2.apart = (g.heed v now o t').2.apart := by
  cases o with
  | granted n => exact ⟨rfl, congrArg Tally.grant h⟩
  | denied hint => exact ⟨rfl, congrArg (·.deny v.bucket) h⟩

theorem enter_apart (g : Gate) (store : Store σ) (clock : Timestamp) (latency : Nat) (v : Visit)
    (cancelled : Bool) (now : Instant) (state : σ) (h : t.apart = t'.apart) :
    (g.enter store clock latency v cancelled now state t).1 =
        (g.enter store clock latency v cancelled now state t').1 ∧
      (g.enter store clock latency v cancelled now state t).2.1 =
        (g.enter store clock latency v cancelled now state t').2.1 ∧
      (g.enter store clock latency v cancelled now state t).2.2.apart =
        (g.enter store clock latency v cancelled now state t').2.2.apart := by
  unfold enter
  split_ifs
  · exact ⟨rfl, rfl, h⟩
  · exact ⟨rfl, rfl, h⟩
  · split
    · exact ⟨rfl, rfl, h⟩
    · obtain ⟨hnext, htally⟩ := g.heed_apart v now _ h
      exact ⟨hnext, rfl, htally⟩
  · split
    · exact ⟨rfl, rfl, h⟩
    · exact ⟨rfl, rfl, h⟩

end Gate

/-! ### Invocations -/

namespace Invocation

variable {d : Dispatcher σ τ} {number ticket : Nat} {i : Invocation} {now : Tick}
  {deadline : Instant} {s s' : Shared σ τ}

/-- An invocation has come to the same on two shares, which agree about it. -/
structure Same (x x' : Invocation × Shared σ τ) : Prop where
  invocation : x.1 = x'.1
  alike : x.2.Alike x'.2
  agree : Table.Agree x.1.plan.id x.1.phase.ticket? x.2.board.table x'.2.board.table

theorem same_finish (stage : Stage) (result : Except Failure Reply) (h : s.Alike s')
    (hfind : s.board.table.find? i.plan.id = s'.board.table.find? i.plan.id) :
    Same (i.finish now stage result s) (i.finish now stage result s') where
  invocation := rfl
  alike := ⟨h.state, h.line, congrArg (Tally.finish · _ _) h.board.tally, h.board.length⟩
  agree := ⟨hfind, nofun⟩

/-- Whoever leaves the table need not have agreed about its entry. -/
theorem same_leave (stage : Stage) (result : Except Failure Reply) (h : s.Alike s') :
    Same (i.leave now stage result s) (i.leave now stage result s') := by
  refine same_finish stage result (h.withBoard (s.board.alike_deregister _)
    (s'.board.alike_deregister _)) ?_
  rw [Board.table_deregister, Board.table_deregister]
  exact (Table.agree_deregister _ _ _).find?

theorem same_settle (m : Settlement) (h : s.Alike s') :
    Same (i.settle d now m s) (i.settle d now m s') := same_leave _ _ h

theorem same_look (h : s.Alike s')
    (hagree : Table.Agree i.plan.id (some ticket) s.board.table s'.board.table) :
    Same (i.look d now deadline ticket s) (i.look d now deadline ticket s') := by
  have hpoll : (s.board.poll ticket).1 = (s'.board.poll ticket).1 := by
    show (s.board.table.poll ticket).1 = (s'.board.table.poll ticket).1
    unfold Table.poll
    rw [hagree.box ticket rfl]
    split <;> rfl
  have halike := h.withBoard (s.board.alike_poll ticket) (s'.board.alike_poll ticket)
  unfold look
  -- The token is looked at before the box, so the boxes matter only if it has not fired.
  by_cases hc : i.isCancelled now = true
  · rw [if_pos hc, if_pos hc]
    exact same_settle _ h
  · rw [if_neg hc, if_neg hc]
    generalize s.board.poll ticket = x at hpoll halike ⊢
    generalize s'.board.poll ticket = x' at hpoll halike ⊢
    obtain ⟨m, b⟩ := x
    obtain ⟨m', b'⟩ := x'
    obtain rfl : m = m' := hpoll
    cases m with
    | some m => exact same_settle m halike
    | none =>
      dsimp only
      split_ifs
      · exact same_settle _ (h.withBoard (s.board.alike_expire _) (s'.board.alike_expire _))
      · exact ⟨rfl, h, hagree⟩

/-- **It does not matter who expires an entry.** On one share somebody has, on the other one the
deadline has passed. -/
theorem same_look_of_expired (h : s.Alike s') (hd : deadline ≤ Tick.instant now)
    (hbox : s.board.table.box ticket = .holding .expired)
    (hbox' : s'.board.table.box ticket = .waiting) :
    Same (i.look d now deadline ticket s) (i.look d now deadline ticket s') := by
  have hpoll := congrArg (fun x => (x.1, Board.mk x.2 s.board.tally)) (Table.poll_of_holding hbox)
  have hpoll' := congrArg (fun x => (x.1, Board.mk x.2 s'.board.tally))
    (Table.poll_of_waiting hbox')
  unfold look
  by_cases hc : i.isCancelled now = true
  · rw [if_pos hc, if_pos hc]
    exact same_settle _ h
  · rw [if_neg hc, if_neg hc, show s.board.poll ticket = _ from hpoll,
      show s'.board.poll ticket = _ from hpoll']
    dsimp only
    rw [if_pos hd]
    refine same_settle _ (h.withBoard ?_ (s'.board.alike_expire _))
    have := s.board.alike_poll ticket
    rwa [show s.board.poll ticket = _ from hpoll] at this

theorem same_hand {r : Request} (h : s.Alike s')
    (hagree : Table.Agree i.plan.id (some ticket) s.board.table s'.board.table) :
    Same (i.hand d number now deadline ticket r s) (i.hand d number now deadline ticket r s') := by
  unfold hand Queue.send
  rw [← h.line]
  generalize d.queue.offer number r.toUtf8 s.line = x
  obtain ⟨o, line⟩ := x
  cases o with
  | accepted =>
    have halike :
        Shared.Alike { s.withTally s.tally with line } { s'.withTally s'.tally with line } :=
      ⟨h.state, rfl, h.board⟩
    exact same_look (i := { i with course := i.course.moved .sent }) halike hagree
  | refused reason =>
    exact same_leave _ _ ⟨h.state, rfl, congrArg Tally.failSend h.board.tally, h.board.length⟩
  | later => exact ⟨rfl, ⟨h.state, rfl, h.board⟩, hagree⟩

/-! ### At the gate -/

theorem same_relay (bucket : String) (h : s.Alike s')
    (hfind : s.board.table.find? i.plan.id = s'.board.table.find? i.plan.id) :
    Same (i.relay d number now deadline bucket s) (i.relay d number now deadline bucket s') := by
  unfold relay
  cases hf : s.board.table.find? i.plan.id with
  | some e =>
    rw [Board.register_of_find? _ _ hf, Board.register_of_find? _ _ (hfind.symm.trans hf)]
    exact same_finish _ _ h hfind
  | none =>
    obtain ⟨ticket, hok, hok', hboard, hagree⟩ :=
      h.board.register hf (hfind.symm.trans hf) deadline
    generalize s.board.register i.plan.id deadline = x at hok hboard hagree ⊢
    generalize s'.board.register i.plan.id deadline = x' at hok' hboard hagree ⊢
    obtain ⟨o, board⟩ := x
    obtain ⟨o', board'⟩ := x'
    obtain rfl : o = .ok ticket := hok
    obtain rfl : o' = .ok ticket := hok'
    exact same_hand ⟨h.state, h.line, hboard⟩ hagree

theorem same_proceed (n : Gate.Next) (h : s.Alike s')
    (hfind : s.board.table.find? i.plan.id = s'.board.table.find? i.plan.id) :
    Same (i.proceed d number now deadline n s) (i.proceed d number now deadline n s') := by
  unfold proceed
  split
  · exact ⟨rfl, h, hfind, nofun⟩
  · exact same_relay _ h hfind
  · exact same_finish _ _ h hfind
  · exact same_finish _ _ h hfind
  · exact ⟨rfl, h, hfind, nofun⟩

theorem same_ask (v : Visit) (h : s.Alike s')
    (hfind : s.board.table.find? i.plan.id = s'.board.table.find? i.plan.id) :
    Same (i.ask d number now deadline v s) (i.ask d number now deadline v s') := by
  obtain ⟨hnext, hstate, htally⟩ := d.gate.enter_apart d.store (Tick.clock d.start now) d.latency v
    (i.isCancelled now) (Tick.instant now) s.state h.board.tally
  unfold ask Shared.tally
  rw [← h.state]
  generalize d.gate.enter d.store _ _ v _ _ s.state s.board.tally = x at hnext hstate htally ⊢
  generalize d.gate.enter d.store _ _ v _ _ s.state s'.board.tally = x' at hnext hstate htally ⊢
  obtain ⟨n, state, tally⟩ := x
  obtain ⟨n', state', tally'⟩ := x'
  obtain rfl : n = n' := hnext
  exact same_proceed n ⟨hstate, h.line, htally, h.board.length⟩ hfind

theorem same_hear (v : Visit) (o : Outcome) (h : s.Alike s')
    (hfind : s.board.table.find? i.plan.id = s'.board.table.find? i.plan.id) :
    Same (i.hear d number now deadline v o s) (i.hear d number now deadline v o s') := by
  obtain ⟨hnext, htally⟩ := d.gate.heed_apart v (Tick.instant now) o h.board.tally
  unfold hear Shared.tally
  generalize d.gate.heed v (Tick.instant now) o s.board.tally = x at hnext htally ⊢
  generalize d.gate.heed v (Tick.instant now) o s'.board.tally = x' at hnext htally ⊢
  obtain ⟨n, tally⟩ := x
  obtain ⟨n', tally'⟩ := x'
  obtain rfl : n = n' := hnext
  exact same_proceed n ⟨h.state, h.line, htally, h.board.length⟩ hfind

theorem same_attend {go go' : Shared σ τ → Invocation × Shared σ τ} (h : s.Alike s')
    (hfind : s.board.table.find? i.plan.id = s'.board.table.find? i.plan.id)
    (hgo : Same (go s) (go' s')) :
    Same (i.attend d now deadline go s) (i.attend d now deadline go' s') := by
  unfold attend
  split_ifs
  · exact same_finish _ _ h hfind
  · exact same_finish _ _ h hfind
  · exact hgo

/-! ### Moves -/

/-- **A turn depends on the entry and the box of its own invocation only.** -/
theorem same_turn (h : s.Alike s')
    (hagree : Table.Agree i.plan.id i.phase.ticket? s.board.table s'.board.table) :
    Same (i.turn d number now s) (i.turn d number now s') := by
  have hfind := hagree.find?
  have hstay (hp : i.phase.ticket? = none) : Same (i, s) (i, s') :=
    ⟨rfl, h, hfind, fun m hm => by cases hp.symm.trans hm⟩
  unfold turn
  cases hp : i.phase with
  | coming =>
    unfold start
    dsimp only
    split_ifs
    · exact ⟨rfl, h, hfind, nofun⟩
    · split
      · exact same_finish _ _ h hfind
      · exact same_attend h hfind (same_ask _ h hfind)
  | admission deadline v w =>
    have hstay := hstay (by rw [hp]; rfl)
    cases w with
    | answer t o =>
      refine same_attend h hfind ?_
      split_ifs
      · exact same_hear v o h hfind
      · exact hstay
    | wake t =>
      refine same_attend h hfind ?_
      split_ifs
      · exact same_ask v h hfind
      · exact hstay
  | handing deadline ticket r =>
    rw [hp] at hagree
    exact same_hand h hagree
  | awaiting deadline ticket =>
    rw [hp] at hagree
    exact same_look h hagree
  -- Whoever has ended does nothing more.
  | ended | dropped | broken => exact hstay (by rw [hp]; rfl)

/-- Whoever is dropped leaves the table, and need not have agreed about its entry. -/
theorem same_abort (h : s.Alike s') (hagree : i.phase.ticket? = none →
      s.board.table.find? i.plan.id = s'.board.table.find? i.plan.id) :
    Same (i.abort d number s) (i.abort d number s') := by
  have hdrop {line line' : τ} (hline : line = line') : Same ({ i with phase := .dropped },
        { s with line, board := (s.board.deregister i.plan.id).2 })
      ({ i with phase := .dropped },
        { s' with line := line', board := (s'.board.deregister i.plan.id).2 }) := by
    refine ⟨rfl, ⟨h.state, hline, ?_⟩, ?_⟩
    · exact (s.board.alike_deregister _).trans (h.board.trans (s'.board.alike_deregister _).symm)
    · dsimp only
      rw [Board.table_deregister, Board.table_deregister]
      exact Table.agree_deregister _ _ _
  unfold abort
  cases hp : i.phase with
  | coming | admission => exact ⟨rfl, h, hagree (by rw [hp]; rfl), nofun⟩
  | handing => exact hdrop (congrArg (d.queue.withdraw number) h.line)
  | awaiting => exact hdrop h.line
  | ended | dropped | broken =>
    refine ⟨rfl, h, hagree (by rw [hp]; rfl), fun m hm => ?_⟩
    dsimp only at hm
    rw [hp] at hm
    cases hm

end Invocation

end Sluice
