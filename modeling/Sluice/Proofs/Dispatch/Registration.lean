import Sluice.Proofs.Dispatch.Promptness
import Sluice.Proofs.Pending.Settlement

/-!
# Registrations in a traffic

An entry of the table belongs to one invocation, which holds its ticket; what others do leaves the
entry and the box of the ticket alone.

* `Table.Local` : the entry of one id and its box are all that has changed;
* `Registers` : what a turn does to the registration of its invocation;
* `Traffic.Registered` : every entry has its invocation, and no two have one ticket;
* `Traffic.Journey.registered` : so it is in every journey of invocations with different ids;
* `Traffic.Registered.find?_eq_none` : an invocation that has ended has left the table.
-/

namespace Sluice

namespace Table

variable {t t' t₀ : Table} {id : Uuid} {e : Entry} {own : Option Nat}

theorem Effect.ticket_eq {a : Act} (heff : Effect t a t') {j : Uuid}
    (h : t'.find? j = some e) : (∃ e', t.find? j = some e' ∧ e'.ticket = e.ticket) ∨
      ∃ deadline, a = .register j deadline ∧ e = ⟨t.boxes.length, deadline, true⟩ := by
  have hremove {u : Table} {k : Uuid} (hu : (u.remove k).find? j = some e)
      (hut : u.find? j = t.find? j) : ∃ e', t.find? j = some e' ∧ e'.ticket = e.ticket := by
    rw [find?_remove] at hu
    split_ifs at hu
    exact ⟨e, hut ▸ hu, rfl⟩
  -- Entries are marked or removed; only a registration puts a new one behind the others.
  cases heff with
  | still => exact Or.inl ⟨e, h, rfl⟩
  | @register k deadline hk =>
    unfold find? at h
    rw [List.lookup_append, List.lookup_cons] at h
    cases hj : t.entries.lookup j with
    | some e' =>
      rw [hj, Option.some_or] at h
      exact Or.inl ⟨e', hj, congrArg Entry.ticket (Option.some.inj h)⟩
    | none =>
      rw [hj, Option.none_or] at h
      split at h
      · rename_i heq
        rw [beq_iff_eq.1 heq]
        exact Or.inr ⟨deadline, rfl, (Option.some.inj h).symm⟩
      · cases h
  | resolve =>
    rw [find?_mark] at h
    obtain ⟨e', he', rfl⟩ := Option.map_eq_some_iff.1 h
    refine Or.inl ⟨e', he', ?_⟩
    split_ifs <;> rfl
  | expire => exact Or.inl (hremove h rfl)
  | forsake => exact Or.inl (hremove h rfl)
  | drop => exact Or.inl (hremove h rfl)
  | collect => exact Or.inl ⟨e, h, rfl⟩
  | abandon => exact Or.inl ⟨e, h, rfl⟩
  | again => exact Or.inl ⟨e, h, rfl⟩

theorem find?_deregister (t : Table) (id : Uuid) : (t.deregister id).2.find? id = none := by
  cases h : t.find? id with
  | none => rw [deregister_of_absent h, h]
  | some e => rw [deregister_of_find? h, find?_remove, if_pos rfl]

theorem find?_register (h : t.find? id = none) (deadline : Instant) :
    (t.register id deadline).2.find? id = some ⟨t.boxes.length, deadline, true⟩ := by
  rw [register_of_absent h]
  unfold find? at *
  rw [List.lookup_append, h, Option.none_or, List.lookup_cons, beq_self_eq_true]

theorem box_register (h : t.find? id = none) (deadline : Instant) :
    (t.register id deadline).2.box t.boxes.length = .waiting := by
  rw [register_of_absent h]
  unfold box
  rw [List.getD_eq_getElem?_getD, List.getElem?_concat_length, Option.getD_some]

/-- From `t₀` to `t` only the entry of an id, its box and the box of `own` have changed. -/
structure Local (id : Uuid) (own : Option Nat) (t₀ t : Table) : Prop where
  find? : ∀ j, j ≠ id → t.find? j = t₀.find? j
  box : ∀ m < t₀.boxes.length, own ≠ some m → (∀ e, t₀.find? id = some e → e.ticket ≠ m) →
    t.box m = t₀.box m
  length_le : t₀.boxes.length ≤ t.boxes.length
  ticket : ∀ e, t.find? id = some e →
    (∃ e', t₀.find? id = some e' ∧ e'.ticket = e.ticket) ∨ t₀.boxes.length ≤ e.ticket
  sound : (∃ hist, t₀.Sound hist) → ∃ hist, t.Sound hist

theorem Local.refl (id : Uuid) (own : Option Nat) (t : Table) : Local id own t t where
  find? _ _ := rfl
  box _ _ _ _ := rfl
  length_le := Nat.le_refl _
  ticket e h := Or.inl ⟨e, h, rfl⟩
  sound h := h

/-- Acts on the id, and a look into the box of `own` or a later one, change nothing else. -/
theorem Local.after (h : Local id own t₀ t) {a : Act}
    (ha : a.id? = some id ∨ ∃ m, a = .poll m ∧ (own = some m ∨ t₀.boxes.length ≤ m)) :
    Local id own t₀ (t.after a) := by
  have heff := t.effect a
  refine ⟨?_, ?_, Nat.le_trans h.length_le heff.length_boxes_le, ?_, ?_⟩
  · intro j hj
    rw [heff.find?_eq, h.find? j hj]
    intro hc
    rcases ha with ha | ⟨m, rfl, -⟩
    · exact hj (Option.some.inj (hc.symm.trans ha))
    · cases hc
  · intro m hm hown hentry
    rw [heff.box_eq (Nat.lt_of_lt_of_le hm h.length_le), h.box m hm hown hentry]
    -- The box that the act touches is that of the id, of `own`, or a later one.
    intro hc
    have hid {e : Entry} (hf : t.find? id = some e) : e.ticket ≠ m := by
      rcases h.ticket e hf with ⟨e', hf', he⟩ | hle
      · exact he ▸ hentry e' hf'
      · omega
    have hmap {j : Uuid} (hj : some j = some id) (hc : (t.find? j).map (·.ticket) = some m) :
        False := by
      obtain rfl := Option.some.inj hj
      obtain ⟨e, hf, he⟩ := Option.map_eq_some_iff.1 hc
      exact hid hf he
    rcases ha with ha | ⟨m', rfl, hm'⟩
    · cases a with
      | register => cases hc
      | resolve => exact hmap ha hc
      | expire => exact hmap ha hc
      | deregister => exact hmap ha hc
      | poll => cases ha
    · obtain rfl := Option.some.inj hc
      rcases hm' with hm' | hm'
      · exact hown hm'
      · omega
  · intro e he
    rcases heff.ticket_eq he with ⟨e', hf, hticket⟩ | ⟨deadline, -, rfl⟩
    · exact hticket ▸ h.ticket e' hf
    · exact Or.inr h.length_le
  · intro hs
    obtain ⟨hist, hs⟩ := h.sound hs
    exact ⟨_, hs.effect heff⟩

/-! ### Sweeps -/

theorem find?_of_afterAll_expire {ids : List Uuid} {j : Uuid}
    (h : (t.afterAll (ids.map .expire)).find? j = some e) : t.find? j = some e := by
  induction ids generalizing t with
  | nil => exact h
  | cons id ids ih => exact find?_of_after_expire (ih h)

theorem sound_afterAll_expire {ids : List Uuid} (h : ∃ hist, t.Sound hist) :
    ∃ hist, (t.afterAll (ids.map .expire)).Sound hist := by
  induction ids generalizing t with
  | nil => exact h
  | cons id ids ih =>
    obtain ⟨hist, h⟩ := h
    exact ih ⟨_, h.effect (t.effect (.expire id))⟩

theorem length_le_afterAll_expire (t : Table) (ids : List Uuid) :
    t.boxes.length ≤ (t.afterAll (ids.map .expire)).boxes.length := by
  induction ids generalizing t with
  | nil => exact Nat.le_refl _
  | cons id ids ih => exact Nat.le_trans (t.effect (.expire id)).length_boxes_le (ih _)

/-- Expiries leave an entry and its box alone, or expire the entry. -/
theorem Sound.afterAll_expire {hist : Nat → Record} (h : t.Sound hist) (hf : t.find? id = some e)
    (ids : List Uuid) :
    (t.afterAll (ids.map .expire)).find? id = some e ∧
        (t.afterAll (ids.map .expire)).box e.ticket = t.box e.ticket ∨
      id ∈ ids ∧ e.isPending = true ∧ (t.afterAll (ids.map .expire)).find? id = none ∧
        (t.afterAll (ids.map .expire)).box e.ticket = .holding .expired := by
  induction ids generalizing t hist with
  | nil => exact Or.inl ⟨hf, rfl⟩
  | cons j ids ih =>
    have hlt := h.ticket_lt _ (mem_of_find? hf)
    have hnext := h.effect (t.effect (.expire j))
    have hcons : t.afterAll ((j :: ids).map .expire) =
      (t.after (.expire j)).afterAll (ids.map .expire) := rfl
    rw [hcons]
    by_cases hj : j = id
    · subst hj
      cases hp : e.isPending with
      | false =>
        have hsame : t.after (.expire j) = t := congrArg Prod.snd (expire_of_settled hf hp)
        rw [hsame]
        rcases ih h hf with hkeep | ⟨-, hp', -⟩
        · exact Or.inl hkeep
        · rw [hp] at hp'
          cases hp'
      | true =>
        have hafter : t.after (.expire j) = (t.putBox e.ticket (.holding .expired)).remove j :=
          congrArg Prod.snd (expire_of_pending hf hp)
        refine Or.inr ⟨List.mem_cons_self, rfl, ?_, ?_⟩
        · cases hg : ((t.after (.expire j)).afterAll (ids.map .expire)).find? j with
          | none => rfl
          | some e' =>
            have := find?_of_afterAll_expire hg
            rw [hafter, find?_remove, if_pos rfl] at this
            cases this
        · -- No other entry has the ticket, so the box stays as it is.
          have hbox : (t.after (.expire j)).box e.ticket = .holding .expired := by
            rw [hafter]
            exact (box_putBox t e.ticket e.ticket _).trans (if_pos ⟨rfl, hlt⟩)
          rw [box_afterAll_expire (Nat.lt_of_lt_of_le hlt (t.effect _).length_boxes_le) ids, hbox]
          intro k _ e' he' hticket
          rw [hafter, find?_remove] at he'
          split_ifs at he' with hkj
          have heq := h.eq_of_ticket hf (mem_of_find? he') hticket
          exact hkj (congrArg Prod.fst heq)
    · have hfirst : (t.after (.expire j)).find? id = some e := by
        rw [(t.effect (.expire j)).find?_eq (fun hc => hj (Option.some.inj hc)), hf]
      have hbox : (t.after (.expire j)).box e.ticket = t.box e.ticket := by
        refine (t.effect (.expire j)).box_eq hlt fun hc => ?_
        obtain ⟨e', he', hticket⟩ := Option.map_eq_some_iff.1 hc
        exact hj (congrArg Prod.fst (h.eq_of_ticket hf (mem_of_find? he') hticket))
      rw [← hbox]
      rcases ih hnext hfirst with hkeep | ⟨hmem, hrest⟩
      · exact Or.inl hkeep
      · exact Or.inr ⟨List.mem_cons_of_mem _ hmem, hrest⟩

theorem overdue_of_mem {hist : Nat → Record} (h : t.Sound hist) (hf : t.find? id = some e)
    {now : Instant} (hmem : id ∈ t.overdue now) : isOverdue now e = true := by
  obtain ⟨x, hx, hid⟩ := List.mem_map.1 hmem
  obtain ⟨hxt, hover⟩ := List.mem_filter.1 hx
  rw [h.eq_of_id hf hxt hid] at hover
  exact hover

end Table

variable {σ τ : Type} {d : Dispatcher σ τ} {k : Consumer}

theorem Board.table_sweep (b : Board) (now : Instant) : (b.sweep now).2.table = b.table ∨
    (b.sweep now).2.table = b.table.afterAll ((b.table.overdue now).map .expire) := by
  unfold Board.sweep
  rw [Table.sweep_eq]
  split
  · exact Or.inl rfl
  · rename_i heq
    exact Or.inr (congrArg Prod.snd heq).symm

/-! ### Turns -/

open Table (Act Local)

/-- What has become of the registration of an invocation, from a table on in which it had the ticket
`own`. -/
structure Registers (p : Plan) (own : Option Nat) (t₀ : Table) (v : View σ τ) : Prop where
  outside : Local p.id own t₀ v.table
  held : ∀ e, v.table.find? p.id = some e → v.phase.ticket? = some e.ticket
  ticket : ∀ m, v.phase.ticket? = some m →
    own = some m ∨ m = t₀.boxes.length ∧ m < v.table.boxes.length

section Turn

variable {p : Plan} {now : Tick} {deadline : Instant} {ticket number : Nat} {v v' : View σ τ}
  {own : Option Nat} {t₀ : Table} {i : Invocation} {s : Shared σ τ}

theorem Registers.of_deregister {t : Table} (h : Local p.id own t₀ t)
    (htable : v.table = (t.deregister p.id).2) (hphase : v.phase.ticket? = none) :
    Registers p own t₀ v := by
  refine ⟨htable ▸ h.after (a := .deregister p.id) (Or.inl rfl), fun e he => ?_, fun m hm => ?_⟩
  · rw [htable, Table.find?_deregister] at he
    cases he
  · rw [hphase] at hm
    cases hm

theorem Look.registers (h : Look d p now deadline ticket v v') (hlocal : Local p.id own t₀ v.table)
    (hheld : ∀ e, v.table.find? p.id = some e → e.ticket = ticket)
    (hticket : own = some ticket ∨ ticket = t₀.boxes.length ∧ ticket < v.table.boxes.length) :
    Registers p own t₀ v' := by
  cases h with
  | cancelled => exact .of_deregister hlocal rfl rfl
  | @settled m t hc hpoll =>
    have hpolled : Local p.id own t₀ t := by
      have := hlocal.after (a := .poll ticket) (Or.inr ⟨ticket, rfl, hticket.imp_right fun h =>
        Nat.le_of_eq h.1.symm⟩)
      rwa [show v.table.after (.poll ticket) = t from congrArg Prod.snd hpoll] at this
    exact .of_deregister hpolled rfl rfl
  | expired => exact .of_deregister (hlocal.after (a := .expire p.id) (Or.inl rfl)) rfl rfl
  | waits =>
    refine ⟨hlocal, fun e he => congrArg some (hheld e he).symm, fun m hm => ?_⟩
    obtain rfl := Option.some.inj hm
    exact hticket

theorem Hand.registers {r : Request} (h : Hand d number p now deadline ticket r v v')
    (hlocal : Local p.id own t₀ v.table)
    (hheld : ∀ e, v.table.find? p.id = some e → e.ticket = ticket)
    (hticket : own = some ticket ∨ ticket = t₀.boxes.length ∧ ticket < v.table.boxes.length) :
    Registers p own t₀ v' := by
  cases h with
  | later =>
    refine ⟨hlocal, fun e he => congrArg some (hheld e he).symm, fun m hm => ?_⟩
    obtain rfl := Option.some.inj hm
    exact hticket
  | refused => exact .of_deregister hlocal rfl rfl
  | accepted _ look => exact look.registers hlocal hheld hticket

theorem Registers.of_same (htable : v.table = t₀) (hfind : t₀.find? p.id = none)
    (hphase : v.phase.ticket? = none) : Registers p own t₀ v := by
  subst htable
  refine ⟨.refl _ _ _, fun e he => ?_, fun m hm => ?_⟩
  · rw [hfind] at he
    cases he
  · rw [hphase] at hm
    cases hm

theorem Invocation.ticket?_of_atGate (hg : i.AtGate d now deadline) : i.phase.ticket? = none := by
  unfold AtGate at hg
  split at hg
  · rename_i hp
    rw [hp]
    rfl
  · rename_i hp
    rw [hp]
    rfl
  · exact hg.elim

theorem Invocation.ticket?_of_breaksDown (h : i.BreaksDown d now) : i.phase.ticket? = none := by
  rcases h with ⟨hp, -⟩ | ⟨⟨_, hg⟩, -⟩
  · rw [hp]
    rfl
  · exact ticket?_of_atGate hg

theorem Invocation.Turn.registers (h : i.Turn d number now s v')
    (hheld : ∀ e, s.board.table.find? i.plan.id = some e → i.phase.ticket? = some e.ticket) :
    Registers i.plan i.phase.ticket? s.board.table v' := by
  have hnone (hphase : i.phase.ticket? = none) : s.board.table.find? i.plan.id = none := by
    cases hf : s.board.table.find? i.plan.id with
    | none => rfl
    | some e =>
      rw [hheld e hf] at hphase
      cases hphase
  cases h with
  | idle => exact ⟨.refl _ _ _, hheld, fun m hm => Or.inl hm⟩
  | broken hbreak => exact .of_same rfl (hnone (ticket?_of_breaksDown hbreak)) rfl
  | misdirected hp => exact .of_same rfl (hnone (by rw [hp]; rfl)) rfl
  | cancelled hg => exact .of_same rfl (hnone (ticket?_of_atGate hg)) rfl
  | late hg => exact .of_same rfl (hnone (ticket?_of_atGate hg)) rfl
  | failed hg => exact .of_same rfl (hnone (ticket?_of_atGate hg)) rfl
  | waits hg => exact .of_same rfl (hnone (ticket?_of_atGate hg)) rfl
  | duplicate hg => exact .of_same rfl (hnone (ticket?_of_atGate hg)) rfl
  -- The only turn that registers anything: the ticket is the next box.
  | @granted deadline w state _ hg hc hd hgrant hfind hand =>
    have hlocal := (Local.refl i.plan.id i.phase.ticket? s.board.table).after
      (a := .register i.plan.id deadline) (Or.inl rfl)
    refine hand.registers hlocal (fun e he => ?_) (Or.inr ⟨rfl, ?_⟩)
    · dsimp only at he
      rw [Table.find?_register hfind] at he
      rw [← Option.some.inj he]
    · dsimp only
      rw [Table.register_of_absent hfind, List.length_append]
      exact Nat.lt_succ_self _
  | handing hp hand =>
    rw [hp] at hheld ⊢
    exact hand.registers (.refl _ _ _) (fun e he => (Option.some.inj (hheld e he)).symm)
      (Or.inl rfl)
  | awaiting hp look =>
    rw [hp] at hheld ⊢
    exact look.registers (.refl _ _ _) (fun e he => (Option.some.inj (hheld e he)).symm)
      (Or.inl rfl)

theorem Invocation.Drop.registers (h : i.Drop s v')
    (hheld : ∀ e, s.board.table.find? i.plan.id = some e → i.phase.ticket? = some e.ticket) :
    Registers i.plan i.phase.ticket? s.board.table v' := by
  cases h with
  | idle => exact ⟨.refl _ _ _, hheld, fun m hm => Or.inl hm⟩
  | early hp =>
    refine .of_same rfl ?_ rfl
    cases hf : s.board.table.find? i.plan.id with
    | none => rfl
    | some e =>
      rw [hheld e hf] at hp
      cases hp
  | late => exact .of_deregister (.refl _ _ _) rfl rfl

end Turn

/-! ### Journeys -/

namespace Traffic

variable {t t' : Traffic σ τ} {ms : List (Move σ τ)} {i : Invocation} {n : Nat}

/-- Every entry of the table has its invocation, and no two invocations have one ticket. -/
structure Registered (t : Traffic σ τ) : Prop where
  sound : ∃ hist, t.shared.board.table.Sound hist
  ids : ∀ {n n' : Nat} {i i' : Invocation}, t.invocations[n]? = some i →
    t.invocations[n']? = some i' → i.plan.id = i'.plan.id → n = n'
  ticket_lt : ∀ {n : Nat} {i : Invocation} {m : Nat}, t.invocations[n]? = some i →
    i.phase.ticket? = some m → m < t.shared.board.table.boxes.length
  ticket_inj : ∀ {n n' : Nat} {i i' : Invocation} {m : Nat}, t.invocations[n]? = some i →
    t.invocations[n']? = some i' → i.phase.ticket? = some m → i'.phase.ticket? = some m → n = n'
  held : ∀ {n : Nat} {i : Invocation} {e : Entry}, t.invocations[n]? = some i →
    t.shared.board.table.find? i.plan.id = some e → i.phase.ticket? = some e.ticket
  known : ∀ {id : Uuid} {e : Entry}, t.shared.board.table.find? id = some e →
    ∃ (n : Nat) (i : Invocation), t.invocations[n]? = some i ∧ i.plan.id = id

namespace Registered

/-- **An invocation that has ended, or has not been granted a unit, is not in the table.** -/
theorem find?_eq_none (h : t.Registered) (hi : t.invocations[n]? = some i)
    (hticket : i.phase.ticket? = none) : t.shared.board.table.find? i.plan.id = none := by
  cases hf : t.shared.board.table.find? i.plan.id with
  | none => rfl
  | some e =>
    rw [h.held hi hf] at hticket
    cases hticket

theorem ticket_ne (h : t.Registered) (hi : t.invocations[n]? = some i) {m : Nat}
    (hm : i.phase.ticket? = some m) {id : Uuid} (hid : id ≠ i.plan.id) {e : Entry}
    (he : t.shared.board.table.find? id = some e) : e.ticket ≠ m := by
  rintro rfl
  obtain ⟨n', i', hi', rfl⟩ := h.known he
  obtain rfl := h.ticket_inj hi' hi (h.held hi' he) hm
  exact hid (congrArg (·.plan.id) (Option.some.inj (hi'.symm.trans hi)))

theorem set (h : t.Registered) (hi : t.invocations[n]? = some i) {x : Invocation × Shared σ τ}
    (hplan : x.1.plan = i.plan)
    (hx : Registers i.plan i.phase.ticket? t.shared.board.table (Invocation.view x))
    (hinv : t'.invocations = t.invocations.set n x.1)
    (htable : t'.shared.board.table = x.2.board.table) : t'.Registered := by
  have hlt : n < t.invocations.length := (List.getElem?_eq_some_iff.1 hi).1
  have hself : t'.invocations[n]? = some x.1 := by
    rw [hinv]
    exact List.getElem?_set_self hlt
  have hother {n' : Nat} (hn : n' ≠ n) : t'.invocations[n']? = t.invocations[n']? := by
    rw [hinv]
    exact List.getElem?_set_ne (Ne.symm hn)
  -- What an invocation has now, it had before, if it is another one.
  have hcases {n' : Nat} {i' : Invocation} (hi' : t'.invocations[n']? = some i') :
      n' = n ∧ i' = x.1 ∨ n' ≠ n ∧ t.invocations[n']? = some i' := by
    by_cases hn : n' = n
    · subst hn
      exact Or.inl ⟨rfl, Option.some.inj (hi'.symm.trans hself)⟩
    · exact Or.inr ⟨hn, hother hn ▸ hi'⟩
  have hplanid {n' : Nat} {i' : Invocation} (hi' : t'.invocations[n']? = some i') :
      ∃ i₀, t.invocations[n']? = some i₀ ∧ i₀.plan.id = i'.plan.id := by
    rcases hcases hi' with ⟨rfl, rfl⟩ | ⟨-, hi'⟩
    · exact ⟨i, hi, by rw [hplan]⟩
    · exact ⟨i', hi', rfl⟩
  have hne {n' : Nat} {i' : Invocation} (hn : n' ≠ n) (hi' : t.invocations[n']? = some i') :
      i'.plan.id ≠ i.plan.id := fun hid => hn (h.ids hi' hi hid)
  have htick {m : Nat} (hm : x.1.phase.ticket? = some m) {n' : Nat} {i' : Invocation}
      (hn : n' ≠ n) (hi' : t.invocations[n']? = some i') : i'.phase.ticket? ≠ some m := by
    intro hm'
    rcases hx.ticket m hm with hown | ⟨rfl, -⟩
    · exact hn (h.ticket_inj hi' hi hm' hown)
    · exact Nat.lt_irrefl _ (h.ticket_lt hi' hm')
  refine ⟨?_, ?_, ?_, ?_, ?_, ?_⟩
  · rw [htable]
    exact hx.outside.sound h.sound
  · intro n₁ n₂ i₁ i₂ h₁ h₂ hid
    obtain ⟨j₁, hj₁, hid₁⟩ := hplanid h₁
    obtain ⟨j₂, hj₂, hid₂⟩ := hplanid h₂
    exact h.ids hj₁ hj₂ (hid₁.trans (hid.trans hid₂.symm))
  · intro n' i' m hi' hm
    rw [htable]
    rcases hcases hi' with ⟨rfl, rfl⟩ | ⟨-, hi'⟩
    · rcases hx.ticket m hm with hown | ⟨-, hlt⟩
      · exact Nat.lt_of_lt_of_le (h.ticket_lt hi hown) hx.outside.length_le
      · exact hlt
    · exact Nat.lt_of_lt_of_le (h.ticket_lt hi' hm) hx.outside.length_le
  · intro n₁ n₂ i₁ i₂ m h₁ h₂ hm₁ hm₂
    rcases hcases h₁ with ⟨rfl, rfl⟩ | ⟨hn₁, h₁⟩ <;> rcases hcases h₂ with ⟨rfl, rfl⟩ | ⟨hn₂, h₂⟩
    · rfl
    · exact absurd hm₂ (htick hm₁ hn₂ h₂)
    · exact absurd hm₁ (htick hm₂ hn₁ h₁)
    · exact h.ticket_inj h₁ h₂ hm₁ hm₂
  · intro n' i' e hi' he
    rw [htable] at he
    rcases hcases hi' with ⟨rfl, rfl⟩ | ⟨hn, hi'⟩
    · rw [hplan] at he
      exact hx.held e he
    · have hsame := hx.outside.find? i'.plan.id (hne hn hi')
      exact h.held hi' (hsame ▸ he)
  · intro id e he
    rw [htable] at he
    by_cases hid : id = i.plan.id
    · exact ⟨n, x.1, hself, by rw [hplan, hid]⟩
    · have hsame := hx.outside.find? id hid
      obtain ⟨n', i', hi', rfl⟩ := h.known (hsame ▸ he)
      have hn : n' ≠ n := by
        rintro rfl
        exact hid (congrArg (·.plan.id) (Option.some.inj (hi'.symm.trans hi)))
      exact ⟨n', i', (hother hn).trans hi', rfl⟩

theorem keep (h : t.Registered) (hinv : t'.invocations = t.invocations)
    (hlen : t.shared.board.table.boxes.length ≤ t'.shared.board.table.boxes.length)
    (hsound : ∃ hist, t'.shared.board.table.Sound hist)
    (hentry : ∀ j e, t'.shared.board.table.find? j = some e →
      ∃ e', t.shared.board.table.find? j = some e' ∧ e'.ticket = e.ticket) : t'.Registered := by
  refine ⟨hsound, ?_, ?_, ?_, ?_, ?_⟩
  · rw [hinv]
    exact h.ids
  · rw [hinv]
    exact fun hi hm => Nat.lt_of_lt_of_le (h.ticket_lt hi hm) hlen
  · rw [hinv]
    exact h.ticket_inj
  · rw [hinv]
    intro n i e hi he
    obtain ⟨e', he', hticket⟩ := hentry _ _ he
    rw [← hticket]
    exact h.held hi he'
  · rw [hinv]
    intro id e he
    obtain ⟨e', he', -⟩ := hentry _ _ he
    exact h.known he'

/-- **A move keeps every entry with its invocation.** -/
theorem move (h : t.Registered)
    (hv : ∀ (n : Nat) (i : Invocation), t.invocations[n]? = some i → i.Visits)
    (d : Dispatcher σ τ) (k : Consumer) (tick : Tick) (e : Errand) :
    (Move.after d k ⟨t, tick, e⟩).Registered := by
  -- Two kinds of moves: those that leave the table alone, and those of a single invocation.
  have hkeep {t' : Traffic σ τ} (hinv : t'.invocations = t.invocations)
      (htable : t'.shared.board.table = t.shared.board.table) : t'.Registered := by
    refine h.keep hinv (Nat.le_of_eq (by rw [htable])) (htable ▸ h.sound) fun j e he => ?_
    exact ⟨e, htable ▸ he, rfl⟩
  have hact (n : Nat) (f : Invocation → Shared σ τ → Invocation × Shared σ τ)
      (hf : ∀ i, t.invocations[n]? = some i → (f i t.shared).1.plan = i.plan ∧
        Registers i.plan i.phase.ticket? t.shared.board.table (Invocation.view (f i t.shared))) :
      (({ t with now := tick } : Traffic σ τ).act n f).Registered := by
    cases hi : t.invocations[n]? with
    | none =>
      rw [act_of_none (t := { t with now := tick }) hi]
      exact hkeep rfl rfl
    | some i =>
      obtain ⟨hplan, hreg⟩ := hf i hi
      rw [act_eq (t := { t with now := tick }) hi]
      exact h.set hi hplan hreg rfl rfl
  cases e with
  | deliver place x =>
    have htable : (Move.after d k ⟨t, tick, .deliver place x⟩).shared.board.table =
        t.shared.board.table.after (.resolve x.id x.response) :=
      congrArg Prod.snd (Board.resolve_eq _ _ _)
    have heff := t.shared.board.table.effect (.resolve x.id x.response)
    refine h.keep rfl (htable ▸ heff.length_boxes_le) ?_ fun j e he => ?_
    · obtain ⟨hist, hs⟩ := h.sound
      exact htable ▸ ⟨_, hs.effect heff⟩
    · rw [htable] at he
      rcases heff.ticket_eq he with hsome | ⟨deadline, hc, -⟩
      · exact hsome
      · cases hc
  | sweep w =>
    rcases t.shared.board.table_sweep (Tick.instant tick) with hsame | hacts
    · exact hkeep rfl hsame
    · refine h.keep rfl (hacts ▸ Table.length_le_afterAll_expire _ _)
        (hacts ▸ Table.sound_afterAll_expire h.sound) fun j e he => ?_
      have he : (t.shared.board.sweep (Tick.instant tick)).2.table.find? j = some e := he
      rw [hacts] at he
      exact ⟨e, Table.find?_of_afterAll_expire he, rfl⟩
  | abort n =>
    refine hact n (fun i => i.abort d n) fun i hi => ?_
    obtain ⟨hplan, hdrop⟩ := Invocation.abort_view d n i t.shared
    exact ⟨hplan, hdrop.registers fun e => h.held hi⟩
  | turn n =>
    refine hact n (fun i => i.turn d n tick) fun i hi => ?_
    obtain ⟨hplan, hturn⟩ := Invocation.turn_view (d := d) (s := t.shared) (hv n i hi)
    exact ⟨hplan, hturn.registers fun e => h.held hi⟩
  | consume =>
    refine hkeep (invocations_consume d k _) ?_
    exact congrArg Board.table (shared_consume d k { t with now := tick }).2

/-- What one invocation does to its registration leaves that of another one alone. -/
theorem outside (h : t.Registered) (hi : t.invocations[n]? = some i) {ticket : Nat}
    (hm : i.phase.ticket? = some ticket) {n' : Nat} {i' : Invocation}
    (hi' : t.invocations[n']? = some i') (hn : n' ≠ n) {v : View σ τ}
    (hv : Registers i'.plan i'.phase.ticket? t.shared.board.table v) :
    v.table.find? i.plan.id = t.shared.board.table.find? i.plan.id ∧
      v.table.box ticket = t.shared.board.table.box ticket := by
  have hid : i'.plan.id ≠ i.plan.id := fun hid => hn (h.ids hi' hi hid)
  refine ⟨hv.outside.find? _ hid.symm, hv.outside.box _ (h.ticket_lt hi hm) ?_ ?_⟩
  · exact fun hown => hn (h.ticket_inj hi' hi hown hm)
  · exact fun e he => h.ticket_ne hi hm hid he

/-- Expiries leave the registration of an invocation alone, or expire it. -/
theorem expiries (h : t.Registered) (hi : t.invocations[n]? = some i) {ticket : Nat}
    (hm : i.phase.ticket? = some ticket) (ids : List Uuid) {t' : Table}
    (ht' : t' = t.shared.board.table.afterAll (ids.map .expire)) :
    t'.find? i.plan.id = t.shared.board.table.find? i.plan.id ∧
        t'.box ticket = t.shared.board.table.box ticket ∨
      ∃ e, t.shared.board.table.find? i.plan.id = some e ∧ i.plan.id ∈ ids ∧ e.isPending = true ∧
        t'.find? i.plan.id = none ∧ t'.box ticket = .holding .expired := by
  subst ht'
  cases hf : t.shared.board.table.find? i.plan.id with
  | some e =>
    obtain ⟨hist, hs⟩ := h.sound
    obtain rfl : ticket = e.ticket := Option.some.inj (hm.symm.trans (h.held hi hf))
    exact (hs.afterAll_expire hf ids).imp_right fun hexp => ⟨e, rfl, hexp⟩
  | none =>
    refine Or.inl ⟨?_, Table.box_afterAll_expire (h.ticket_lt hi hm) ids fun id _ e he => ?_⟩
    · cases hg : (t.shared.board.table.afterAll (ids.map .expire)).find? i.plan.id with
      | none => rfl
      | some e =>
        rw [Table.find?_of_afterAll_expire hg] at hf
        cases hf
    · refine h.ticket_ne hi hm ?_ he
      rintro rfl
      rw [hf] at he
      cases he

/-- **What others do leaves the registration of an invocation alone**, apart from answers to it and
from a sweep after its deadline. -/
theorem elsewhere (h : t.Registered)
    (hv : ∀ (n : Nat) (i : Invocation), t.invocations[n]? = some i → i.Visits)
    (hi : t.invocations[n]? = some i) {ticket : Nat} (hm : i.phase.ticket? = some ticket)
    {tick : Tick} {e : Errand} (hturn : e ≠ .turn n) (habort : e ≠ .abort n)
    (hdeliver : ∀ place x, e = .deliver place x → x.id ≠ i.plan.id) {t' : Table}
    (ht' : t' = (Move.after d k ⟨t, tick, e⟩).shared.board.table) :
    t'.find? i.plan.id = t.shared.board.table.find? i.plan.id ∧
        t'.box ticket = t.shared.board.table.box ticket ∨
      ∃ w entry, e = .sweep w ∧ t.shared.board.table.find? i.plan.id = some entry ∧
        entry.isPending = true ∧ entry.deadline ≤ Tick.instant tick ∧
        t'.find? i.plan.id = none ∧ t'.box ticket = .holding .expired := by
  -- What another invocation does concerns another id and another box.
  have hact {n' : Nat} (hn : n' ≠ n) {f : Invocation → Shared σ τ → Invocation × Shared σ τ}
      (hafter : t' = (({ t with now := tick } : Traffic σ τ).act n' f).shared.board.table)
      (hf : ∀ i', t.invocations[n']? = some i' → Registers i'.plan i'.phase.ticket?
        t.shared.board.table (Invocation.view (f i' t.shared))) :
      t'.find? i.plan.id = t.shared.board.table.find? i.plan.id ∧
        t'.box ticket = t.shared.board.table.box ticket := by
    cases hi' : t.invocations[n']? with
    | none =>
      rw [act_of_none (t := { t with now := tick }) hi'] at hafter
      rw [hafter]
      exact ⟨rfl, rfl⟩
    | some i' =>
      rw [act_eq (t := { t with now := tick }) hi'] at hafter
      rw [hafter]
      exact h.outside hi hm hi' hn (hf i' hi')
  cases e with
  | deliver place x =>
    have hx : x.id ≠ i.plan.id := hdeliver place x rfl
    have heff := t.shared.board.table.effect (.resolve x.id x.response)
    rw [show t' = t.shared.board.table.after (.resolve x.id x.response) from
      ht'.trans (congrArg Prod.snd (Board.resolve_eq _ _ _))]
    refine Or.inl ⟨heff.find?_eq fun hc => hx (Option.some.inj hc), ?_⟩
    refine heff.box_eq (h.ticket_lt hi hm) fun hc => ?_
    obtain ⟨entry, he, hticket⟩ := Option.map_eq_some_iff.1 hc
    exact h.ticket_ne hi hm hx he hticket
  | sweep w =>
    have ht' : t' = (t.shared.board.sweep (Tick.instant tick)).2.table := ht'
    rcases t.shared.board.table_sweep (Tick.instant tick) with hsame | hacts
    · rw [ht', hsame]
      exact Or.inl ⟨rfl, rfl⟩
    · refine (h.expiries hi hm _ (ht'.trans hacts)).imp_right ?_
      rintro ⟨entry, hf, hmem, hp, hgone, hbox⟩
      obtain ⟨hist, hs⟩ := h.sound
      have hover := Table.overdue_of_mem hs hf hmem
      unfold Table.isOverdue at hover
      rw [hp, Bool.true_and, decide_eq_true_eq] at hover
      exact ⟨w, entry, rfl, hf, hp, hover, hgone, hbox⟩
  | abort n' =>
    refine Or.inl (hact (fun hn => habort (congrArg _ hn)) ht' fun i' hi' => ?_)
    exact (Invocation.abort_view d n' i' t.shared).2.registers fun e => h.held hi'
  | turn n' =>
    refine Or.inl (hact (fun hn => hturn (congrArg _ hn)) ht' fun i' hi' => ?_)
    exact (Invocation.turn_view (hv n' i' hi')).2.registers fun e => h.held hi'
  | consume =>
    rw [ht', show (Move.after d k ⟨t, tick, .consume⟩).shared.board = t.shared.board from
      (shared_consume d k { t with now := tick }).2]
    exact Or.inl ⟨rfl, rfl⟩

end Registered

/-- **Every entry has its invocation in every journey** of invocations with different ids. -/
theorem Journey.registered {plans : List Plan} {state : σ} {line : τ} {sweeper : Option Sweeper}
    {deliveries : Agenda Delivery}
    (h : Journey d k (opening plans state line sweeper deliveries) ms t)
    (hids : (plans.map (·.id)).Nodup) : t.Registered := by
  induction h with
  | start =>
    have hi {n : Nat} {i : Invocation}
        (hi : (opening plans state line sweeper deliveries).invocations[n]? = some i) :
        ∃ p, plans[n]? = some p ∧ i = .ofPlan p := by
      obtain ⟨p, hp, rfl⟩ := Option.map_eq_some_iff.1 ((List.getElem?_map ..).symm.trans hi)
      exact ⟨p, hp, rfl⟩
    refine ⟨⟨_, Table.sound_empty⟩, ?_, ?_, ?_, nofun, nofun⟩
    · intro n n' i i' h h' hid
      obtain ⟨p, hp, rfl⟩ := hi h
      obtain ⟨p', hp', rfl⟩ := hi h'
      have hlt : n < (plans.map (·.id)).length := by
        rw [List.length_map]
        exact (List.getElem?_eq_some_iff.1 hp).1
      refine (List.getElem?_inj hlt hids).1 ?_
      rw [List.getElem?_map, List.getElem?_map, hp, hp']
      exact congrArg some hid
    · intro n i m h hm
      obtain ⟨p, -, rfl⟩ := hi h
      cases hm
    · intro n n' i i' m h _ hm
      obtain ⟨p, -, rfl⟩ := hi h
      cases hm
  | move hj hdue ih =>
    exact ih.move (fun n i hi => (hj.keepsTime_of_getElem? hi).2.onTime.visits) d k _ _

end Traffic

end Sluice
