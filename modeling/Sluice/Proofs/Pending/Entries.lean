import Sluice.Pending.Board
import Mathlib.Data.List.Induction
import Mathlib.Data.List.Nodup
import Mathlib.Tactic.SplitIfs

/-!
# Entries and boxes

What the operations of a table do to the entry of an id and to the box of a ticket.

* `Table.resolve_of_pending`, `Table.expire_of_pending`, `Table.deregister_of_find?` and their
  companions say what an operation does to the entry that it finds;
* `Table.Act` is an operation on one entry or one box; `Table.effect` says all that it
  can do, and `Table.Effect.find?_eq` and `Table.Effect.box_eq` what it leaves alone;
* `Table.sweep_eq` : a sweep expires the overdue entries one after the other, and counts those that
  it settles;
* `Board.table_expire`, `Board.register_of_absent` and their like : a board does the same to its
  table.
-/

namespace Sluice

namespace Table

variable {t : Table} {id : Uuid} {e : Entry}

/-! ### Finding -/

theorem mem_of_find? (h : t.find? id = some e) : (id, e) ∈ t.entries := by
  obtain ⟨l, r, hl, -⟩ := List.lookup_eq_some_iff.1 h
  rw [hl]
  simp

theorem find?_eq_none : t.find? id = none ↔ ∀ x ∈ t.entries, x.1 ≠ id := by
  unfold find?
  rw [List.lookup_eq_none_iff]
  simp only [bne_iff_ne, ne_comm]

theorem find?_remove (t : Table) (id j : Uuid) :
    (t.remove id).find? j = if j = id then none else t.find? j := by
  unfold remove find?
  induction t.entries with
  | nil => simp
  | cons x xs ih =>
    obtain ⟨k, e⟩ := x
    simp only [List.filter_cons, List.lookup_cons]
    grind

/-- Without the claim of an id to an answer. -/
def mark (t : Table) (id : Uuid) : Table :=
  { t with entries := t.entries.map fun x =>
      if x.1 = id then (x.1, { x.2 with isPending := false }) else x }

theorem find?_mark (t : Table) (id j : Uuid) : (t.mark id).find? j =
    (t.find? j).map fun e => if j = id then { e with isPending := false } else e := by
  unfold mark find?
  induction t.entries with
  | nil => rfl
  | cons x xs ih =>
    obtain ⟨k, e⟩ := x
    simp only [List.map_cons, List.lookup_cons]
    grind

theorem find?_mark_of_ne {j : Uuid} (h : j ≠ id) : (t.mark id).find? j = t.find? j := by
  simp [find?_mark, h]

theorem map_fst_mark (t : Table) (id : Uuid) :
    (t.mark id).entries.map (·.1) = t.entries.map (·.1) := by
  unfold mark
  rw [List.map_map]
  refine List.map_congr_left fun x _ => ?_
  simp only [Function.comp_apply]
  split_ifs <;> rfl

theorem box_putBox (t : Table) (m n : Nat) (b : Box) :
    (t.putBox m b).box n = if m = n ∧ n < t.boxes.length then b else t.box n := by
  unfold putBox box
  rw [List.getD_eq_getElem?_getD, List.getD_eq_getElem?_getD, List.getElem?_set]
  split_ifs <;> grind

/-! ### Operations -/

theorem register_of_find? (h : t.find? id = some e) (deadline : Instant) :
    t.register id deadline = (none, t) := by
  unfold register contains
  rw [h]
  rfl

theorem register_of_absent (h : t.find? id = none) (deadline : Instant) :
    t.register id deadline = (some t.boxes.length,
      ⟨t.entries ++ [(id, ⟨t.boxes.length, deadline, true⟩)], t.boxes ++ [.waiting]⟩) := by
  unfold register contains
  rw [h]
  rfl

theorem resolve_of_absent (h : t.find? id = none) (r : Response) :
    t.resolve id r = (.unknown, t) := by
  unfold resolve
  rw [h]

theorem resolve_of_settled (h : t.find? id = some e) (hp : e.isPending = false) (r : Response) :
    t.resolve id r = (.alreadySettled, t) := by
  unfold resolve
  rw [h]
  dsimp only
  rw [hp]
  rfl

theorem resolve_of_pending (h : t.find? id = some e) (hp : e.isPending = true) (r : Response) :
    t.resolve id r = (.settled, (t.putBox e.ticket (.holding (.completed r))).mark id) := by
  unfold resolve
  rw [h]
  dsimp only
  rw [hp]
  rfl

theorem expire_of_absent (h : t.find? id = none) : t.expire id = (false, t) := by
  unfold expire
  rw [h]

theorem expire_of_settled (h : t.find? id = some e) (hp : e.isPending = false) :
    t.expire id = (false, t) := by
  unfold expire
  rw [h]
  dsimp only
  rw [hp]
  rfl

theorem expire_of_pending (h : t.find? id = some e) (hp : e.isPending = true) :
    t.expire id = (true, (t.putBox e.ticket (.holding .expired)).remove id) := by
  unfold expire
  rw [h]
  dsimp only
  rw [hp]
  rfl

theorem deregister_of_absent (h : t.find? id = none) : t.deregister id = (false, t) := by
  unfold deregister
  rw [h]

theorem deregister_of_find? (h : t.find? id = some e) :
    t.deregister id =
      (true, (if e.isPending then t.putBox e.ticket .forsaken else t).remove id) := by
  unfold deregister
  rw [h]

theorem poll_of_waiting {n : Nat} (h : t.box n = .waiting) : t.poll n = (none, t) := by
  unfold poll
  rw [h]

theorem poll_of_holding {n : Nat} {s : Settlement} (h : t.box n = .holding s) :
    t.poll n = (some s, t.putBox n .collected) := by
  unfold poll
  rw [h]

theorem poll_of_forsaken {n : Nat} (h : t.box n = .forsaken) :
    t.poll n = (some .abandoned, t.putBox n .collected) := by
  unfold poll
  rw [h]

theorem poll_of_collected {n : Nat} (h : t.box n = .collected) :
    t.poll n = (some .abandoned, t) := by
  unfold poll
  rw [h]

/-! ### Acts -/

/-- An operation on one entry or one box. -/
inductive Act where
  /-- To register an id. -/
  | register (id : Uuid) (deadline : Instant)
  /-- To settle the entry of an id with an answer. -/
  | resolve (id : Uuid) (r : Response)
  /-- To settle the entry of an id as expired. -/
  | expire (id : Uuid)
  /-- To remove the entry of an id. -/
  | deregister (id : Uuid)
  /-- To collect what is in a box. -/
  | poll (ticket : Nat)
  deriving DecidableEq, Repr

/-- The id that an act is about. -/
def Act.id? : Act → Option Uuid
  | register id _ => some id
  | resolve id _ => some id
  | expire id => some id
  | deregister id => some id
  | poll _ => none

/-- The ticket whose box an act may touch. -/
def Act.ticket? (t : Table) : Act → Option Nat
  | register .. => none
  | resolve id _ => (t.find? id).map (·.ticket)
  | expire id => (t.find? id).map (·.ticket)
  | deregister id => (t.find? id).map (·.ticket)
  | poll n => some n

/-- The table after an act. -/
def after (t : Table) : Act → Table
  | .register id deadline => (t.register id deadline).2
  | .resolve id r => (t.resolve id r).2
  | .expire id => (t.expire id).2
  | .deregister id => (t.deregister id).2
  | .poll n => (t.poll n).2

/-- The table after some acts. -/
def afterAll (t : Table) (as : List Act) : Table := as.foldl after t

/-- Acts with the tables that they meet. -/
def trace (t : Table) : List Act → List (Table × Act)
  | [] => []
  | a :: as => (t, a) :: trace (t.after a) as

theorem afterAll_append (t : Table) (as bs : List Act) :
    t.afterAll (as ++ bs) = (t.afterAll as).afterAll bs := List.foldl_append

theorem trace_append (t : Table) (as bs : List Act) :
    t.trace (as ++ bs) = t.trace as ++ (t.afterAll as).trace bs := by
  induction as generalizing t with
  | nil => rfl
  | cons a as ih => exact congrArg ((t, a) :: ·) (ih (t.after a))

/-- The settlement of an act, if it settles an entry. -/
def Act.settlement? (t : Table) : Act → Option Settlement
  | resolve id r => if (t.resolve id r).1 = .settled then some (.completed r) else none
  | expire id => if (t.expire id).1 then some .expired else none
  | _ => none

/-- An act removes a pending entry. -/
def Act.forsakes (t : Table) : Act → Bool
  | deregister id => (t.find? id).any (·.isPending)
  | _ => false

/-- What an act collects. -/
def Act.delivery? (t : Table) : Act → Option Settlement
  | poll n => (t.poll n).1
  | _ => none

/-- What an act can do to a table. -/
inductive Effect (t : Table) : Act → Table → Prop where
  | still {a : Act} (hs : a.settlement? t = none) (hf : a.forsakes t = false)
    (hd : a.delivery? t = none) : Effect t a t
  | register {id : Uuid} {deadline : Instant} (h : t.find? id = none) :
    Effect t (.register id deadline)
      ⟨t.entries ++ [(id, ⟨t.boxes.length, deadline, true⟩)], t.boxes ++ [.waiting]⟩
  | resolve {id : Uuid} {r : Response} {e : Entry} (h : t.find? id = some e)
    (hp : e.isPending = true) :
    Effect t (.resolve id r) ((t.putBox e.ticket (.holding (.completed r))).mark id)
  | expire {id : Uuid} {e : Entry} (h : t.find? id = some e) (hp : e.isPending = true) :
    Effect t (.expire id) ((t.putBox e.ticket (.holding .expired)).remove id)
  | forsake {id : Uuid} {e : Entry} (h : t.find? id = some e) (hp : e.isPending = true) :
    Effect t (.deregister id) ((t.putBox e.ticket .forsaken).remove id)
  | drop {id : Uuid} {e : Entry} (h : t.find? id = some e) (hp : e.isPending = false) :
    Effect t (.deregister id) (t.remove id)
  | collect {n : Nat} {s : Settlement} (h : t.box n = .holding s) :
    Effect t (.poll n) (t.putBox n .collected)
  | abandon {n : Nat} (h : t.box n = .forsaken) : Effect t (.poll n) (t.putBox n .collected)
  | again {n : Nat} (h : t.box n = .collected) : Effect t (.poll n) t

/-- **An act does nothing else.** -/
theorem effect (t : Table) (a : Act) : Effect t a (t.after a) := by
  cases a with
  | register id deadline =>
    show Effect t _ (t.register id deadline).2
    cases h : t.find? id with
    | none =>
      rw [register_of_absent h]
      exact .register h
    | some e =>
      rw [register_of_find? h]
      exact .still rfl rfl rfl
  | resolve id r =>
    show Effect t _ (t.resolve id r).2
    cases h : t.find? id with
    | none =>
      rw [resolve_of_absent h]
      exact .still (by rw [Act.settlement?, resolve_of_absent h]; rfl) rfl rfl
    | some e =>
      cases hp : e.isPending with
      | false =>
        rw [resolve_of_settled h hp]
        exact .still (by rw [Act.settlement?, resolve_of_settled h hp]; rfl) rfl rfl
      | true =>
        rw [resolve_of_pending h hp]
        exact .resolve h hp
  | expire id =>
    show Effect t _ (t.expire id).2
    cases h : t.find? id with
    | none =>
      rw [expire_of_absent h]
      exact .still (by rw [Act.settlement?, expire_of_absent h]; rfl) rfl rfl
    | some e =>
      cases hp : e.isPending with
      | false =>
        rw [expire_of_settled h hp]
        exact .still (by rw [Act.settlement?, expire_of_settled h hp]; rfl) rfl rfl
      | true =>
        rw [expire_of_pending h hp]
        exact .expire h hp
  | deregister id =>
    show Effect t _ (t.deregister id).2
    cases h : t.find? id with
    | none =>
      rw [deregister_of_absent h]
      exact .still rfl (by rw [Act.forsakes, h]; rfl) rfl
    | some e =>
      rw [deregister_of_find? h]
      cases hp : e.isPending with
      | false => exact .drop h hp
      | true => exact .forsake h hp
  | poll n =>
    show Effect t _ (t.poll n).2
    cases h : t.box n with
    | waiting =>
      rw [poll_of_waiting h]
      exact .still rfl rfl (by rw [Act.delivery?, poll_of_waiting h])
    | holding s =>
      rw [poll_of_holding h]
      exact .collect h
    | forsaken =>
      rw [poll_of_forsaken h]
      exact .abandon h
    | collected =>
      rw [poll_of_collected h]
      exact .again h

/-- **An act leaves the entries of other ids alone.** -/
theorem Effect.find?_eq {a : Act} {t' : Table} (heff : Effect t a t') {j : Uuid}
    (h : a.id? ≠ some j) : t'.find? j = t.find? j := by
  have hne {id : Uuid} (hid : a.id? = some id) : j ≠ id := by
    rintro rfl
    exact h hid
  cases heff with
  | still => rfl
  | register =>
    unfold find?
    rw [List.lookup_append, List.lookup_cons, beq_false_of_ne (hne rfl)]
    exact Option.or_none
  | resolve => rw [find?_mark_of_ne (hne rfl)]; rfl
  | expire => rw [find?_remove, if_neg (hne rfl)]; rfl
  | forsake => rw [find?_remove, if_neg (hne rfl)]; rfl
  | drop => rw [find?_remove, if_neg (hne rfl)]
  | collect => rfl
  | abandon => rfl
  | again => rfl

theorem ticket_of_find? (h : t.find? id = some e) :
    (t.find? id).map (·.ticket) = some e.ticket := congrArg _ h

/-- **An act leaves the boxes of other tickets alone.** -/
theorem Effect.box_eq {a : Act} {t' : Table} (heff : Effect t a t') {n : Nat}
    (hn : n < t.boxes.length) (h : a.ticket? t ≠ some n) : t'.box n = t.box n := by
  have hput {m : Nat} (hm : a.ticket? t = some m) (b : Box) : (t.putBox m b).box n = t.box n := by
    rw [box_putBox, if_neg]
    rintro ⟨rfl, -⟩
    exact h hm
  cases heff with
  | still => rfl
  | register =>
    unfold box
    rw [List.getD_eq_getElem?_getD, List.getElem?_append_left hn, ← List.getD_eq_getElem?_getD]
  | resolve hf => exact hput (ticket_of_find? hf) _
  | expire hf => exact hput (ticket_of_find? hf) _
  | forsake hf => exact hput (ticket_of_find? hf) _
  | drop => rfl
  | collect => exact hput rfl _
  | abandon => exact hput rfl _
  | again => rfl

/-- Tickets stay given out. -/
theorem Effect.length_boxes_le {a : Act} {t' : Table} (heff : Effect t a t') :
    t.boxes.length ≤ t'.boxes.length := by
  have hset (m : Nat) (b : Box) : t.boxes.length ≤ (t.boxes.set m b).length :=
    Nat.le_of_eq List.length_set.symm
  cases heff with
  | still => exact Nat.le_refl _
  | register => rw [List.length_append]; exact Nat.le_add_right _ _
  | resolve => exact hset _ _
  | expire => exact hset _ _
  | forsake => exact hset _ _
  | drop => exact Nat.le_refl _
  | collect => exact hset _ _
  | abandon => exact hset _ _
  | again => exact Nat.le_refl _

/-- An act that registers nothing makes no box. -/
theorem length_boxes_after {a : Act} (h : ∀ id deadline, a ≠ .register id deadline) :
    (t.after a).boxes.length = t.boxes.length := by
  have heff := t.effect a
  generalize t.after a = t' at heff ⊢
  cases heff with
  | still | drop | again => rfl
  | register => exact absurd rfl (h _ _)
  | resolve | expire | forsake | collect | abandon => exact List.length_set

/-! ### Sweeps -/

/-- The acts of a sweep. -/
def sweepActs (t : Table) (now : Instant) : List Act := (t.overdue now).map .expire

/-- Expiries one after the other, from any count on. -/
theorem foldl_expire (ids : List Uuid) (n : Nat) (t : Table) :
    ids.foldl (fun (n, t) id =>
        match t.expire id with
        | (true, t) => (n + 1, t)
        | (false, t) => (n, t)) (n, t) =
      (n + (t.trace (ids.map .expire)).countP fun x => (x.2.settlement? x.1).isSome,
        t.afterAll (ids.map .expire)) := by
  induction ids generalizing n t with
  | nil => rfl
  | cons id ids ih =>
    obtain ⟨b, t', hb⟩ : ∃ b t', t.expire id = (b, t') := ⟨_, _, rfl⟩
    have hafter : t.after (.expire id) = t' := congrArg Prod.snd hb
    have hset : ((Act.expire id).settlement? t).isSome = b := by
      rw [Act.settlement?, hb]
      cases b <;> rfl
    rw [List.foldl_cons, List.map_cons, trace, List.countP_cons, hafter, hset, afterAll,
      List.foldl_cons, hafter]
    dsimp only
    rw [hb]
    cases b with
    | false => exact ih n t'
    | true =>
      refine (ih (n + 1) t').trans ?_
      rw [Nat.add_right_comm]
      rfl

theorem length_boxes_expiries (t : Table) (ids : List Uuid) :
    (t.afterAll (ids.map .expire)).boxes.length = t.boxes.length := by
  induction ids generalizing t with
  | nil => rfl
  | cons id ids ih => exact (ih (t.after (.expire id))).trans (length_boxes_after nofun)

/-- **A sweep expires the overdue entries** one after the other, and counts those that it
settles. -/
theorem sweep_eq (t : Table) (now : Instant) : t.sweep now =
    ((t.trace (t.sweepActs now)).countP fun x => (x.2.settlement? x.1).isSome,
      t.afterAll (t.sweepActs now)) := by
  refine (foldl_expire (t.overdue now) 0 t).trans ?_
  rw [Nat.zero_add]
  rfl

end Table

/-! ### Boards -/

namespace Board

variable (b : Board) (id : Uuid)

theorem table_deregister : (b.deregister id).2.table = (b.table.deregister id).2 := by
  unfold deregister
  cases h : b.table.find? id with
  | none => rw [Table.deregister_of_absent h]
  | some e => rw [Table.deregister_of_find? h]; rfl

theorem table_expire : (b.expire id).2.table = (b.table.expire id).2 := by
  unfold expire
  cases h : b.table.find? id with
  | none => rw [Table.expire_of_absent h]
  | some e =>
    cases hp : e.isPending with
    | false => rw [Table.expire_of_settled h hp]
    | true => rw [Table.expire_of_pending h hp]; rfl

theorem resolve_eq (r : Response) : ((b.resolve id r).1, (b.resolve id r).2.table) =
    b.table.resolve id r := by
  unfold resolve
  cases h : b.table.find? id with
  | none => rw [Table.resolve_of_absent h]
  | some e =>
    cases hp : e.isPending with
    | false => rw [Table.resolve_of_settled h hp]
    | true => rw [Table.resolve_of_pending h hp]

theorem register_of_absent (h : b.table.find? id = none) (deadline : Instant) :
    ∃ b', b.register id deadline = (.ok b.table.boxes.length, b') ∧
      b'.table = (b.table.register id deadline).2 := by
  unfold register
  rw [Table.register_of_absent h]
  exact ⟨_, rfl, rfl⟩

theorem register_of_find? {e : Entry} (h : b.table.find? id = some e) (deadline : Instant) :
    b.register id deadline = (.error (.duplicateId id), b) := by
  unfold register
  rw [Table.register_of_find? h]

end Board

end Sluice
