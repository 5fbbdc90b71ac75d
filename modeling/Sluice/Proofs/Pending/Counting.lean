import Sluice.Proofs.Pending.Entries
import Mathlib.Algebra.Ring.Nat
import Mathlib.Data.List.Count
import Mathlib.Data.List.Nodup
import Mathlib.Data.List.Perm.Basic

/-!
# Everything about pending requests is counted

An id comes into a table by a registration and leaves it by being deregistered or by expiring. What
the calls of a board answer tells how many entries there are, and which.

* `Table.count_ids_remove`, `Table.expire_overdue` : what removing an id, and a sweep, do to the ids
  of a table;
* `Board.Op`, `Board.trace` : calls, and a run with the boards that they meet;
* `Board.Turnover` : the ids before a call and those that it registers are those that it removes and
  those after it; `Board.turnover` shows it call by call;
* `Board.Counted` : the entries, the number shown and the counts of answers after a run;
  `Board.everything_counted` : they are right after every run.
-/

namespace Sluice

/-! ### The ids of a table -/

namespace Table

variable {t : Table} {id : Uuid} {e : Entry}

/-- The ids of the entries. -/
def ids (t : Table) : List Uuid := t.entries.map (·.1)

theorem length_ids (t : Table) : t.ids.length = t.size := List.length_map _

theorem mem_ids : id ∈ t.ids ↔ ∃ e, t.find? id = some e := by
  constructor
  · intro h
    by_contra hnone
    have habsent : t.find? id = none := by simpa [Option.eq_none_iff_forall_ne_some] using hnone
    obtain ⟨x, hx, hid⟩ := List.mem_map.1 h
    exact find?_eq_none.1 habsent x hx hid
  · rintro ⟨e, he⟩
    exact List.mem_map.2 ⟨_, mem_of_find? he, rfl⟩

theorem contains_iff : t.contains id = true ↔ id ∈ t.ids := by
  rw [mem_ids, contains, Option.isSome_iff_exists]

theorem ids_remove (t : Table) (id : Uuid) : (t.remove id).ids = t.ids.filter (· != id) := by
  simp [ids, remove, List.filter_map, Function.comp_def]

theorem nodup_ids_remove (h : t.ids.Nodup) (id : Uuid) : (t.remove id).ids.Nodup := by
  rw [ids_remove]
  exact h.filter _

/-- Where ids have one entry each, removing an id takes one away. -/
theorem count_ids_remove (h : t.ids.Nodup) (hid : id ∈ t.ids) (j : Uuid) :
    t.ids.count j = [id].count j + (t.remove id).ids.count j := by
  rw [ids_remove]
  by_cases hj : j = id
  · subst hj
    simp [List.count_eq_one_of_mem h hid, List.count_eq_zero]
  · simp [List.count_filter, hj, Ne.symm hj]

/-! ### Sweeps -/

theorem ids_expire (hf : t.find? id = some e) (hp : e.isPending = true) :
    (t.after (.expire id)).ids = (t.remove id).ids := by
  simp [after, expire_of_pending hf hp, ids, remove, putBox]

theorem find?_after_expire_of_ne {j : Uuid} (hj : j ≠ id) :
    (t.after (.expire id)).find? j = t.find? j :=
  (t.effect (.expire id)).find?_eq fun hc => hj (Option.some.inj hc).symm

/-- When one id has expired, others are as pending as before. -/
theorem pending_after_expire {js : List Uuid} (hid : id ∉ js)
    (hpending : ∀ j ∈ js, ∃ e, t.find? j = some e ∧ e.isPending = true) :
    ∀ j ∈ js, ∃ e, (t.after (.expire id)).find? j = some e ∧ e.isPending = true := by
  intro j hj
  rw [find?_after_expire_of_ne (ne_of_mem_of_not_mem hj hid)]
  exact hpending j hj

/-- Ids that are pending expire one after the other. -/
theorem expire_each {js : List Uuid} (hjs : js.Nodup) (h : t.ids.Nodup)
    (hpending : ∀ j ∈ js, ∃ e, t.find? j = some e ∧ e.isPending = true) :
    ((t.trace (js.map .expire)).countP fun x => (x.2.settlement? x.1).isSome) = js.length ∧
      (t.afterAll (js.map .expire)).ids.Nodup ∧
      ∀ j, t.ids.count j = js.count j + (t.afterAll (js.map .expire)).ids.count j := by
  induction js generalizing t with
  | nil => simp [trace, afterAll, h]
  | cons id js ih =>
    obtain ⟨e, hf, hp⟩ := hpending id List.mem_cons_self
    obtain ⟨hid, hjs⟩ := List.nodup_cons.1 hjs
    have hids := ids_expire hf hp
    have hsettles : ((Act.expire id).settlement? t).isSome = true := by
      simp [Act.settlement?, expire_of_pending hf hp]
    obtain ⟨hcount, hnodup, hsplit⟩ := ih hjs (hids ▸ nodup_ids_remove h id)
      (pending_after_expire hid fun j hj => hpending j (List.mem_cons_of_mem _ hj))
    refine ⟨?_, hnodup, ?_⟩
    · simp [trace, hsettles, hcount]
    · intro j
      have hone := count_ids_remove h (mem_ids.2 ⟨e, hf⟩) j
      have hmore := hsplit j
      have hall : t.afterAll ((id :: js).map .expire) =
          (t.after (.expire id)).afterAll (js.map .expire) := rfl
      rw [hids] at hmore
      rw [hall, ← List.singleton_append, List.count_append]
      omega

theorem nodup_overdue (h : t.ids.Nodup) (now : Instant) : (t.overdue now).Nodup :=
  h.sublist (List.filter_sublist.map _)

theorem pending_of_mem_overdue (h : t.ids.Nodup) {now : Instant} {j : Uuid}
    (hj : j ∈ t.overdue now) : ∃ e, t.find? j = some e ∧ e.isPending = true := by
  obtain ⟨x, hx, rfl⟩ := List.mem_map.1 hj
  obtain ⟨hxt, hover⟩ := List.mem_filter.1 hx
  obtain ⟨e, he⟩ := mem_ids.1 (List.mem_map.2 ⟨x, hxt, rfl⟩)
  have hxe : x = (x.1, e) := List.inj_on_of_nodup_map h hxt (mem_of_find? he) rfl
  refine ⟨e, he, ?_⟩
  rw [hxe, isOverdue, Bool.and_eq_true] at hover
  exact hover.1

/-- **A sweep expires the overdue entries**, all of them, and answers how many there were. -/
theorem expire_overdue (h : t.ids.Nodup) (now : Instant) :
    (t.sweep now).1 = (t.overdue now).length ∧ (t.sweep now).2.ids.Nodup ∧
      ∀ j, t.ids.count j = (t.overdue now).count j + (t.sweep now).2.ids.count j := by
  rw [sweep_eq]
  exact expire_each (nodup_overdue h now) h fun j => pending_of_mem_overdue h

end Table

/-! ### Calls -/

namespace Board

/-- What can be asked of a board. -/
inductive Op where
  /-- To register an id. -/
  | register (id : Uuid) (deadline : Instant)
  /-- To settle the entry of an id with an answer. -/
  | resolve (id : Uuid) (r : Response)
  /-- To expire an id. -/
  | expire (id : Uuid)
  /-- To remove an id. -/
  | deregister (id : Uuid)
  /-- To expire every overdue entry. -/
  | sweep (now : Instant)
  deriving DecidableEq, Repr

/-- The board after a call. -/
def after (b : Board) : Op → Board
  | .register id deadline => (b.register id deadline).2
  | .resolve id r => (b.resolve id r).2
  | .expire id => (b.expire id).2
  | .deregister id => (b.deregister id).2
  | .sweep now => (b.sweep now).2

/-- The board after some calls, the first one to an empty board. -/
def run (ops : List Op) : Board := ops.foldl after .empty

/-- Calls with the boards that they meet, the first one `b`. -/
def traceFrom (b : Board) : List Op → List (Board × Op)
  | [] => []
  | op :: ops => (b, op) :: traceFrom (b.after op) ops

/-- The calls of a run with the boards that they meet. -/
def trace (ops : List Op) : List (Board × Op) := traceFrom .empty ops

/-- The id that a call registers, if it succeeds. -/
def enters (b : Board) : Op → List Uuid
  | .register id deadline => if (b.register id deadline).1.isOk then [id] else []
  | _ => []

/-- The id that a call deregisters, if it succeeds. -/
def leaves (b : Board) : Op → List Uuid
  | .deregister id => if (b.deregister id).1 then [id] else []
  | _ => []

/-- The ids that a call expires: its own, if it succeeds, or in a sweep all that are overdue. -/
def expires (b : Board) : Op → List Uuid
  | .expire id => if (b.expire id).1 then [id] else []
  | .sweep now => b.table.overdue now
  | _ => []

/-- How many entries a call expires, as it answers. -/
def expirations (b : Board) : Op → Nat
  | .expire id => (b.expire id).1.toNat
  | .sweep now => (b.sweep now).1
  | _ => 0

/-- A call brings an answer for an entry. -/
def Op.isResolve : Op → Bool
  | resolve _ _ => true
  | _ => false

/-- A call brings an answer for an entry and settles it. -/
def settles (b : Board) : Op → Bool
  | .resolve id r => (b.resolve id r).1 = .settled
  | _ => false

/-! ### What a call does -/

/-- The ids before a call and those that it registers are those that it removes and those after it.
The number shown stays that of the entries, and an answer is counted unless it settles its entry. -/
structure Turnover (b : Board) (op : Op) : Prop where
  nodup : (b.after op).table.ids.Nodup
  count : ∀ j, b.table.ids.count j + (b.enters op).count j =
    (b.leaves op).count j + (b.expires op).count j + (b.after op).table.ids.count j
  expirations : b.expirations op = (b.expires op).length
  pending : b.tally.pending = b.table.size →
    (b.after op).tally.pending = (b.after op).table.size
  answers : b.tally.duplicates + b.tally.unknown + op.isResolve.toNat =
    (b.settles op).toNat + ((b.after op).tally.duplicates + (b.after op).tally.unknown)

variable {b : Board}

theorem turnover_register (h : b.table.ids.Nodup) (id : Uuid) (deadline : Instant) :
    b.Turnover (.register id deadline) := by
  cases hf : b.table.find? id with
  | some e =>
    have hres := b.register_of_find? id hf deadline
    constructor <;> simp [after, enters, leaves, expires, Board.expirations, settles, hres, h,
      Op.isResolve, Except.isOk, Except.toBool]
  | none =>
    have hres := Table.register_of_absent hf deadline
    have hid : id ∉ b.table.ids := by simp [Table.mem_ids, hf]
    constructor
    · have hids : (b.after (.register id deadline)).table.ids = b.table.ids ++ [id] := by
        simp [after, register, hres, recount, Table.ids]
      rw [hids]
      exact h.append (List.nodup_singleton id) (by simpa using hid)
    · intro j
      simp [after, register, hres, recount, Table.ids, enters, leaves, expires, Except.isOk,
        Except.toBool]
    · rfl
    · intro _
      simp [after, register, hres, recount, Tally.setPending]
    · simp [after, register, hres, recount, Tally.setPending, settles, Op.isResolve]

theorem turnover_resolve (h : b.table.ids.Nodup) (id : Uuid) (r : Response) :
    b.Turnover (.resolve id r) := by
  cases hf : b.table.find? id with
  | none =>
    have hres := Table.resolve_of_absent hf r
    constructor <;> simp [after, enters, leaves, expires, Board.expirations, settles, resolve,
      hres, h, Op.isResolve, Tally.unknownId, Nat.add_assoc]
  | some e =>
    cases hp : e.isPending with
    | false =>
      have hres := Table.resolve_of_settled hf hp r
      constructor <;> simp [after, enters, leaves, expires, Board.expirations, settles, resolve,
        hres, h, Op.isResolve, Tally.duplicate, Nat.add_right_comm]
    | true =>
      have hres := Table.resolve_of_pending hf hp r
      have hids : ((b.table.putBox e.ticket (.holding (.completed r))).mark id).ids =
          b.table.ids := Table.map_fst_mark _ id
      have hsize : ((b.table.putBox e.ticket (.holding (.completed r))).mark id).size =
          b.table.size := by rw [← Table.length_ids, hids, Table.length_ids]
      constructor <;> simp [after, enters, leaves, expires, Board.expirations, settles, resolve,
        hres, hids, hsize, h, Op.isResolve, Nat.add_comm]

theorem turnover_expire (h : b.table.ids.Nodup) (id : Uuid) : b.Turnover (.expire id) := by
  -- An entry that is not pending stays, and so does everything else.
  have hstill (hres : b.table.expire id = (false, b.table)) : b.Turnover (.expire id) := by
    constructor <;> simp [after, enters, leaves, expires, Board.expirations, settles, expire,
      hres, h, Op.isResolve]
  cases hf : b.table.find? id with
  | none => exact hstill (Table.expire_of_absent hf)
  | some e =>
    cases hp : e.isPending with
    | false => exact hstill (Table.expire_of_settled hf hp)
    | true =>
      have hres := Table.expire_of_pending hf hp
      have hids : ((b.table.putBox e.ticket (.holding .expired)).remove id).ids =
          (b.table.remove id).ids := rfl
      constructor
      · simpa [after, expire, hres, recount, hids] using Table.nodup_ids_remove h id
      · intro j
        simpa [after, enters, leaves, expires, expire, hres, recount, hids] using
          Table.count_ids_remove h (Table.mem_ids.2 ⟨e, hf⟩) j
      · simp [Board.expirations, expires, expire, hres]
      · intro _
        simp [after, expire, hres, recount, Tally.setPending]
      · simp [after, expire, hres, recount, Tally.setPending, settles, Op.isResolve]

theorem turnover_deregister (h : b.table.ids.Nodup) (id : Uuid) :
    b.Turnover (.deregister id) := by
  cases hf : b.table.find? id with
  | none =>
    have hres := Table.deregister_of_absent hf
    constructor <;> simp [after, enters, leaves, expires, Board.expirations, settles, deregister,
      hres, h, Op.isResolve]
  | some e =>
    have hres := Table.deregister_of_find? hf
    have hids : ((if e.isPending then b.table.putBox e.ticket .forsaken else b.table).remove
        id).ids = (b.table.remove id).ids := by
      split <;> rfl
    constructor
    · simpa [after, deregister, hres, recount, hids] using Table.nodup_ids_remove h id
    · intro j
      simpa [after, enters, leaves, expires, deregister, hres, recount, hids] using
        Table.count_ids_remove h (Table.mem_ids.2 ⟨e, hf⟩) j
    · rfl
    · intro _
      simp [after, deregister, hres, recount, Tally.setPending]
    · simp [after, deregister, hres, recount, Tally.setPending, settles, Op.isResolve]

theorem turnover_sweep (h : b.table.ids.Nodup) (now : Instant) : b.Turnover (.sweep now) := by
  obtain ⟨hcount, hnodup, hsplit⟩ := Table.expire_overdue h now
  obtain ⟨n, t, hres⟩ : ∃ n t, b.table.sweep now = (n, t) := ⟨_, _, rfl⟩
  rw [hres] at hcount hnodup hsplit
  cases n with
  | zero =>
    have hnone : b.table.overdue now = [] := List.length_eq_zero_iff.1 hcount.symm
    constructor <;> simp [after, enters, leaves, expires, Board.expirations, settles, sweep,
      hres, hnone, h, Op.isResolve]
  | succ n =>
    constructor
    · simpa [after, sweep, hres, recount] using hnodup
    · intro j
      simpa [after, enters, leaves, expires, sweep, hres, recount] using hsplit j
    · simpa [Board.expirations, expires, sweep, hres] using hcount
    · intro _
      simp [after, sweep, hres, recount, Tally.setPending]
    · simp [after, sweep, hres, recount, Tally.setPending, settles, Op.isResolve]

/-- **Ids come and go as the calls answer.** -/
theorem turnover (h : b.table.ids.Nodup) (op : Op) : b.Turnover op := by
  cases op with
  | register id deadline => exact turnover_register h id deadline
  | resolve id r => exact turnover_resolve h id r
  | expire id => exact turnover_expire h id
  | deregister id => exact turnover_deregister h id
  | sweep now => exact turnover_sweep h now

/-! ### Runs -/

theorem run_append_singleton (ops : List Op) (op : Op) :
    run (ops ++ [op]) = (run ops).after op := by
  simp [run, List.foldl_append]

theorem traceFrom_append (b : Board) (ops ops' : List Op) :
    traceFrom b (ops ++ ops') = traceFrom b ops ++ traceFrom (ops.foldl after b) ops' := by
  induction ops generalizing b with
  | nil => rfl
  | cons op ops ih => exact congrArg ((b, op) :: ·) (ih (b.after op))

theorem trace_append_singleton (ops : List Op) (op : Op) :
    trace (ops ++ [op]) = trace ops ++ [(run ops, op)] := traceFrom_append _ ops [op]

/-- The ids that have been registered, each time. -/
def entered (ops : List Op) : List Uuid := (trace ops).flatMap fun x => x.1.enters x.2

/-- The ids that have been deregistered, each time. -/
def left (ops : List Op) : List Uuid := (trace ops).flatMap fun x => x.1.leaves x.2

/-- The ids that have expired, each time. -/
def expired (ops : List Op) : List Uuid := (trace ops).flatMap fun x => x.1.expires x.2

/-- How many entries have expired, as the calls answered. -/
def expiries (ops : List Op) : Nat := ((trace ops).map fun x => x.1.expirations x.2).sum

/-- What has been done to the ids, and counted, is what the table and the tally show. -/
structure Balance (ops : List Op) : Prop where
  nodup : (run ops).table.ids.Nodup
  count : ∀ j, (entered ops).count j =
    (left ops).count j + (expired ops).count j + (run ops).table.ids.count j
  expiries : expiries ops = (expired ops).length
  pending : (run ops).tally.pending = (run ops).table.size
  answers : (trace ops).countP (fun x => x.2.isResolve) =
    (trace ops).countP (fun x => x.1.settles x.2) +
      ((run ops).tally.duplicates + (run ops).tally.unknown)

/-- The balance is kept by every call. -/
theorem balance (ops : List Op) : Balance ops := by
  induction ops using List.reverseRecOn with
  | nil => exact ⟨List.nodup_nil, fun _ => rfl, rfl, rfl, rfl⟩
  | append_singleton ops op ih =>
    have hturn := turnover ih.nodup op
    have hrun := run_append_singleton ops op
    have htrace := trace_append_singleton ops op
    constructor
    · rw [hrun]
      exact hturn.nodup
    · intro j
      have hbefore := ih.count j
      have hcall := hturn.count j
      simp only [entered, left, expired, htrace, hrun, List.flatMap_append,
        List.flatMap_singleton, List.count_append] at hbefore ⊢
      omega
    · have hbefore := ih.expiries
      have hcall := hturn.expirations
      simp only [Board.expiries, expired, htrace, List.map_append, List.sum_append,
        List.flatMap_append, List.flatMap_singleton, List.length_append, List.map_singleton,
        List.sum_singleton] at hbefore ⊢
      omega
    · rw [hrun]
      exact hturn.pending ih.pending
    · have hbefore := ih.answers
      have hcall := hturn.answers
      have hone (p : Bool) : p.toNat = if p = true then 1 else 0 := by cases p <;> rfl
      rw [hone, hone] at hcall
      rw [htrace, hrun, List.countP_append, List.countP_append, List.countP_singleton,
        List.countP_singleton]
      dsimp only
      omega

/-- What a run has done to the entries is what can be seen of them. -/
structure Counted (ops : List Op) : Prop where
  /-- There are as many entries as registrations that were not deregistered and did not expire. -/
  size : (run ops).table.size + (left ops).length + expiries ops = (entered ops).length
  /-- Those are the ids that the table contains. -/
  contains : ∀ id, (entered ops).count id = (left ops).count id + (expired ops).count id +
    ((run ops).table.contains id).toNat
  expiries : expiries ops = (expired ops).length
  isEmpty : (run ops).table.isEmpty = true ↔ (run ops).table.size = 0
  /-- The number shown is that of the entries. -/
  pending : (run ops).tally.pending = (run ops).table.size
  /-- An answer settles an entry or is counted as a duplicate or as one for nobody. -/
  answers : (trace ops).countP (fun x => x.2.isResolve) =
    (trace ops).countP (fun x => x.1.settles x.2) +
      ((run ops).tally.duplicates + (run ops).tally.unknown)
  /-- A registration of an id that is in the table changes nothing. -/
  refused : ∀ id deadline, (run ops).table.contains id = true →
    (run ops).register id deadline = (.error (.duplicateId id), run ops)
  accepted : ∀ id deadline, (run ops).table.contains id = false →
    ((run ops).register id deadline).1.isOk = true

/-- **Everything about pending requests is counted**, after every run. -/
theorem everything_counted (ops : List Op) : Counted ops := by
  have hbal := balance ops
  have hperm : (entered ops).Perm (left ops ++ expired ops ++ (run ops).table.ids) := by
    rw [List.perm_iff_count]
    intro j
    rw [hbal.count j, List.count_append, List.count_append]
  constructor
  · have hlen := hperm.length_eq
    rw [List.length_append, List.length_append, Table.length_ids] at hlen
    rw [hlen, hbal.expiries]
    omega
  · intro id
    rw [hbal.count id, Nat.add_right_inj]
    by_cases hid : id ∈ (run ops).table.ids
    · rw [List.count_eq_one_of_mem hbal.nodup hid, Table.contains_iff.2 hid]
      rfl
    · rw [List.count_eq_zero.2 hid, Bool.eq_false_iff.2 (mt Table.contains_iff.1 hid)]
      rfl
  · exact hbal.expiries
  · simp [Table.isEmpty, Table.size]
  · exact hbal.pending
  · exact hbal.answers
  · intro id deadline hid
    obtain ⟨e, hf⟩ := Option.isSome_iff_exists.1 hid
    exact register_of_find? _ id hf deadline
  · intro id deadline hid
    have hf : (run ops).table.find? id = none := by simpa [Table.contains] using hid
    simp [register, Table.register_of_absent hf, Except.isOk, Except.toBool]

end Board

end Sluice
