import Sluice.Pending.Listener
import Sluice.Proofs.Message.Framing
import Sluice.Proofs.Pending.Settlement
import Mathlib.Algebra.Ring.Nat
import Mathlib.Data.List.Basic
import Mathlib.Logic.Function.Iterate

/-!
# Delivery

Connections are read in any order, a frame at a time. What a connection brings depends on its own
stream alone, and an entry is settled by the first response that has its id.

* `Table.find?_answerAll`, `Table.Sound.box_answerAll`, `Table.Sound.claims_cons` : what answers,
  one after the other, do to the entries and boxes of a table, and how many entries they settle;
* `Intake.heed` : what comes of one reading, and `Intake.Heeded` what comes of several;
* `Connection.advance` : a connection after a step; `Connection.progress` says what a number of
  steps read and where they lead;
* `Intake.run_eq` : in every order the connections go as if each were alone, and what they bring is
  heeded in this order;
* `Intake.delivery` : what is delivered, and what has been counted.
-/

namespace Sluice

/-! ### Answers to a table -/

namespace Table

variable {t : Table} {hist : Nat → Record} {id : Uuid} {e : Entry}

/-- The table after some answers, one after the other. -/
def answerAll (t : Table) (rs : List Response) : Table :=
  t.afterAll (rs.map fun r => .resolve r.id r)

theorem answerAll_cons (t : Table) (r : Response) (rs : List Response) :
    t.answerAll (r :: rs) = (t.after (.resolve r.id r)).answerAll rs := rfl

theorem find?_after_resolve (t : Table) (j id : Uuid) (r : Response) :
    (t.after (.resolve j r)).find? id =
      (t.find? id).map fun e => if id = j then { e with isPending := false } else e := by
  by_cases hid : id = j
  · subst hid
    change (t.resolve id r).2.find? id = _
    cases hf : t.find? id with
    | none => rw [resolve_of_absent hf, hf, Option.map_none]
    | some e =>
      cases hp : e.isPending with
      | false =>
        rw [resolve_of_settled hf hp, hf, Option.map_some, if_pos rfl, ← hp]
      | true =>
        rw [resolve_of_pending hf hp, find?_mark, show (t.putBox _ _).find? id = _ from hf]
  · simpa [hid] using (t.effect (.resolve j r)).find?_eq fun hc => hid (Option.some.inj hc).symm

/-- **An entry stays, and is pending until an answer has its id.** -/
theorem find?_answerAll (t : Table) (rs : List Response) (id : Uuid) :
    (t.answerAll rs).find? id = (t.find? id).map fun e =>
      { e with isPending := e.isPending && rs.all (·.id ≠ id) } := by
  induction rs generalizing t with
  | nil => simp [answerAll, afterAll]
  | cons r rs ih =>
    rw [answerAll_cons, ih, find?_after_resolve, Option.map_map]
    refine congrArg (Option.map · _) (funext fun e => ?_)
    by_cases hid : id = r.id
    · simp [hid]
    · simp [hid, Ne.symm hid]

/-- The answer that an entry gets out of several. -/
def answer? (e : Entry) (id : Uuid) (rs : List Response) : Option Response :=
  if e.isPending then rs.find? (·.id = id) else none

/-- **The box of an entry holds the first answer that has its id**, if the entry was pending;
otherwise it is left alone. -/
theorem Sound.box_answerAll (h : Sound t hist) (hf : t.find? id = some e) (rs : List Response) :
    (t.answerAll rs).box e.ticket =
      (answer? e id rs).elim (t.box e.ticket) fun r => .holding (.completed r) := by
  induction rs generalizing t hist e with
  | nil => simp [answerAll, afterAll, answer?]
  | cons r rs ih =>
    have hnext := h.effect (t.effect (.resolve r.id r))
    have hfind := find?_after_resolve t r.id id r
    rw [hf, Option.map_some] at hfind
    rw [answerAll_cons]
    by_cases hid : id = r.id
    · subst hid
      rw [if_pos rfl] at hfind
      -- After its own answer the entry is not pending, so that no other answer matters.
      refine (ih hnext hfind).trans ?_
      change (t.resolve r.id r).2.box e.ticket = _
      cases hp : e.isPending with
      | false => simp [resolve_of_settled hf hp, answer?, hp]
      | true =>
        have hbox := t.box_putBox e.ticket e.ticket (.holding (.completed r))
        rw [if_pos ⟨rfl, h.ticket_lt _ (mem_of_find? hf)⟩] at hbox
        rw [resolve_of_pending hf hp]
        simpa [answer?, hp] using! hbox
    · rw [if_neg hid] at hfind
      rw [ih hnext hfind, (t.effect _).box_eq (h.ticket_lt _ (mem_of_find? hf))]
      · simp [answer?, Ne.symm hid]
      · -- The answer goes to another ticket.
        intro hc
        obtain ⟨e', hf', ht⟩ := Option.map_eq_some_iff.1 hc
        exact hid (congrArg Prod.fst (h.eq_of_ticket hf (mem_of_find? hf') ht)).symm

/-- How many pending entries have the id of some answer. -/
def claims (t : Table) (rs : List Response) : Nat :=
  t.entries.countP fun x => x.2.isPending && rs.any (·.id = x.1)

/-- Where ids have one entry each, the entry of an id can be counted apart. -/
theorem countP_of_lookup {xs : List (Uuid × Entry)} (hnodup : (xs.map (·.1)).Nodup)
    (h : xs.lookup id = some e) (p : Uuid × Entry → Bool) :
    xs.countP p = xs.countP (fun x => p x && x.1 != id) + (p (id, e)).toNat := by
  induction xs with
  | nil => cases h
  | cons x xs ih =>
    obtain ⟨k, v⟩ := x
    rw [List.map_cons, List.nodup_cons] at hnodup
    rw [List.lookup_cons] at h
    by_cases hk : id = k
    · subst hk
      obtain rfl : v = e := by simpa using h
      have hrest : xs.countP (fun x => p x && x.1 != id) = xs.countP p := by
        refine List.countP_congr ?_
        intro x hx
        have hne : x.1 ≠ id := fun hc => hnodup.1 (List.mem_map.2 ⟨x, hx, hc⟩)
        simp [hne]
      cases hp : p (id, v) <;> simp [hp, hrest]
    · rw [beq_false_of_ne hk] at h
      have hne : k ≠ id := Ne.symm hk
      cases hp : p (k, v) <;> simp [hp, hne, ih hnodup.2 h, Nat.add_right_comm]

/-- **An answer settles one of the entries that have claimed one, or none.** -/
theorem Sound.claims_cons (h : Sound t hist) (r : Response) (rs : List Response) :
    t.claims (r :: rs) = (t.after (.resolve r.id r)).claims rs +
      (decide ((t.resolve r.id r).1 = .settled)).toNat := by
  have hskip (hno : ∀ x ∈ t.entries, x.1 = r.id → x.2.isPending = false) :
      t.claims (r :: rs) = t.claims rs := by
    refine List.countP_congr ?_
    intro x hx
    by_cases hid : r.id = x.1
    · simp [hno x hx hid.symm]
    · simp [hid]
  change _ = (t.resolve r.id r).2.claims rs + _
  cases hf : t.find? r.id with
  | none =>
    rw [resolve_of_absent hf, hskip]
    · rfl
    · intro x hx hid
      exact absurd hid (find?_eq_none.1 hf x hx)
  | some e =>
    cases hp : e.isPending with
    | false =>
      rw [resolve_of_settled hf hp, hskip]
      · rfl
      · intro x hx hid
        rw [h.eq_of_id hf hx hid, hp]
    | true =>
      rw [resolve_of_pending hf hp]
      change _ = List.countP _ (t.entries.map _) + _
      rw [claims, countP_of_lookup h.nodup_ids hf, List.countP_map]
      congr 1
      · refine List.countP_congr ?_
        intro x _
        by_cases hid : x.1 = r.id
        · simp [hid]
        · simp [hid, Ne.symm hid]
      · simp [hp]

theorem answerAll_append (t : Table) (rs rs' : List Response) :
    t.answerAll (rs ++ rs') = (t.answerAll rs).answerAll rs' := by
  unfold answerAll
  rw [List.map_append, afterAll_append]

theorem Sound.answerAll (h : Sound t hist) (rs : List Response) :
    ∃ hist', Sound (t.answerAll rs) hist' := by
  induction rs generalizing t hist with
  | nil => exact ⟨hist, h⟩
  | cons r rs ih => exact ih (h.effect (t.effect (.resolve r.id r)))

/-- Entries that have been settled do not claim an answer any more. -/
theorem Sound.claims_append (h : Sound t hist) (rs rs' : List Response) :
    t.claims (rs ++ rs') = t.claims rs + (t.answerAll rs).claims rs' := by
  induction rs generalizing t hist with
  | nil => simp [claims, Table.answerAll, afterAll]
  | cons r rs ih =>
    rw [List.cons_append, h.claims_cons, h.claims_cons, ih (h.effect (t.effect _)),
      answerAll_cons, Nat.add_right_comm]

end Table

/-! ### What a reading does to a board -/

namespace Frame

/-- The response that is found. -/
def Found.response? : Found → Option Response
  | .response r => some r
  | .done | .fault _ | .broken _ => none

/-- What is found is no frame. -/
def Found.isFault : Found → Bool
  | .fault _ => true
  | .response _ | .done | .broken _ => false

/-- What a source ended with is no frame. -/
def Ending.isFault : Ending → Bool
  | .fault _ => true
  | .done | .broken _ => false

end Frame

namespace Intake

open Sluice.Frame (Found Ending)

variable {bound : Nat}

/-- What comes of a reading. -/
def heed (b : Board) : Found → Board
  | .response r => receive r b
  | .done => finish .done b
  | .fault f => finish (.fault f) b
  | .broken text => finish (.broken text) b

/-- What has come of responses and of something else than frames, read `faults` times. -/
structure Heeded (b : Board) (rs : List Response) (faults : Nat) (b' : Board) : Prop where
  table : b'.table = b.table.answerAll rs
  received : b'.tally.received = b.tally.received + rs.length
  malformed : b'.tally.malformed = b.tally.malformed + faults
  balance : ∀ hist, b.table.Sound hist →
    b'.tally.duplicates + b'.tally.unknown + b.table.claims rs =
      b.tally.duplicates + b.tally.unknown + rs.length

theorem heeded_nil (b : Board) : Heeded b [] 0 b where
  table := rfl
  received := rfl
  malformed := rfl
  balance _ _ := by simp [Table.claims]

theorem heeded_malform (b : Board) : Heeded b [] 1 { b with tally := b.tally.malform } where
  table := rfl
  received := rfl
  malformed := rfl
  balance _ _ := by simp [Table.claims, Tally.malform]

/-- A response is for a pending entry, or it is counted as a duplicate or an unknown one. -/
theorem heeded_receive (b : Board) (r : Response) : Heeded b [r] 0 (receive r b) := by
  obtain ⟨outcome, t, hres⟩ : ∃ outcome t, b.table.resolve r.id r = (outcome, t) := ⟨_, _, rfl⟩
  have htable : t = b.table.answerAll [r] := (congrArg Prod.snd hres).symm
  have hclaims {hist : Nat → Table.Record} (h : b.table.Sound hist) :
      b.table.claims [r] = (decide (outcome = .settled)).toNat := by
    rw [h.claims_cons, hres]
    simp [Table.claims]
  unfold receive Board.resolve
  simp only [hres]
  cases outcome with
  | settled =>
    refine ⟨htable, rfl, rfl, fun hist h => ?_⟩
    simp [hclaims h, Tally.receive]
  | alreadySettled =>
    refine ⟨htable, rfl, rfl, fun hist h => ?_⟩
    simp [hclaims h, Tally.receive, Tally.duplicate, Nat.add_right_comm]
  | unknown =>
    refine ⟨htable, rfl, rfl, fun hist h => ?_⟩
    simp [hclaims h, Tally.receive, Tally.unknownId, Nat.add_assoc]

theorem heeded_heed (b : Board) (x : Found) :
    Heeded b x.response?.toList x.isFault.toNat (heed b x) := by
  cases x with
  | response r => exact heeded_receive b r
  | done => exact heeded_nil b
  | fault f => exact heeded_malform b
  | broken text => exact heeded_nil b

theorem Heeded.append {b b₁ b₂ : Board} {rs rs' : List Response} {m n : Nat}
    (h : Heeded b rs m b₁) (h' : Heeded b₁ rs' n b₂) : Heeded b (rs ++ rs') (m + n) b₂ := by
  refine ⟨?_, ?_, ?_, ?_⟩
  · rw [h'.table, h.table, Table.answerAll_append]
  · rw [h'.received, h.received, List.length_append, Nat.add_assoc]
  · rw [h'.malformed, h.malformed, Nat.add_assoc]
  · intro hist hsound
    obtain ⟨hist', hsound'⟩ := hsound.answerAll rs
    have hfirst := h.balance hist hsound
    have hsecond := h'.balance hist' (h.table ▸ hsound')
    rw [hsound.claims_append, List.length_append, ← h.table]
    omega

/-- **What comes of some readings**, one after the other. -/
theorem heeded_foldl (b : Board) (xs : List Found) :
    Heeded b (xs.filterMap Found.response?) (xs.countP Found.isFault) (xs.foldl heed b) := by
  induction xs generalizing b with
  | nil => exact heeded_nil b
  | cons x xs ih =>
    have happend := (heeded_heed b x).append (ih (heed b x))
    rw [Nat.add_comm] at happend
    cases x <;> simpa [List.countP_cons, Found.response?, Found.isFault] using! happend

end Intake

/-! ### Connections -/

namespace Connection

open Sluice.Frame (Found Ending)

variable {bound : Nat} {c : Connection}

/-- A connection after a step. -/
def advance (bound : Nat) (c : Connection) : Connection := (Intake.step bound c .empty).1

/-- What a step reads, unless the connection has ended. -/
def found? (bound : Nat) (c : Connection) : Option Found :=
  if c.ending.isSome then none else some (Frame.next bound c.source).1

/-- What a number of steps read. -/
def readings (bound : Nat) : Nat → Connection → List Found
  | 0, _ => []
  | k + 1, c => (c.found? bound).toList ++ readings bound k (c.advance bound)

/-- **A step leads a connection on whatever the board is**, and heeds what it reads. -/
theorem step_eq (bound : Nat) (c : Connection) (b : Board) :
    Intake.step bound c b = (c.advance bound, (c.found? bound).elim b (Intake.heed b)) := by
  unfold advance found? Intake.step
  cases c.ending with
  | some e => rfl
  | none =>
    obtain ⟨x, rest⟩ := Frame.next bound c.source
    cases x <;> rfl

/-- The connection has carried something else than frames. -/
def isFaulty (c : Connection) : Bool := c.ending.any Ending.isFault

theorem advance_of_ended (bound : Nat) {e : Ending} (h : c.ending = some e) :
    c.found? bound = none ∧ c.advance bound = c := by
  unfold found? advance Intake.step
  rw [h]
  exact ⟨rfl, rfl⟩

theorem advance_of_response {src rest : Source} {r : Response} (d : Nat)
    (h : Frame.next bound src = (.response r, rest)) :
    found? bound ⟨src, d, none⟩ = some (.response r) ∧
      advance bound ⟨src, d, none⟩ = ⟨rest, d + 1, none⟩ := by
  simp [found?, advance, Intake.step, h]

theorem advance_of_ending {src : Source} {e : Ending} (d : Nat)
    (h : (Frame.next bound src).1.ending? = some e) :
    ∃ x rest, found? bound ⟨src, d, none⟩ = some x ∧ x.response? = none ∧
      x.isFault = e.isFault ∧ advance bound ⟨src, d, none⟩ = ⟨rest, d, some e⟩ := by
  obtain ⟨x, rest, hx⟩ : ∃ x rest, Frame.next bound src = (x, rest) := ⟨_, _, rfl⟩
  rw [hx] at h
  refine ⟨x, rest, by simp [found?, hx], ?_⟩
  cases x <;> cases h <;> simp [advance, Intake.step, hx, Found.response?, Found.isFault,
    Ending.isFault]

/-- Nothing is read from a connection that has ended. -/
theorem readings_of_ended (bound : Nat) {e : Ending} (h : c.ending = some e) (k : Nat) :
    c.readings bound k = [] ∧ (advance bound)^[k] c = c := by
  induction k with
  | zero => exact ⟨rfl, rfl⟩
  | succ k ih =>
    obtain ⟨hfound, hadvance⟩ := advance_of_ended bound h
    rw [readings, Function.iterate_succ_apply, hfound, hadvance]
    exact ih

/-- How far a number of steps get in a stream that brings responses and then an ending. -/
structure Progress (rs : List Response) (e : Ending) (d k : Nat) (xs : List Found)
    (c : Connection) : Prop where
  responses : xs.filterMap Found.response? = rs.take k
  dispatched : c.dispatched = d + min k rs.length
  ending : c.ending = if rs.length < k then some e else none

/-- **Each step reads the next response of the stream**, and the one after them all its ending. -/
theorem progress (bound : Nat) (src : Source) (d k : Nat) :
    Progress (Frame.readAll bound src).1 (Frame.readAll bound src).2 d k
      (readings bound k ⟨src, d, none⟩) ((advance bound)^[k] ⟨src, d, none⟩) := by
  induction src using Frame.next_induction bound generalizing d k with
  | response src r rest h ih =>
    rw [Frame.readAll_of_response h]
    cases k with
    | zero => exact ⟨rfl, by simp, rfl⟩
    | succ k =>
      obtain ⟨hfound, hadvance⟩ := advance_of_response d h
      obtain ⟨hresponses, hdispatched, hending⟩ := ih (d + 1) k
      rw [readings, Function.iterate_succ_apply, hfound, hadvance]
      refine ⟨?_, ?_, ?_⟩
      · simpa [Found.response?] using hresponses
      · rw [hdispatched, List.length_cons]
        omega
      · simpa using hending
  | ending src e h =>
    rw [Frame.readAll_of_ending h]
    cases k with
    | zero => exact ⟨rfl, by simp, rfl⟩
    | succ k =>
      obtain ⟨x, rest, hfound, hx, -, hadvance⟩ := advance_of_ending d h
      obtain ⟨hreadings, hstays⟩ := readings_of_ended bound (c := ⟨rest, d, some e⟩) rfl k
      rw [readings, Function.iterate_succ_apply, hfound, hadvance, hreadings, hstays]
      exact ⟨by simp [hx], by simp, by simp⟩

/-- A step counts what it reads. -/
theorem dispatched_advance (bound : Nat) (c : Connection) : (c.advance bound).dispatched =
    c.dispatched + (c.found? bound).elim 0 (·.response?.isSome.toNat) := by
  unfold advance found? Intake.step
  cases c.ending with
  | some e => rfl
  | none =>
    obtain ⟨x, rest⟩ := Frame.next bound c.source
    cases x <;> rfl

theorem isFaulty_advance (bound : Nat) (c : Connection) : (c.advance bound).isFaulty.toNat =
    c.isFaulty.toNat + (c.found? bound).elim 0 (·.isFault.toNat) := by
  unfold advance found? Intake.step isFaulty
  cases h : c.ending with
  | some e => simp [h]
  | none =>
    obtain ⟨x, rest⟩ := Frame.next bound c.source
    cases x <;> rfl

end Connection

/-! ### Many connections -/

namespace Intake

open Sluice.Frame (Found Ending)

variable {bound : Nat}

/-- What is read from connections in the order of their places, with these. -/
def readings (bound : Nat) : List Nat → List Connection → List (Nat × Found)
  | [], _ => []
  | place :: places, cs =>
    (cs[place]?.bind (·.found? bound)).toList.map (place, ·) ++
      readings bound places (cs.modify place (·.advance bound))

/-- The responses among it. -/
def log (bound : Nat) (places : List Nat) (cs : List Connection) : List (Nat × Response) :=
  (readings bound places cs).filterMap fun x => x.2.response?.map (x.1, ·)

theorem stepAt_eq (bound place : Nat) (cs : List Connection) (b : Board) :
    stepAt bound place cs b = (cs.modify place (·.advance bound),
      (cs[place]?.bind (·.found? bound)).elim b (heed b)) := by
  unfold stepAt
  rw [List.modify_eq_set_getElem?]
  cases h : cs[place]? with
  | none => simp
  | some c => simp [Connection.step_eq]

/-- **The connections go on as if each were alone, and the board heeds what is read in its
order.** -/
theorem run_eq (bound : Nat) (places : List Nat) (cs : List Connection) (b : Board) :
    run bound places cs b = (places.foldl (fun cs n => cs.modify n (·.advance bound)) cs,
      ((readings bound places cs).map (·.2)).foldl heed b) := by
  induction places generalizing cs b with
  | nil => rfl
  | cons place places ih =>
    rw [run, stepAt_eq]
    dsimp only
    rw [ih, readings]
    cases cs[place]?.bind (·.found? bound) <;> simp

/-- A connection is led on as often as its place comes. -/
theorem getElem?_run (bound : Nat) (places : List Nat) (cs : List Connection) (b : Board)
    (n : Nat) : (run bound places cs b).1[n]? =
      cs[n]?.map ((Connection.advance bound)^[places.count n]) := by
  rw [run_eq]
  dsimp only
  induction places generalizing cs with
  | nil => simp
  | cons place places ih =>
    rw [List.foldl_cons, ih, List.getElem?_modify, List.count_cons, Option.map_eq_map,
      Option.map_map]
    by_cases hplace : place = n
    · simp [hplace, Function.iterate_succ]
    · simp only [hplace, beq_iff_eq, if_false, Nat.add_zero]
      rfl

/-- What is read from one connection does not depend on the others. -/
theorem filter_readings (bound : Nat) (places : List Nat) (cs : List Connection) (n : Nat) :
    ((readings bound places cs).filter (·.1 = n)).map (·.2) =
      (cs[n]?.map (·.readings bound (places.count n))).getD [] := by
  induction places generalizing cs with
  | nil => cases cs[n]? <;> rfl
  | cons place places ih =>
    rw [readings, List.filter_append, List.map_append, ih, List.getElem?_modify, List.count_cons]
    by_cases hplace : place = n
    · subst hplace
      cases h : cs[place]? with
      | none => simp
      | some c => cases hc : c.found? bound <;> simp [hc, Connection.readings]
    · have hfilter (x : Option Found) :
          ((x.toList.map (place, ·)).filter (·.1 = n)).map (·.2) = [] := by
        cases x <;> simp [hplace]
      simp [hfilter, hplace]

theorem sum_map_toNat {α : Type} (p : α → Bool) (xs : List α) :
    (xs.map fun x => (p x).toNat).sum = xs.countP p := by
  induction xs with
  | nil => rfl
  | cons x xs ih => cases hp : p x <;> simp [hp, ih, Nat.add_comm]

/-- **What each step adds to a connection, a run adds to all of them together.** -/
theorem sum_run (g : Connection → Nat) (h : Found → Nat)
    (hstep : ∀ c, g (c.advance bound) = g c + (c.found? bound).elim 0 h) (places : List Nat)
    (cs : List Connection) (b : Board) :
    ((run bound places cs b).1.map g).sum =
      (cs.map g).sum + ((readings bound places cs).map fun x => h x.2).sum := by
  have hmodify (cs : List Connection) (n : Nat) :
      ((cs.modify n (·.advance bound)).map g).sum =
        (cs.map g).sum + (cs[n]?.bind (·.found? bound)).elim 0 h := by
    induction cs generalizing n with
    | nil => simp
    | cons c cs ih =>
      cases n with
      | zero => simp [hstep, Nat.add_right_comm]
      | succ n => simp [ih, Nat.add_assoc]
  rw [run_eq]
  dsimp only
  induction places generalizing cs with
  | nil => rfl
  | cons place places ih =>
    rw [List.foldl_cons, ih, hmodify, readings, Nat.add_assoc]
    cases cs[place]?.bind (·.found? bound) <;> simp

theorem log_map_snd (bound : Nat) (places : List Nat) (cs : List Connection) :
    (log bound places cs).map (·.2) =
      ((readings bound places cs).map (·.2)).filterMap Found.response? := by
  unfold log
  rw [List.map_filterMap, List.filterMap_map]
  simp [Function.comp_def]

theorem log_filter (bound : Nat) (places : List Nat) (cs : List Connection) (n : Nat) :
    ((log bound places cs).filter (·.1 = n)).map (·.2) =
      (((readings bound places cs).filter (·.1 = n)).map (·.2)).filterMap Found.response? := by
  unfold log
  induction readings bound places cs with
  | nil => rfl
  | cons x xs ih =>
    obtain ⟨m, x⟩ := x
    by_cases hm : m = n <;> cases hx : x.response? <;> simp [hm, hx, ih]

/-- **What has come of reading connections**, each from its beginning, in the order of `places`: the
responses are `log`, each with the place of its connection. -/
structure Delivery (bound : Nat) (srcs : List Source) (places : List Nat) (b : Board)
    (log : List (Nat × Response)) (cs : List Connection) (b' : Board) : Prop where
  /-- A connection brings the responses of all frames that its stream begins with, in their order
  and as far as it has been read, whatever the others carry. -/
  connection : ∀ n src, srcs[n]? = some src → ∃ rs e c, Frame.readAll bound src = (rs, e) ∧
    Frame.Longest bound src.bytes rs ∧ cs[n]? = some c ∧
    (log.filter (·.1 = n)).map (·.2) = rs.take (places.count n) ∧
    c.dispatched = min (places.count n) rs.length ∧
    c.ending = if rs.length < places.count n then some e else none
  /-- Nothing else is brought. -/
  origin : ∀ x ∈ log, x.1 < srcs.length
  /-- A pending entry is settled by the first response that has its id. -/
  settled : ∀ id e, b.table.find? id = some e → e.isPending = true →
    (b'.table.poll e.ticket).1 = (log.find? (·.2.id = id)).map fun x => .completed x.2
  /-- An entry stays in the table, and it is pending until a response has its id. -/
  entry : ∀ id, b'.table.find? id = (b.table.find? id).map fun e =>
    { e with isPending := e.isPending && log.all (·.2.id ≠ id) }
  /-- An entry that had been settled before, or whose id no response has, is left alone. -/
  untouched : ∀ id e, b.table.find? id = some e →
    (e.isPending = false ∨ ∀ x ∈ log, x.2.id ≠ id) →
      b'.table.find? id = some e ∧ b'.table.box e.ticket = b.table.box e.ticket
  /-- All responses are counted, -/
  received : b'.tally.received = b.tally.received + log.length
  /-- each by its connection too. -/
  dispatched : log.length = (cs.map (·.dispatched)).sum
  /-- The connections that have carried something else than frames are counted. -/
  malformed : b'.tally.malformed = b.tally.malformed + cs.countP Connection.isFaulty
  /-- Each response has settled an entry, or is counted as a duplicate or an unknown one; those that
  have settled one are as many as the pending entries whose id a response has. -/
  balance : b.tally.duplicates + b.tally.unknown + log.length =
    (b.table.entries.countP fun x => x.2.isPending && log.any (·.2.id = x.1)) +
      (b'.tally.duplicates + b'.tally.unknown)

theorem lt_of_mem_log {places : List Nat} {cs : List Connection} {x : Nat × Response}
    (h : x ∈ log bound places cs) : x.1 < cs.length := by
  obtain ⟨y, hy, hyx⟩ := List.mem_filterMap.1 h
  obtain ⟨r, -, rfl⟩ := Option.map_eq_some_iff.1 hyx
  clear h hyx
  change y.1 < cs.length
  induction places generalizing cs with
  | nil => cases hy
  | cons place places ih =>
    rcases List.mem_append.1 hy with hy | hy
    · obtain ⟨z, hz, rfl⟩ := List.mem_map.1 hy
      obtain ⟨c, hc, -⟩ := Option.bind_eq_some_iff.1 (Option.mem_toList.1 hz)
      exact (List.getElem?_eq_some_iff.1 hc).1
    · have hlt := ih hy
      rwa [List.length_modify] at hlt

/-- The connections count all responses. -/
theorem length_log (bound : Nat) (places : List Nat) (srcs : List Source) (b : Board) :
    (log bound places (srcs.map .ofSource)).length =
      ((run bound places (srcs.map .ofSource) b).1.map (·.dispatched)).sum := by
  have hzero : ((srcs.map Connection.ofSource).map (·.dispatched)).sum = 0 := by
    simp [Function.comp_def, Connection.ofSource]
  rw [sum_run _ _ (Connection.dispatched_advance bound), hzero, Nat.zero_add, sum_map_toNat, log,
    List.length_filterMap_eq_countP]
  simp

/-- The connections that have carried something else than frames are as many as such readings. -/
theorem countP_isFault (bound : Nat) (places : List Nat) (srcs : List Source) (b : Board) :
    (readings bound places (srcs.map .ofSource)).countP (·.2.isFault) =
      (run bound places (srcs.map .ofSource) b).1.countP Connection.isFaulty := by
  have hzero : ((srcs.map Connection.ofSource).map (·.isFaulty.toNat)).sum = 0 := by
    simp [Function.comp_def, Connection.ofSource, Connection.isFaulty]
  have hsum := sum_run (·.isFaulty.toNat) (·.isFault.toNat) (Connection.isFaulty_advance bound)
    places (srcs.map .ofSource) b
  rw [hzero, Nat.zero_add, sum_map_toNat, sum_map_toNat] at hsum
  exact hsum.symm

theorem heeded_run (bound : Nat) (places : List Nat) (cs : List Connection) (b : Board) :
    Heeded b ((log bound places cs).map (·.2)) ((readings bound places cs).countP (·.2.isFault))
      (run bound places cs b).2 := by
  have hfold := heeded_foldl b ((readings bound places cs).map (·.2))
  rw [← log_map_snd, List.countP_map] at hfold
  rw [run_eq]
  exact hfold

/-- **A connection brings the responses of its own stream.** -/
theorem connection_run {srcs : List Source} {n : Nat} {src : Source} (h : srcs[n]? = some src)
    (bound : Nat) (places : List Nat) (b : Board) :
    ∃ c, (run bound places (srcs.map .ofSource) b).1[n]? = some c ∧
      Connection.Progress (Frame.readAll bound src).1 (Frame.readAll bound src).2 0 (places.count n)
        (((readings bound places (srcs.map .ofSource)).filter (·.1 = n)).map (·.2)) c := by
  have hc : (srcs.map Connection.ofSource)[n]? = some ⟨src, 0, none⟩ := by
    rw [List.getElem?_map, h]
    rfl
  rw [getElem?_run, filter_readings, hc]
  exact ⟨_, rfl, Connection.progress bound src 0 (places.count n)⟩

theorem delivery_of_sound {b : Board} {hist : Nat → Table.Record} (h : b.table.Sound hist)
    (bound : Nat) (places : List Nat) (srcs : List Source) :
    Delivery bound srcs places b (log bound places (srcs.map .ofSource))
      (run bound places (srcs.map .ofSource) b).1 (run bound places (srcs.map .ofSource) b).2 := by
  have hheeded := heeded_run bound places (srcs.map .ofSource) b
  rw [countP_isFault bound places srcs b] at hheeded
  have hlength := length_log bound places srcs b
  have hfilter := log_filter bound places (srcs.map .ofSource)
  have hlt {x : Nat × Response} (hx : x ∈ log bound places (srcs.map .ofSource)) :
      x.1 < srcs.length := by
    have := lt_of_mem_log hx
    rwa [List.length_map] at this
  -- What happens to the table depends on the responses alone.
  generalize log bound places (srcs.map .ofSource) = log at *
  have hentry (id : Uuid) : (run bound places (srcs.map .ofSource) b).2.table.find? id =
      (b.table.find? id).map fun e =>
        { e with isPending := e.isPending && log.all (·.2.id ≠ id) } := by
    rw [hheeded.table, Table.find?_answerAll, List.all_map]
    rfl
  have hbox {id : Uuid} {e : Entry} (hf : b.table.find? id = some e) :
      (run bound places (srcs.map .ofSource) b).2.table.box e.ticket =
        (if e.isPending then (log.find? (·.2.id = id)).map (·.2) else none).elim
          (b.table.box e.ticket) fun r => .holding (.completed r) := by
    rw [hheeded.table, h.box_answerAll hf, Table.answer?, List.find?_map]
    rfl
  refine ⟨?_, fun x => hlt, ?_, hentry, ?_, ?_, hlength, hheeded.malformed, ?_⟩
  · intro n src hsrc
    obtain ⟨c, hc, hprogress⟩ := connection_run hsrc bound places b
    refine ⟨_, _, c, rfl, Frame.longest_readAll bound src, hc, ?_, ?_, hprogress.ending⟩
    · rw [hfilter, hprogress.responses]
    · rw [hprogress.dispatched, Nat.zero_add]
  · intro id e hf hp
    have hbox' := hbox hf
    rw [if_pos hp, h.pending _ (Table.mem_of_find? hf) hp] at hbox'
    cases hfound : log.find? (·.2.id = id) with
    | none =>
      rw [hfound] at hbox'
      rw [Table.poll_of_waiting hbox']
      rfl
    | some x =>
      rw [hfound] at hbox'
      rw [Table.poll_of_holding hbox']
      rfl
  · rintro id e hf (hp | hno)
    · rw [hentry, hbox hf, hf]
      cases e
      cases hp
      exact ⟨rfl, rfl⟩
    · have hall : log.all (·.2.id ≠ id) = true := by simpa using hno
      have hnone : log.find? (·.2.id = id) = none := by simpa using hno
      rw [hentry, hbox hf, hf, hall, hnone]
      simp
  · rw [hheeded.received, List.length_map]
  · have hbalance := hheeded.balance hist h
    rw [Table.claims, List.length_map] at hbalance
    simp only [List.any_map, Function.comp_def] at hbalance
    omega

/-- **Delivery.** Whatever streams are read in whatever order, with whatever entries in a table that
has come about somehow: each connection brings the responses of its own frames, each pending entry
is settled by the first response that has its id, the others are left alone, and everything is
counted once. -/
theorem delivery (bound : Nat) (now : Instant) (os : List Desk.Op) (tally : Tally)
    (srcs : List Source) (places : List Nat) :
    let b : Board := ⟨((Desk.start now).run os).table, tally⟩
    Delivery bound srcs places b (log bound places (srcs.map .ofSource))
      (run bound places (srcs.map .ofSource) b).1 (run bound places (srcs.map .ofSource) b).2 :=
  delivery_of_sound (Desk.sound_run now os) bound places srcs

end Intake

end Sluice
