import Sluice.Proofs.Dispatch.Fate
import Sluice.Proofs.Dispatch.Sending
import Sluice.Proofs.Dispatch.Stages

/-!
# Every invocation walks the diagram

Whatever is done, in whatever order, the stages of each invocation are a path of the diagram. One
that returns does so once, in the stage of its result, and is counted once.

* `Traffic.returns` : what has been returned; `Traffic.told` : the stages to which an invocation was
  to go;
* `Traffic.Move.ends_after` : what a move does to what is counted about endings;
* `Traffic.Record` : where the invocations are, what they have returned, and what has been counted;
* `Traffic.Passage.walks_diagram` : what this says about stages, results and counts.
-/

namespace Sluice

theorem Stage.label_inj {a b : Stage} : a.label = b.label ↔ a = b := by
  refine ⟨fun h => ?_, congrArg _⟩
  cases a <;> cases b <;> first | rfl | exact absurd h (by decide)

/-! ### Counting -/

namespace Ends

variable {e : Ends} {seconds : Float}

/-- The number of ends in a stage that have been counted. -/
def count (e : Ends) (stage : Stage) : Nat := (e.1.find? stage.label).getD 0

/-- How long those took that ended in a stage, the last one first. -/
def times (e : Ends) (stage : Stage) : List Float := (e.2.find? stage.label).getD []

theorem count_add (a b : Stage) :
    (e.add a.label seconds).count b = e.count b + if a = b then 1 else 0 := by
  rw [count, add, Tally.bump, Catalog.update, Catalog.find?_insert]
  by_cases h : a = b
  · subst h
    rw [if_pos rfl, if_pos rfl]
    rfl
  · rw [if_neg fun hl => h (Stage.label_inj.1 hl).symm, if_neg h]
    rfl

theorem times_add (a b : Stage) :
    (e.add a.label seconds).times b = (if a = b then [seconds] else []) ++ e.times b := by
  rw [times, add, Catalog.update, Catalog.find?_insert]
  by_cases h : a = b
  · subst h
    rw [if_pos rfl, if_pos rfl]
    rfl
  · rw [if_neg fun hl => h (Stage.label_inj.1 hl).symm, if_neg h]
    rfl

end Ends

theorem Phase.result?_eq_some {ph : Phase} {r : Except Failure Reply} :
    ph.result? = some r ↔ ∃ at', ph = .ended at' r := by
  cases ph with
  | ended at' r' => simp [result?]
  | coming | admission | handing | awaiting | dropped | broken => simp [result?]

theorem Invocation.isOver_of_result? {i : Invocation} {r : Except Failure Reply}
    (h : i.phase.result? = some r) : i.isOver = true := by
  obtain ⟨at', hp⟩ := Phase.result?_eq_some.1 h
  rw [isOver, hp]

namespace Traffic

variable {σ τ : Type} {d : Dispatcher σ τ} {k : Consumer} {t : Traffic σ τ}
  {ms : List (Move σ τ)} {m : Move σ τ} {i : Invocation} {n : Nat} {plans : List Plan}

/-! ### What is returned, and which stages belong to it -/

/-- A result that an invocation has returned. -/
structure Return where
  /-- The number of the invocation. -/
  number : Nat
  /-- The result. -/
  result : Except Failure Reply
  /-- The seconds that the invocation took. -/
  seconds : Float

/-- The stage in which an invocation with this result ends. -/
def Return.stage (x : Return) : Stage := .ofResult x.result

/-- What an invocation returns in a move. -/
def Move.returns? (d : Dispatcher σ τ) (m : Move σ τ) : Option Return :=
  (m.inTurn? fun n i =>
    (i.returns? d n m.tick m.before.shared).map fun r => (⟨n, r, i.seconds m.tick⟩ : Return)).map
    (·.2)

/-- The stages to which an invocation is to go in a move. -/
def Move.told (d : Dispatcher σ τ) (n : Nat) (m : Move σ τ) : List Stage :=
  match m.inTurn? fun j i => some (i.told d j m.tick m.before.shared) with
  | some (j, stages) => if j = n then stages else []
  | none => []

/-- What has been returned. -/
def returns (d : Dispatcher σ τ) (ms : List (Move σ τ)) : List Return :=
  ms.filterMap (·.returns? d)

/-- The stages to which an invocation was to go, the first one first. -/
def told (d : Dispatcher σ τ) (n : Nat) (ms : List (Move σ τ)) : List Stage :=
  ms.flatMap (·.told d n)

theorem returns_append : returns d (ms ++ [m]) = returns d ms ++ (m.returns? d).toList :=
  filterMap_concat _ _ _

theorem told_append : told d n (ms ++ [m]) = told d n ms ++ m.told d n := by
  rw [told, List.flatMap_append, List.flatMap_singleton]
  rfl

theorem Move.told_turn (he : m.errand = .turn n) (hi : m.before.invocations[n]? = some i) :
    m.told d n = i.told d n m.tick m.before.shared := by
  rw [told, inTurn?_turn he hi]
  exact if_pos rfl

theorem Move.told_of_ne (h : m.errand ≠ .turn n) : m.told d n = [] := by
  unfold told
  split
  · rename_i hx
    refine if_neg ?_
    rintro rfl
    exact h (inTurn?_eq_some hx).1
  · rfl

theorem Move.returns?_turn (he : m.errand = .turn n) (hi : m.before.invocations[n]? = some i) :
    m.returns? d = (i.returns? d n m.tick m.before.shared).map (⟨n, ·, i.seconds m.tick⟩) := by
  rw [returns?, inTurn?_turn he hi, Option.map_map, Option.map_map]
  rfl

theorem Move.returns?_of_ne (h : ∀ n, m.errand ≠ .turn n) : m.returns? d = none := by
  rw [returns?, inTurn?_of_ne h]
  rfl

theorem Move.returns?_of_none (he : m.errand = .turn n)
    (hi : m.before.invocations[n]? = none) : m.returns? d = none := by
  rw [returns?, inTurn?_of_none he hi]
  rfl

/-- Who returns a result was not over, and has ended with it. -/
theorem Move.of_returns? {x : Return} (h : m.returns? d = some x) :
    m.errand = .turn x.number ∧ ∃ i, m.before.invocations[x.number]? = some i ∧
      i.isOver = false ∧
        (i.turn d x.number m.tick m.before.shared).1.phase.result? = some x.result := by
  obtain ⟨y, hy, rfl⟩ := Option.map_eq_some_iff.1 h
  obtain ⟨he, i, hi, hr⟩ := inTurn?_eq_some hy
  obtain ⟨r, hr, hx⟩ := Option.map_eq_some_iff.1 hr
  rw [← hx]
  unfold Invocation.returns? at hr
  split_ifs at hr with hover
  exact ⟨he, i, hi, Bool.eq_false_iff.2 hover, hr⟩

/-- An invocation that is over stays as it is. -/
theorem Move.getElem?_of_isOver (hi : m.before.invocations[n]? = some i)
    (hover : i.isOver = true) : (m.after d k).invocations[n]? = some i :=
  ((Passage.start.move m.tick m.errand).ended hi hover).1

/-! ### One move -/

/-- **What is counted about endings changes by what is returned.** -/
theorem Move.ends_after (hstore : d.store.FailsPlainly)
    (hv : ∀ i ∈ m.before.invocations, i.Visits)
    (hst : ∀ i ∈ m.before.invocations, Invocation.Stands i.plan.id i.phase i.course) :
    (m.after d k).shared.ends = (m.returns? d).elim m.before.shared.ends fun x =>
      m.before.shared.ends.add x.stage.label x.seconds := by
  cases he : m.errand with
  | deliver place x =>
    rw [returns?_of_ne (by simp [he]), after, he]
    exact Board.ends_resolve _ _ _
  | sweep w =>
    rw [returns?_of_ne (by simp [he]), after, he]
    exact Board.ends_sweep _ _
  | consume =>
    rw [returns?_of_ne (by simp [he]), after, he]
    exact congrArg (·.tally.ends) (shared_consume d k { m.before with now := m.tick }).2
  | abort n =>
    rw [returns?_of_ne (by simp [he])]
    cases hi : m.before.invocations[n]? with
    | none => exact congrArg Shared.ends (after_of_none (Or.inl he) hi).2
    | some i =>
      rw [(after_abort he hi).2]
      exact ((hst i (List.mem_of_getElem? hi)).abort d n m.before.shared).2.2
  -- Only a turn can end an invocation with a result, and then it counts that one.
  | turn n =>
    cases hi : m.before.invocations[n]? with
    | none =>
      rw [returns?_of_none he hi]
      exact congrArg Shared.ends (after_of_none (Or.inr he) hi).2
    | some i =>
      have hi' := List.mem_of_getElem? hi
      rw [(after_turn he hi).2, returns?_turn he hi,
        ((hst i hi').turn hstore (hv i hi') n m.tick m.before.shared).2.2]
      cases i.returns? d n m.tick m.before.shared <;> rfl

/-! ### All moves -/

/-- How far the invocations have come, what they have returned, and what has been counted. -/
structure Chronicle (d : Dispatcher σ τ) (ms : List (Move σ τ)) (t : Traffic σ τ) : Prop where
  /-- Each invocation has come as far as it stands. -/
  stands : ∀ (n : Nat) (i : Invocation), t.invocations[n]? = some i →
    Invocation.Stands i.plan.id i.phase i.course
  /-- It has gone to the stages to which it was to go. -/
  walks : ∀ (n : Nat) (i : Invocation), t.invocations[n]? = some i →
    (Course.begin i.plan.id).Walks (told d n ms) i.course
  /-- Who has returned a result has ended with it. -/
  returned : ∀ x ∈ returns d ms, ∃ i, t.invocations[x.number]? = some i ∧
    i.phase.result? = some x.result
  /-- Who has ended has returned the result. -/
  ended : ∀ (n : Nat) (i : Invocation) r, t.invocations[n]? = some i → i.phase.result? = some r →
    ∃ x ∈ returns d ms, x.number = n ∧ x.result = r
  /-- Nobody has returned two results. -/
  once : ((returns d ms).map (·.number)).Nodup
  /-- Each return has been counted in its stage, and nothing else. -/
  count : ∀ stage, t.shared.ends.count stage = (returns d ms).countP (·.stage = stage)
  /-- Its seconds have been noted there. -/
  times : ∀ stage, t.shared.ends.times stage =
    ((returns d ms).filter (·.stage = stage)).reverse.map (·.seconds)

theorem chronicle_opening (state : σ) (line : τ) (sweeper : Option Sweeper)
    (deliveries : Agenda Delivery) :
    Chronicle d [] (opening plans state line sweeper deliveries) := by
  have hplan {n : Nat} {i : Invocation}
      (hi : (opening plans state line sweeper deliveries).invocations[n]? = some i) :
      ∃ p, i = .ofPlan p := by
    change (plans.map Invocation.ofPlan)[n]? = some i at hi
    rw [List.getElem?_map] at hi
    obtain ⟨p, -, rfl⟩ := Option.map_eq_some_iff.1 hi
    exact ⟨p, rfl⟩
  refine ⟨?_, ?_, fun x hx => absurd hx List.not_mem_nil, ?_, List.nodup_nil, fun _ => rfl,
    fun _ => rfl⟩
  · intro n i hi
    obtain ⟨p, rfl⟩ := hplan hi
    exact .early rfl
  · intro n i hi
    obtain ⟨p, rfl⟩ := hplan hi
    exact .stays _
  · intro n i r hi hr
    obtain ⟨p, rfl⟩ := hplan hi
    cases hr

namespace Chronicle

variable {i' : Invocation}

/-- What is done leaves each invocation where it goes. -/
theorem goes_after (h : Chronicle d ms m.before) (hstore : d.store.FailsPlainly)
    (hv : ∀ i ∈ m.before.invocations, i.Visits)
    (hi' : (m.after d k).invocations[n]? = some i') :
    Invocation.Stands i'.plan.id i'.phase i'.course ∧
      (Course.begin i'.plan.id).Walks (told d n (ms ++ [m])) i'.course := by
  obtain ⟨i, hi, horigin⟩ := Move.exists_origin hi'
  have hst := h.stands n i hi
  have hwalks := h.walks n i hi
  have hvisits := hv i (List.mem_of_getElem? hi)
  rw [told_append]
  cases horigin with
  | turn he =>
    have hplan : (i.turn d n m.tick m.before.shared).1.plan = i.plan :=
      (Invocation.turn_view hvisits).1
    obtain ⟨hstands, hmoves, -⟩ := hst.turn hstore hvisits n m.tick m.before.shared
    rw [hplan, Move.told_turn he hi]
    exact ⟨hstands, hwalks.append hmoves⟩
  | abort he =>
    obtain ⟨hstands, hsame, -⟩ := hst.abort d n m.before.shared
    rw [(Invocation.abort_view d n i m.before.shared).1, Move.told_of_ne (by simp [he]),
      List.append_nil]
    exact ⟨hstands, hsame ▸ hwalks⟩
  | other hturn =>
    rw [Move.told_of_ne hturn, List.append_nil]
    exact ⟨hst, hwalks⟩

/-- Who has returned a result does not return another one. -/
theorem ne_of_returns? (h : Chronicle d ms m.before) {x y : Return} (hx : m.returns? d = some x)
    (hy : y ∈ returns d ms) : y.number ≠ x.number := by
  intro heq
  obtain ⟨-, i, hi, hover, -⟩ := Move.of_returns? hx
  obtain ⟨j, hj, hr⟩ := h.returned y hy
  rw [heq, hi] at hj
  cases hj
  cases hover.symm.trans (Invocation.isOver_of_result? hr)

theorem returned_after (h : Chronicle d ms m.before) {x : Return}
    (hx : x ∈ returns d (ms ++ [m])) : ∃ i, (m.after d k).invocations[x.number]? = some i ∧
      i.phase.result? = some x.result := by
  rw [returns_append] at hx
  rcases List.mem_append.1 hx with hx | hx
  · obtain ⟨i, hi, hr⟩ := h.returned x hx
    exact ⟨i, Move.getElem?_of_isOver hi (Invocation.isOver_of_result? hr), hr⟩
  · obtain ⟨he, i, hi, -, hr⟩ := Move.of_returns? (Option.mem_toList.1 hx)
    refine ⟨_, ?_, hr⟩
    rw [(Move.after_turn he hi).1]
    exact List.getElem?_set_self (List.getElem?_eq_some_iff.1 hi).1

theorem ended_after (h : Chronicle d ms m.before) {r : Except Failure Reply}
    (hi' : (m.after d k).invocations[n]? = some i') (hr : i'.phase.result? = some r) :
    ∃ x ∈ returns d (ms ++ [m]), x.number = n ∧ x.result = r := by
  obtain ⟨i, hi, horigin⟩ := Move.exists_origin hi'
  have hold (hr : i.phase.result? = some r) :
      ∃ x ∈ returns d (ms ++ [m]), x.number = n ∧ x.result = r := by
    obtain ⟨x, hx, hxr⟩ := h.ended n i r hi hr
    rw [returns_append]
    exact ⟨x, List.mem_append_left _ hx, hxr⟩
  by_cases hover : i.isOver = true
  · -- It had ended before.
    rw [Move.getElem?_of_isOver hi hover] at hi'
    cases hi'
    exact hold hr
  cases horigin with
  | turn he =>
    have hreturns : m.returns? d = some ⟨n, r, i.seconds m.tick⟩ := by
      rw [Move.returns?_turn he hi, Invocation.returns?, if_neg hover, hr]
      rfl
    rw [returns_append, hreturns]
    exact ⟨_, List.mem_append_right _ (List.mem_singleton_self _), rfl, rfl⟩
  | abort =>
    -- Who is dropped has no result.
    obtain ⟨p, c, ph⟩ := i
    cases ph with
    | ended | dropped | broken => exact absurd rfl hover
    | coming | admission | handing | awaiting => cases hr
  | other => exact hold hr

/-- **Whatever is done, the chronicle goes on.** -/
theorem after (h : Chronicle d ms m.before) (hstore : d.store.FailsPlainly)
    (hv : ∀ i ∈ m.before.invocations, i.Visits) :
    Chronicle d (ms ++ [m]) (m.after d k) := by
  have hends := m.ends_after (k := k) hstore hv fun i hi => by
    obtain ⟨n, hn⟩ := List.mem_iff_getElem?.1 hi
    exact h.stands n i hn
  refine ⟨fun n i hi => (h.goes_after hstore hv hi).1, fun n i hi => (h.goes_after hstore hv hi).2,
    fun x hx => h.returned_after hx, fun n i r hi hr => h.ended_after hi hr, ?_, ?_, ?_⟩
  -- Nobody returns twice: who returns now had not returned before.
  · rw [returns_append, List.map_append]
    cases hx : m.returns? d with
    | none => simpa using h.once
    | some x =>
      refine List.nodup_append.2 ⟨h.once, List.nodup_singleton _, ?_⟩
      intro a ha a' ha'
      obtain ⟨y, hy, rfl⟩ := List.mem_map.1 ha
      obtain rfl := List.mem_singleton.1 ha'
      exact h.ne_of_returns? hx hy
  · intro stage
    rw [returns_append, List.countP_append, ← h.count, hends]
    cases m.returns? d with
    | none => rfl
    | some x =>
      rw [Option.elim_some, Ends.count_add]
      simp [List.countP_cons]
  · intro stage
    rw [returns_append, List.filter_append, List.reverse_append, List.map_append, ← h.times, hends]
    cases m.returns? d with
    | none => rfl
    | some x =>
      rw [Option.elim_some, Ends.times_add]
      by_cases hstage : x.stage = stage <;> simp [hstage]

end Chronicle

theorem Passage.chronicle {state : σ} {line : τ} {sweeper : Option Sweeper}
    {deliveries : Agenda Delivery} (hstore : d.store.FailsPlainly)
    (h : Passage d k (opening plans state line sweeper deliveries) ms t) : Chronicle d ms t := by
  induction h with
  | start => exact chronicle_opening state line sweeper deliveries
  | @move ms t h tick e ih =>
    refine ih.after (m := ⟨t, tick, e⟩) hstore fun i hi => ?_
    obtain ⟨n, hn⟩ := List.mem_iff_getElem?.1 hi
    exact (h.account.backed n i hn).2.visits

/-! ### What becomes of an invocation -/

/-- **An invocation walks the diagram.** -/
structure Walked (d : Dispatcher σ τ) (n : Nat) (ms : List (Move σ τ)) (i : Invocation) :
    Prop where
  /-- It has gone to one stage after the other: to the one in which its message is in the queue when
  the queue has accepted it, and to the one of its result when it has returned. Nothing was
  refused. -/
  walks : (Course.begin i.plan.id).Walks (told d n ms) i.course
  /-- These are all stages that it has been in. -/
  path_eq : i.course.path = .admitting :: told d n ms
  /-- They are a path of the diagram. -/
  path : i.course.path.IsChain fun a b => b ∈ a.next
  /-- When it has ended, it is in the stage of its result, which it has returned. -/
  ended : ∀ at' r, i.phase = .ended at' r → i.course.stage = .ofResult r ∧
    ∃ x ∈ returns d ms, x.number = n ∧ x.result = r
  /-- Before, it has not returned anything, and is in no stage that is an end. -/
  pending : i.phase.result? = none → i.course.stage.isEnd = false ∧
    ∀ x ∈ returns d ms, x.number ≠ n

/-- **What is counted about invocations that have ended.** -/
structure Counted (d : Dispatcher σ τ) (k : Consumer) (ms : List (Move σ τ)) (t : Traffic σ τ) :
    Prop where
  /-- Nobody has returned two results. -/
  once : ((returns d ms).map (·.number)).Nodup
  /-- A move in which a result is returned adds one sample of each kind in the stage of the result,
  and no other move adds any. -/
  sample : ∀ m ∈ ms, (m.after d k).shared.ends = (m.returns? d).elim m.before.shared.ends fun x =>
    m.before.shared.ends.add (Stage.ofResult x.result).label x.seconds
  /-- In each stage as many ends have been counted as results that belong to it were returned. -/
  count : ∀ stage, t.shared.ends.count stage =
    (returns d ms).countP (fun x => Stage.ofResult x.result = stage)
  /-- Their lengths in seconds are those that have been noted there. -/
  times : ∀ stage, t.shared.ends.times stage =
    ((returns d ms).filter (fun x => Stage.ofResult x.result = stage)).reverse.map (·.seconds)

/-- **Every invocation walks the diagram, and reports the end that matches its result once.** Any
number of invocations share a store that fails only as a store does, and any queue. Whatever is
done, in whatever order and at whatever ticks, no stage of an invocation is refused, its stages are
a path of the diagram, and one that returns is counted once, in the stage of its result. -/
theorem Passage.walks_diagram {state : σ} {line : τ} {sweeper : Option Sweeper}
    {deliveries : Agenda Delivery} (hstore : d.store.FailsPlainly)
    (h : Passage d k (opening plans state line sweeper deliveries) ms t) :
    (∀ n i, t.invocations[n]? = some i → Walked d n ms i) ∧ Counted d k ms t := by
  have hchronicle := h.chronicle hstore
  refine ⟨?_, hchronicle.once, ?_, hchronicle.count, hchronicle.times⟩
  · intro n i hi
    have hst := hchronicle.stands n i hi
    have hwalks := hchronicle.walks n i hi
    refine ⟨hwalks, hwalks.path_eq, hst.path.2, ?_, ?_⟩
    · intro at' r hp
      refine ⟨(hp ▸ hst).stage_of_ended, hchronicle.ended n i r hi ?_⟩
      rw [hp]
      rfl
    · intro hr
      refine ⟨hst.isEnd_of_result? hr, fun x hx => ?_⟩
      rintro rfl
      obtain ⟨j, hj, hxr⟩ := hchronicle.returned x hx
      rw [hi] at hj
      cases hj
      cases hr.symm.trans hxr
  · intro m hm
    obtain ⟨ms', hpassage⟩ := h.of_mem hm
    refine Move.ends_after hstore (fun i hi => ?_) fun i hi => ?_
    · obtain ⟨n, hn⟩ := List.mem_iff_getElem?.1 hi
      exact (hpassage.account.backed n i hn).2.visits
    · obtain ⟨n, hn⟩ := List.mem_iff_getElem?.1 hi
      exact (hpassage.chronicle hstore).stands n i hn

/-- The first invocation, which is answered, has been in three stages, and is counted as
completed. -/
theorem walks_diagram_answered : ∃ ms t, Passage promptDispatcher lateConsumer answeredCrowd ms t ∧
    (∀ n i, t.invocations[n]? = some i → Walked promptDispatcher n ms i) ∧
    Counted promptDispatcher lateConsumer ms t ∧
    t.invocations[0]?.map (·.course.path) = some [.admitting, .sent, .completed] ∧
    t.shared.ends.count .completed = 1 := by
  obtain ⟨ms, hms⟩ := exists_journey_run promptDispatcher lateConsumer 6 answeredCrowd
  obtain ⟨hwalked, hcounted⟩ := hms.passage.walks_diagram (Memory.failsPlainly ⟨5, .ofSeconds 1⟩)
  exact ⟨ms, _, hms.passage, hwalked, hcounted, by decide +kernel, by decide +kernel⟩

end Traffic

end Sluice
