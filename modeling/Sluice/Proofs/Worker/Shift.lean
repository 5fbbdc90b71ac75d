import Sluice.Proofs.Worker.Isolation
import Sluice.Proofs.Worker.Pool
import Sluice.Worker.Shift

/-!
# A worker handles each message once

Whatever comes out of the queue, in whatever order executions and sendings end, and whenever the
queue closes or the token fires:

* a worker works on no more messages at once than its width, and handles none twice;
* if the token has not fired, it stops only when every message has got what
  `Worker.process` makes of it, be it a response or an error;
* once the token has fired it begins nothing more, and stops without waiting for executions or
  sendings, unless it was already waiting for the last of them.

`Shift.works_off` is the whole of it. A worker with more places than a pool can have breaks down
before its first message, and handles none.
-/

namespace Sluice.Shift

variable {σ : Type} {w : Worker σ} {s s' : Shift σ} {e : Event}

/-! ### What a step does -/

/-- What can happen to a shift, and what comes of it. -/
inductive Step (w : Worker σ) (s : Shift σ) : Event → Shift σ → Prop where
  | pool {e : Pool.Event} {p : Pool} (hstep : s.pool.Step e p) (hfinish : ∀ n, e ≠ .finish n)
    (hdrop : ∀ n, e ≠ .drop n) : Step w s (.pool e) { s with pool := p }
  | drop {n : Nat} {p : Pool} (hstep : s.pool.Step (.drop n) p) :
    Step w s (.pool (.drop n)) { s with
      pool := p, unsent := s.unsent.filter (·.job.number != n) }
  | refuse {n : Nat} {now : Timestamp} {j : Job} (hjob : s.pool.underWay? n = some j)
    (hnew : j ∉ s.handled) (hmessage : Request.ofUtf8? j.message = none) :
    Step w s (.handle n now) { s with
      pool := { s.pool.vacate n with finished := s.pool.finished ++ [j] }
      handled := s.handled ++ [j]
      unsent := s.unsent.filter (·.job.number != n)
      outcomes := s.outcomes ++ [⟨j, .error (.serialization "not a request"), []⟩] }
  | execute {n : Nat} {now : Timestamp} {j : Job} {r : Request}
    (hjob : s.pool.underWay? n = some j) (hnew : j ∉ s.handled)
    (hmessage : Request.ofUtf8? j.message = some r) {state : σ} {tally : Tally}
    (hfed : w.feedBack now r.bucketId ((w.execute r).snapshot? now) s.state s.tally =
      (state, tally)) :
    Step w s (.handle n now) { s with
      handled := s.handled ++ [j]
      unsent := s.unsent ++ [⟨j, r.returnAddress, (w.execute r).response r now⟩], state, tally }
  | send {n : Nat} {net : Network} {u : Unsent} {j : Job} {sent : Except Failure Unit}
    {arrived : Bytes} (hunsent : s.unsent.find? (·.job.number == n) = some u)
    (hsent : w.courier.send net u.address [u.response] = (sent, arrived))
    (hjob : s.pool.underWay? n = some j) :
    Step w s (.send n net) { s with
      pool := { s.pool.vacate n with finished := s.pool.finished ++ [j] }
      unsent := s.unsent.filter (·.job.number != n)
      outcomes := s.outcomes ++ [⟨u.job, sent.map fun _ => u.response, arrived⟩] }

theorem conclude_eq_some {j : Job} {result : Except Failure Response} {arrived : Bytes}
    (h : s.conclude j result arrived = some s') : ∃ i, s.pool.underWay? j.number = some i ∧
      s' = { s with
        pool := { s.pool.vacate j.number with finished := s.pool.finished ++ [i] }
        unsent := s.unsent.filter (·.job.number != j.number)
        outcomes := s.outcomes ++ [⟨j, result, arrived⟩] } := by
  obtain ⟨p, hp, rfl⟩ := Option.map_eq_some_iff.1 h
  obtain ⟨i, hi, rfl⟩ := Option.map_eq_some_iff.1 hp
  exact ⟨i, hi, rfl⟩

theorem step_of_handle {n : Nat} {now : Timestamp} (h : s.handle w n now = some s') :
    Step w s (.handle n now) s' := by
  unfold handle at h
  split at h
  · cases h
  · rename_i j hjob
    obtain rfl : j.number = n := Pool.number_of_underWay? hjob
    split at h
    · cases h
    · rename_i hnew
      dsimp only at h
      split at h
      · obtain ⟨i, hi, rfl⟩ := conclude_eq_some h
        obtain rfl : j = i := Option.some.inj (hjob.symm.trans hi)
        exact .refuse hjob hnew ‹_›
      · cases h
        exact .execute hjob hnew ‹_› rfl

theorem step_of_send {n : Nat} {net : Network} (h : s.send w n net = some s') :
    Step w s (.send n net) s' := by
  unfold send at h
  split at h
  · cases h
  · rename_i u hunsent
    obtain rfl : u.job.number = n := by simpa using List.find?_some hunsent
    obtain ⟨j, hj, rfl⟩ := conclude_eq_some h
    exact .send hunsent rfl hj

theorem step_of_step? (h : s.step? w e = some s') : Step w s e s' := by
  unfold step? at h
  split at h
  · cases h
  · obtain ⟨p, hp, rfl⟩ := Option.map_eq_some_iff.1 h
    exact .drop (Pool.step_of_step? hp)
  · rename_i hfinish hdrop
    obtain ⟨p, hp, rfl⟩ := Option.map_eq_some_iff.1 h
    exact .pool (Pool.step_of_step? hp) hfinish hdrop
  · exact step_of_handle h
  · exact step_of_send h

/-! ### What every step keeps -/

/-- What holds of a shift at every moment. -/
structure Sound (w : Worker σ) (s : Shift σ) : Prop where
  /-- The pool is sound. -/
  pool : s.pool.Sound
  /-- What has been worked off has an ending, and nothing else has. -/
  concluded : s.outcomes.map (·.job) = s.pool.finished
  /-- The endings are those that the worker makes of the messages. -/
  right : ∀ o ∈ s.outcomes, ∃ net now,
    Worker.answer w.execute w.courier net now o.job.message = (o.result, o.arrived)
  /-- Nothing is handled twice. -/
  once : s.handled.Nodup
  /-- What is handled has been begun. -/
  begun : s.handled ⊆ s.pool.begun
  /-- A response on its way is that of a message that is being worked on. -/
  waiting : ∀ u ∈ s.unsent, u.job ∈ s.pool.running ∧ ∃ r now,
    Request.ofUtf8? u.job.message = some r ∧ u.address = r.returnAddress ∧
      u.response = (w.execute r).response r now
  /-- A message that has been handled and is still being worked on has a response on its way. -/
  underWay : ∀ j ∈ s.pool.running, j ∈ s.handled → ∃ u ∈ s.unsent, u.job = j

theorem Sound.open? {state : σ} {tally : Tally} (h : open? w state tally = some s) :
    Sound w s := by
  obtain ⟨p, hp, rfl⟩ := Option.map_eq_some_iff.1 h
  have hpool := Pool.Sound.ofWidth? hp
  obtain rfl := Pool.eq_of_ofWidth? hp
  exact {
    pool := hpool
    concluded := rfl
    right := List.forall_mem_nil _
    once := .nil
    begun := List.nil_subset _
    waiting := List.forall_mem_nil _
    underWay := List.forall_mem_nil _ }

/-- What is left of the responses on their way when a message loses its place. -/
theorem Sound.vacate {n : Nat} {j : Job} (h : Sound w s) (hjob : s.pool.underWay? n = some j) :
    (∀ u ∈ s.unsent.filter (·.job.number != n), u.job ∈ (s.pool.vacate n).running ∧ ∃ r now,
      Request.ofUtf8? u.job.message = some r ∧ u.address = r.returnAddress ∧
        u.response = (w.execute r).response r now) ∧
    (∀ i ∈ (s.pool.vacate n).running, i ∈ s.handled ++ [j] →
      ∃ u ∈ s.unsent.filter (·.job.number != n), u.job = i) := by
  have hperm := Pool.running_perm hjob
  have hnumber := Pool.number_of_underWay? hjob
  refine ⟨fun u hu => ?_, fun i hi hhandled => ?_⟩
  · obtain ⟨hu, hne⟩ := List.mem_filter.1 hu
    obtain ⟨hrunning, hresponse⟩ := h.waiting u hu
    rcases List.mem_cons.1 (hperm.mem_iff.1 hrunning) with heq | hin
    · rw [heq, hnumber] at hne
      simp at hne
    · exact ⟨hin, hresponse⟩
  -- The others keep their places, and so their responses.
  · have hne : i.number ≠ n := h.pool.number_ne_of_mem_vacate hjob hi
    have hhandled : i ∈ s.handled := by
      rcases List.mem_append.1 hhandled with hin | heq
      · exact hin
      · exact absurd (List.mem_singleton.1 heq ▸ hnumber) hne
    obtain ⟨u, hu, rfl⟩ := h.underWay i (hperm.mem_iff.2 (List.mem_cons_of_mem j hi)) hhandled
    exact ⟨u, List.mem_filter.2 ⟨hu, by simpa using hne⟩, rfl⟩

theorem Sound.ofPool {e : Pool.Event} {p : Pool} (h : Sound w s) (hstep : s.pool.Step e p)
    (hfinish : ∀ n, e ≠ .finish n) (hdrop : ∀ n, e ≠ .drop n) :
    Sound w { s with pool := p } := by
  obtain ⟨hfinished, hbegun, hrunning, hnew⟩ := hstep.frame h.pool hfinish hdrop
  exact {
    pool := h.pool.step hstep
    concluded := h.concluded.trans hfinished.symm
    right := h.right
    once := h.once
    begun := List.Subset.trans h.begun hbegun
    waiting := fun u hu => ⟨hrunning (h.waiting u hu).1, (h.waiting u hu).2⟩
    underWay := fun j hj hhandled => (hnew j hj).elim (h.underWay j · hhandled)
      (absurd (h.begun hhandled)) }

theorem Sound.drop {n : Nat} {p : Pool} (h : Sound w s) (hstep : s.pool.Step (.drop n) p) :
    Sound w { s with pool := p, unsent := s.unsent.filter (·.job.number != n) } := by
  have hpool := h.pool.step hstep
  cases hstep with
  | drop hstage hjob =>
    obtain ⟨hwaiting, hunderWay⟩ := h.vacate hjob
    exact {
      pool := hpool
      concluded := h.concluded
      right := h.right
      once := h.once
      begun := h.begun
      waiting := hwaiting
      underWay := fun i hi hhandled => hunderWay i hi (List.mem_append_left _ hhandled) }

theorem nodup_concat {l : List Job} {j : Job} (h : l.Nodup) (hj : j ∉ l) : (l ++ [j]).Nodup :=
  List.nodup_append.2 ⟨h, List.nodup_singleton j, by
    rintro i hi k hk rfl
    exact hj (List.mem_singleton.1 hk ▸ hi)⟩

theorem Sound.refuse {n : Nat} {j : Job} (h : Sound w s) (hjob : s.pool.underWay? n = some j)
    (hnew : j ∉ s.handled) (hmessage : Request.ofUtf8? j.message = none) :
    Sound w { s with
      pool := { s.pool.vacate n with finished := s.pool.finished ++ [j] }
      handled := s.handled ++ [j]
      unsent := s.unsent.filter (·.job.number != n)
      outcomes := s.outcomes ++ [⟨j, .error (.serialization "not a request"), []⟩] } := by
  obtain ⟨hwaiting, hunderWay⟩ := h.vacate hjob
  exact {
    pool := h.pool.finish hjob
    concluded := by simpa using h.concluded
    right := by
      intro o ho
      rcases List.mem_append.1 ho with ho | ho
      · exact h.right o ho
      · refine ⟨fun _ => .refused "", .epoch, ?_⟩
        rw [List.mem_singleton.1 ho, Worker.answer, hmessage]
    once := nodup_concat h.once hnew
    begun := List.append_subset.2 ⟨h.begun,
      List.cons_subset.2 ⟨h.pool.begun (List.mem_of_find?_eq_some hjob), List.nil_subset _⟩⟩
    waiting := hwaiting
    underWay := hunderWay }

theorem Sound.execute {n : Nat} {now : Timestamp} {j : Job} {r : Request} (h : Sound w s)
    (hjob : s.pool.underWay? n = some j) (hnew : j ∉ s.handled)
    (hmessage : Request.ofUtf8? j.message = some r) (state : σ) (tally : Tally) :
    Sound w { s with
      handled := s.handled ++ [j]
      unsent := s.unsent ++ [⟨j, r.returnAddress, (w.execute r).response r now⟩]
      state, tally } := by
  have hrunning : j ∈ s.pool.running := List.mem_of_find?_eq_some hjob
  exact {
    pool := h.pool
    concluded := h.concluded
    right := h.right
    once := nodup_concat h.once hnew
    begun := List.append_subset.2 ⟨h.begun,
      List.cons_subset.2 ⟨h.pool.begun hrunning, List.nil_subset _⟩⟩
    waiting := by
      intro u hu
      rcases List.mem_append.1 hu with hu | hu
      · exact h.waiting u hu
      · obtain rfl := List.mem_singleton.1 hu
        exact ⟨hrunning, r, now, hmessage, rfl, rfl⟩
    underWay := by
      intro i hi hhandled
      rcases List.mem_append.1 hhandled with hin | heq
      · obtain ⟨u, hu, hui⟩ := h.underWay i hi hin
        exact ⟨u, List.mem_append_left _ hu, hui⟩
      · exact ⟨_, List.mem_append_right _ (List.mem_singleton_self _),
          (List.mem_singleton.1 heq).symm⟩ }

theorem Sound.send {n : Nat} {net : Network} {u : Unsent} {j : Job} {sent : Except Failure Unit}
    {arrived : Bytes} (h : Sound w s) (hunsent : s.unsent.find? (·.job.number == n) = some u)
    (hsent : w.courier.send net u.address [u.response] = (sent, arrived))
    (hjob : s.pool.underWay? n = some j) :
    Sound w { s with
      pool := { s.pool.vacate n with finished := s.pool.finished ++ [j] }
      unsent := s.unsent.filter (·.job.number != n)
      outcomes := s.outcomes ++ [⟨u.job, sent.map fun _ => u.response, arrived⟩] } := by
  obtain ⟨hwaiting, hunderWay⟩ := h.vacate hjob
  obtain ⟨hrunning, r, now, hmessage, haddress, hresponse⟩ :=
    h.waiting u (List.mem_of_find?_eq_some hunsent)
  have hnumber : u.job.number = n := by simpa using List.find?_some hunsent
  -- No two jobs have one number, so the response is that of the job that ends.
  have hj : u.job = j := Option.some.inj
    ((h.pool.underWay?_eq hrunning).symm.trans (hnumber ▸ hjob))
  exact {
    pool := h.pool.finish hjob
    concluded := by simpa [h.concluded] using hj
    right := by
      intro o ho
      rcases List.mem_append.1 ho with ho | ho
      · exact h.right o ho
      · obtain rfl := List.mem_singleton.1 ho
        refine ⟨net, now, ?_⟩
        simp only [Worker.answer, hmessage, ← haddress, ← hresponse, hsent]
    once := h.once
    begun := h.begun
    waiting := hwaiting
    underWay := fun i hi hhandled => hunderWay i hi (List.mem_append_left _ hhandled) }

theorem Sound.step (h : Sound w s) (hs : Step w s e s') : Sound w s' := by
  cases hs with
  | pool hstep hfinish hdrop => exact h.ofPool hstep hfinish hdrop
  | drop hstep => exact h.drop hstep
  | refuse hjob hnew hmessage => exact h.refuse hjob hnew hmessage
  | execute hjob hnew hmessage hfed => exact h.execute hjob hnew hmessage _ _
  | send hunsent hsent hjob => exact h.send hunsent hsent hjob

theorem run_cons (es : List Event) : s.run w (e :: es) = ((s.step? w e).getD s).run w es := rfl

theorem Sound.run (h : Sound w s) (es : List Event) : Sound w (s.run w es) := by
  induction es generalizing s with
  | nil => exact h
  | cons e es ih =>
    rw [run_cons]
    cases hstep : s.step? w e with
    | none => exact ih h
    | some s' => exact ih (h.step (step_of_step? hstep))

theorem Sound.nodup_handled (h : Sound w s) : (s.handled.map Job.number).Nodup :=
  h.once.map_on fun _ hi _ hj =>
    List.inj_on_of_nodup_map h.pool.nodup_begun (h.begun hi) (h.begun hj)

/-- An ending is what the worker makes of the message. -/
theorem Sound.process_eq (h : Sound w s) {o : Ending} (ho : o ∈ s.outcomes) :
    ∃ net now, ∀ state tally,
      let x := w.process net now o.job.message state tally
      x.result = o.result ∧ x.arrived = o.arrived := by
  obtain ⟨net, now, hanswer⟩ := h.right o ho
  refine ⟨net, now, fun state tally => ?_⟩
  simp only [Worker.process_eq, hanswer, and_self]

/-! ### What comes -/

/-- The message that comes. -/
def Event.message? : Event → Option Bytes
  | .pool (.arrive message) => some message
  | _ => none

/-- The messages that have come are the first ones that were sent, and all of them as long as
somebody listens. -/
def Takes (s : Shift σ) (sent : List Bytes) : Prop :=
  s.pool.came.map Job.message <+: sent ∧
    (s.pool.isClosed = false → s.pool.isOver = false → s.pool.came.map Job.message = sent)

theorem takes_open? {state : σ} {tally : Tally} (h : open? w state tally = some s) :
    s.Takes [] := by
  obtain ⟨p, hp, rfl⟩ := Option.map_eq_some_iff.1 h
  rw [Pool.eq_of_ofWidth? hp]
  exact ⟨List.nil_prefix, fun _ _ => rfl⟩

theorem Step.came (hs : Step w s e s') (he : e.message? = none) :
    s'.pool.came = s.pool.came ∧ (s.pool.isClosed = true → s'.pool.isClosed = true) ∧
      (s.pool.isOver = true → s'.pool.isOver = true) := by
  have hpool : ∀ {e : Pool.Event} {p : Pool}, s.pool.Step e p → (∀ m, e ≠ .arrive m) →
      p.came = s.pool.came ∧ (s.pool.isClosed = true → p.isClosed = true) ∧
        (s.pool.isOver = true → p.isOver = true) := fun hstep hne =>
    ⟨(hstep.came hne).1, (hstep.came hne).2, hstep.isOver⟩
  cases hs with
  | pool hstep => exact hpool hstep fun m hm => by cases hm; cases he
  | drop hstep => exact hpool hstep nofun
  | refuse hjob | send hunsent hsent hjob => exact hpool (.finish hjob) nofun
  | execute => exact ⟨rfl, id, id⟩

theorem Takes.step {sent : List Bytes} (h : s.Takes sent) (e : Event) :
    ((s.step? w e).getD s).Takes (sent ++ e.message?.toList) := by
  cases hmessage : e.message? with
  | some m =>
    obtain rfl : e = .pool (.arrive m) := by
      revert hmessage
      fun_cases Event.message? e <;> simp
    by_cases hopen : s.pool.isClosed = false ∧ s.pool.isOver = false
    · have hall := h.2 hopen.1 hopen.2
      have harrive : (s.pool.came ++ [Job.mk s.pool.came.length m]).map Job.message =
          sent ++ [m] := by
        rw [List.map_append, hall, List.map_singleton]
      simp only [step?, Pool.step?, Pool.arrive, hopen.1, hopen.2, Bool.or_self,
        Bool.false_eq_true, if_false, Option.map_some, Option.getD_some]
      exact ⟨harrive ▸ List.prefix_refl _, fun _ _ => harrive⟩
    -- What is sent after the end does not come any more, and what has come stays a prefix.
    · have hshut : (s.pool.isClosed || s.pool.isOver) = true := by
        revert hopen
        cases s.pool.isClosed <;> simp
      simp only [step?, Pool.step?, Pool.arrive, hshut, if_true, Option.map_none, Option.getD_none]
      exact ⟨h.1.trans (List.prefix_append _ _), fun hclosed hover => absurd ⟨hclosed, hover⟩ hopen⟩
  | none =>
    rw [Option.toList_none, List.append_nil]
    cases hstep : s.step? w e with
    | none => exact h
    | some s' =>
      obtain ⟨hcame, hclosed, hover⟩ := (step_of_step? hstep).came hmessage
      rw [Option.getD_some, Takes, hcame]
      refine ⟨h.1, fun hopen hon => h.2 ?_ ?_⟩
      · exact Bool.eq_false_iff.2 fun hc => by simp [hclosed hc] at hopen
      · exact Bool.eq_false_iff.2 fun ho => by simp [hover ho] at hon

theorem Takes.run {sent : List Bytes} (h : s.Takes sent) (es : List Event) :
    (s.run w es).Takes (sent ++ es.filterMap Event.message?) := by
  induction es generalizing s sent with
  | nil =>
    rw [List.filterMap_nil, List.append_nil]
    exact h
  | cons e es ih =>
    have hsent : sent ++ (e :: es).filterMap Event.message? =
        sent ++ e.message?.toList ++ es.filterMap Event.message? := by
      cases hmessage : e.message? <;> simp [hmessage]
    rw [hsent, run_cons]
    exact ih (h.step e)

/-! ### After the token -/

theorem Step.begun_of_isCancelled (hs : Step w s e s') (h : s.pool.isCancelled = true) :
    s'.pool.isCancelled = true ∧ s'.pool.begun = s.pool.begun := by
  cases hs with
  | pool hstep => exact hstep.begun_of_isCancelled h
  | drop hstep => exact hstep.begun_of_isCancelled h
  | refuse | execute | send => exact ⟨h, rfl⟩

/-- Once the token has fired, no work begins, whatever happens. -/
theorem begun_run (h : s.pool.isCancelled = true) (es : List Event) :
    (s.run w es).pool.begun = s.pool.begun := by
  induction es generalizing s with
  | nil => rfl
  | cons e es ih =>
    rw [run_cons]
    cases hstep : s.step? w e with
    | none => exact ih h
    | some s' =>
      obtain ⟨hcancel, hbegun⟩ := (step_of_step? hstep).begun_of_isCancelled h
      exact (ih hcancel).trans hbegun

/-! ### What is to do -/

/-- The worker does this by itself: it does not wait for more messages, the closing of the queue or
the token. -/
def Event.isOwn : Event → Bool
  | .pool e => e.isOwn
  | .handle _ _ | .send _ _ => true

/-- The messages that are being worked on and have not been handled. -/
def unhandled (s : Shift σ) : List Job := s.pool.running.filter (· ∉ s.handled)

/-- A bound for the number of the worker's own moves that are still to come. -/
def toDo (s : Shift σ) : Nat := s.pool.toDo + s.unhandled.length

theorem toDo_vacate {n : Nat} {j : Job} {handled : List Job}
    (hjob : s.pool.underWay? n = some j) (hhandled : s.handled ⊆ handled) :
    (s.pool.vacate n).toDo + ((s.pool.vacate n).running.filter (· ∉ handled)).length <
      s.toDo := by
  have htodo := Pool.toDo_vacate hjob
  have hsub : ((s.pool.vacate n).running.filter (· ∉ handled)).Sublist s.unhandled := by
    refine (List.monotone_filter_right _ fun i hi => ?_).trans (List.eraseP_sublist.filter _)
    rw [decide_eq_true_eq] at hi ⊢
    exact fun hin => hi (hhandled hin)
  have hlength := hsub.length_le
  unfold toDo
  omega

theorem length_unhandled_lt {j : Job} (hrunning : j ∈ s.pool.running) (hnew : j ∉ s.handled) :
    (s.pool.running.filter (· ∉ s.handled ++ [j])).length < s.unhandled.length := by
  have hfilter : s.pool.running.filter (· ∉ s.handled ++ [j]) = s.unhandled.filter (· ≠ j) := by
    rw [unhandled, List.filter_filter]
    refine List.filter_congr fun i _ => ?_
    simp [and_comm]
  rw [hfilter, List.length_filter_lt_length_iff_exists]
  exact ⟨j, List.mem_filter.2 ⟨hrunning, by simpa using hnew⟩, by simp⟩

/-- The pool's part of what is to do outweighs the messages on which work begins. -/
theorem length_filter_le_of_step {e : Pool.Event} {p p' : Pool} (hs : p.Step e p')
    (hfinish : ∀ n, e ≠ .finish n) (hdrop : ∀ n, e ≠ .drop n) (f : Job → Bool) :
    p'.running.filter f = p.running.filter f ∨
      p'.toDo + 2 = p.toDo ∧ (p'.running.filter f).length ≤ (p.running.filter f).length + 1 := by
  cases hs with
  | arrive | close | cancel | take | giveUp | windUp => exact .inl rfl
  | start hcancel hplace hstage =>
    refine .inr ⟨Pool.toDo_start hcancel hstage, ?_⟩
    rw [List.filter_append, List.length_append]
    exact Nat.add_le_add_left (List.length_filter_le _ _) _
  | finish => exact absurd rfl (hfinish _)
  | drop => exact absurd rfl (hdrop _)

/-- Every own move of a worker makes what is to do less. -/
theorem Step.toDo_lt (hs : Step w s e s') (he : e.isOwn = true) : s'.toDo < s.toDo := by
  cases hs with
  | pool hstep hfinish hdrop =>
    have hlt := hstep.toDo_lt he
    rcases length_filter_le_of_step hstep hfinish hdrop (· ∉ s.handled) with heq | ⟨htwo, hle⟩
    · simpa only [toDo, unhandled, heq, Nat.add_lt_add_iff_right] using hlt
    · simp only [toDo, unhandled] at *
      omega
  | drop hstep =>
    cases hstep with
    | drop hstage hjob => exact toDo_vacate hjob (List.Subset.refl _)
  | refuse hjob hnew hmessage => exact toDo_vacate hjob (List.subset_append_left _ _)
  | execute hjob hnew hmessage hfed =>
    exact Nat.add_lt_add_left (length_unhandled_lt (List.mem_of_find?_eq_some hjob) hnew) _
  | send hunsent hsent hjob => exact toDo_vacate hjob (List.Subset.refl _)

/-- Once nothing more can come that would be worked on, what is to do does not grow. -/
theorem Step.toDo_le (hs : Step w s e s')
    (h : s.pool.isClosed = true ∨ s.pool.isCancelled = true) : s'.toDo ≤ s.toDo := by
  cases hown : e.isOwn with
  | true => exact (hs.toDo_lt hown).le
  | false =>
    cases hs with
    | pool hstep hfinish hdrop =>
      have hle := hstep.toDo_le h
      rcases length_filter_le_of_step hstep hfinish hdrop (· ∉ s.handled) with heq | ⟨htwo, hone⟩
      · simpa only [toDo, unhandled, heq, Nat.add_le_add_iff_right] using hle
      · simp only [toDo, unhandled] at *
        omega
    | drop | refuse | execute | send => cases hown

theorem conclude_isSome {j : Job} (hrunning : j ∈ s.pool.running)
    (result : Except Failure Response) (arrived : Bytes) :
    (s.conclude j result arrived).isSome := by
  simpa [conclude, Pool.finish] using Pool.underWay?_isSome hrunning

/-- Work on a message goes on: it is handled, or its response is sent. -/
theorem Sound.works_on (h : Sound w s) {j : Job} (hj : j ∈ s.pool.running) (now : Timestamp)
    (net : Network) : (s.step? w (.handle j.number now)).isSome ∨
      (s.step? w (.send j.number net)).isSome := by
  by_cases hhandled : j ∈ s.handled
  · obtain ⟨u, hu, rfl⟩ := h.underWay j hj hhandled
    have hfound : (s.unsent.find? (·.job.number == u.job.number)).isSome :=
      List.find?_isSome.2 ⟨u, hu, by simp⟩
    obtain ⟨u', hu'⟩ := Option.isSome_iff_exists.1 hfound
    have hrunning := (h.waiting u' (List.mem_of_find?_eq_some hu')).1
    refine .inr ?_
    simp only [step?, Shift.send, hu']
    exact conclude_isSome hrunning _ _
  · refine .inl ?_
    simp only [step?, handle, h.pool.underWay?_eq hj, hhandled, if_false]
    split
    · refine conclude_isSome ?_ _ _
      exact hj
    · rfl

/-- A worker that nobody feeds any more can move as long as it has not stopped. -/
theorem Sound.goes_on (h : Sound w s) (hend : s.pool.isClosed = true ∨ s.pool.isCancelled = true)
    (hover : s.pool.isOver = false) : ∃ e, e.isOwn = true ∧ (s.step? w e).isSome := by
  rcases h.pool.goes_on hend hover with hmove | hmove | hmove | hrunning
  · exact ⟨.pool .take, rfl, by simpa [step?] using hmove⟩
  · exact ⟨.pool .start, rfl, by simpa [step?] using hmove⟩
  · exact ⟨.pool .leave, rfl, by simpa [step?] using hmove⟩
  · obtain ⟨j, hj⟩ := List.exists_mem_of_ne_nil _ hrunning
    rcases h.works_on hj .epoch fun _ => .refused "" with hmove | hmove
    · exact ⟨_, rfl, hmove⟩
    · exact ⟨_, rfl, hmove⟩

/-! ### The whole shift -/

theorem isSome_open? (w : Worker σ) (state : σ) (tally : Tally) :
    (open? w state tally).isSome ↔ w.width ≤ Pool.greatestWidth := by
  simp [open?, Pool.ofWidth?, Option.isSome_iff_exists]

theorem width_open? {state : σ} {tally : Tally} (h : open? w state tally = some s) :
    s.pool.width = max w.width 1 := by
  obtain ⟨p, hp, rfl⟩ := Option.map_eq_some_iff.1 h
  rw [Pool.eq_of_ofWidth? hp]

theorem Step.width_eq (hs : Step w s e s') : s'.pool.width = s.pool.width := by
  cases hs with
  | pool hstep | drop hstep => cases hstep <;> rfl
  | refuse | execute | send => rfl

theorem width_run (s : Shift σ) (es : List Event) : (s.run w es).pool.width = s.pool.width := by
  induction es generalizing s with
  | nil => rfl
  | cons e es ih =>
    rw [run_cons, ih]
    cases hstep : s.step? w e with
    | none => rfl
    | some s' => exact (step_of_step? hstep).width_eq

/-- **A worker handles each message once, within its width.** For every worker, whatever happens
after the queue has been opened, and at every moment:

* the messages that have come are those that were sent, in their order, up to the closing of the
  queue or the end of the work;
* no more messages are being worked on than the width says, or one if it says none;
* on no message work has begun twice, none has been read and executed twice, and none has two
  endings; and an ending is what `Worker.process` makes of the message;
* if the worker has stopped and the token has not fired, the queue has closed and every message that
  came has its ending;
* once the token has fired, work begins on no other message, whatever happens after that, and what
  is read and executed from then on is a message on which work had begun;
* if the worker has stopped, nothing is in progress;
* once the queue has closed or the token has fired, the worker has a move of its own as long as it
  has not stopped, each of them leaves it less to do, and nothing gives it more to do;
* if the token has fired before the worker noticed that the queue is closed, that move needs no
  execution and no sending to end.

Only a worker that is wider than any pool has no shift at all. -/
theorem works_off (w : Worker σ) (state : σ) (tally : Tally) :
    ((open? w state tally).isSome ↔ w.width ≤ Pool.greatestWidth) ∧
    ∀ s₀, open? w state tally = some s₀ → ∀ es,
      let s := s₀.run w es
      s.Takes (es.filterMap Event.message?) ∧
      s.pool.running.length ≤ max w.width 1 ∧
      ((s.pool.begun.map Job.number).Nodup ∧ (s.handled.map Job.number).Nodup ∧
        (s.outcomes.map (·.job.number)).Nodup ∧
        ∀ o ∈ s.outcomes, ∃ net now, ∀ state tally,
          let x := w.process net now o.job.message state tally
          x.result = o.result ∧ x.arrived = o.arrived) ∧
      (s.pool.isOver = true → s.pool.isCancelled = false →
        s.pool.isClosed = true ∧ s.pool.came.Perm (s.outcomes.map (·.job))) ∧
      (s.pool.isCancelled = true → ∀ es',
        (s.run w es').pool.begun = s.pool.begun ∧ (s.run w es').handled ⊆ s.pool.begun) ∧
      (s.pool.isOver = true → s.pool.running = []) ∧
      (s.pool.isClosed = true ∨ s.pool.isCancelled = true →
        (s.pool.isOver = false → ∃ e, e.isOwn = true ∧ (s.step? w e).isSome) ∧
        ∀ e s', s.step? w e = some s' →
          s'.toDo ≤ s.toDo ∧ (e.isOwn = true → s'.toDo < s.toDo)) ∧
      (s.pool.isCancelled = true → s.pool.stage ≠ .draining → s.pool.isOver = false →
        (s.step? w (.pool .leave)).isSome ∨
          ∃ j ∈ s.pool.running, (s.step? w (.pool (.drop j.number))).isSome) := by
  refine ⟨isSome_open? w state tally, fun s₀ hopen es => ?_⟩
  have hsound : Sound w (s₀.run w es) := (Sound.open? hopen).run es
  refine ⟨(takes_open? hopen).run es, ?_,
    ⟨hsound.pool.nodup_begun, hsound.nodup_handled, ?_, fun o => hsound.process_eq⟩, ?_,
    fun hcancel es' => ?_, Pool.running_of_isOver, fun hend => ⟨hsound.goes_on hend, ?_⟩, ?_⟩
  · rw [← width_open? hopen, ← width_run]
    exact hsound.pool.bounded
  · have hnodup := hsound.pool.nodup_finished
    rwa [← hsound.concluded, List.map_map] at hnodup
  · intro hover hcancel
    rw [hsound.concluded]
    exact hsound.pool.finished_of_isOver hover hcancel
  · have hbegun := begun_run (w := w) hcancel es'
    exact ⟨hbegun, hbegun ▸ (hsound.run es').begun⟩
  · exact fun e s' hstep => ⟨(step_of_step? hstep).toDo_le hend, (step_of_step? hstep).toDo_lt⟩
  · intro hcancel hstage hover
    simpa [step?, Pool.step?] using Pool.gives_up hcancel hstage hover

/-- A worker without a width of its own. -/
def narrow : Worker (Catalog Bucket) :=
  ⟨fun _ => .failed [], Memory.store ⟨1, .ofMillis 1⟩, .standard, 0⟩

/-- Two messages that are no requests come; the second one waits for the place of the first one, and
the queue closes meanwhile. -/
def evening : List Event :=
  [.pool (.arrive []), .pool (.arrive [91]), .pool .take, .pool .start, .pool .take, .pool .close,
    .handle 0 .epoch, .pool .start, .handle 1 .epoch, .pool .leave]

/-- Its shift before the first message. -/
def morning : Shift (Catalog Bucket) :=
  ⟨⟨1, [], [], .looking, [], [], [], [], false, false⟩, [], [], [], .empty, .zero⟩

theorem works_off_narrow : open? narrow .empty .zero = some morning ∧
    (morning.run narrow evening).pool.isOver = true ∧
    (morning.run narrow evening).pool.came = [⟨0, []⟩, ⟨1, [91]⟩] ∧
    (morning.run narrow evening).pool.came.Perm
      ((morning.run narrow evening).outcomes.map (·.job)) := by
  have hopen : open? narrow .empty .zero = some morning := rfl
  obtain ⟨-, -, -, hworked, -⟩ := (works_off narrow .empty .zero).2 morning hopen evening
  have hover : (morning.run narrow evening).pool.isOver = true := by decide +kernel
  exact ⟨hopen, hover, by decide +kernel, (hworked hover (by decide +kernel)).2⟩

/-- A worker of the greatest width that can be set. -/
def widest : Worker (Catalog Bucket) := { narrow with width := 18446744073709551615 }

/-- **The widest worker handles nothing.** No pool is as wide, and the worker breaks down before its
first message, where one without a width of its own works off the queue. -/
theorem no_shift_for_widest :
    open? widest .empty .zero = none ∧ (open? narrow .empty .zero).isSome :=
  ⟨rfl, rfl⟩

end Sluice.Shift
