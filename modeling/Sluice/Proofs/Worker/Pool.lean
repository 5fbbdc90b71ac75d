import Mathlib.Data.List.Nodup
import Mathlib.Data.List.Perm.Subperm
import Mathlib.Data.List.Range
import Sluice.Worker.Pool

/-!
# What holds of a pool at every moment

A message that has come is in the queue, waits for a place, is being worked on, has been worked off
or has been given up, and is so once. Everything else about a pool follows from that.

* `Pool.Step` says what can happen and what it leads to, with the conditions written out;
* `Pool.Sound` is what every step keeps, and with it every run of a pool that began empty;
* `Pool.toDo` counts the pool's own moves that are still to come. Each of them makes it smaller, and
  once nothing more can come nothing makes it larger.
-/

namespace Sluice.Pool

variable {p p' : Pool} {e : Event} {n : Nat} {j : Job}

/-! ### What a step does -/

/-- What can happen to a pool, and what comes of it. -/
inductive Step (p : Pool) : Event → Pool → Prop where
  | arrive (message : Bytes) (hopen : p.isClosed = false) (hover : p.isOver = false) :
    Step p (.arrive message) { p with
      came := p.came ++ [⟨p.came.length, message⟩]
      queued := p.queued ++ [⟨p.came.length, message⟩] }
  | close : Step p .close { p with isClosed := true }
  | cancel : Step p .cancel { p with isCancelled := true }
  | take {j : Job} {queued : List Job} (hcancel : p.isCancelled = false)
    (hstage : p.stage = .looking) (hqueue : p.queued = j :: queued) :
    Step p .take { p with queued, stage := .holding j }
  | start {j : Job} (hcancel : p.isCancelled = false) (hplace : p.running.length < p.width)
    (hstage : p.stage = .holding j) :
    Step p .start { p with
      stage := .looking, running := p.running ++ [j], begun := p.begun ++ [j] }
  | giveUp (hlooking : p.stage.isLooking = true) (hcancel : p.isCancelled = true) :
    Step p .leave { p with stage := .dropping, dropped := p.dropped ++ p.stage.held }
  | windUp (hstage : p.stage = .looking) (hcancel : p.isCancelled = false)
    (hclosed : p.isClosed = true) (hqueue : p.queued = []) :
    Step p .leave { p with stage := .draining }
  | finish {n : Nat} {j : Job} (hjob : p.underWay? n = some j) :
    Step p (.finish n) { p.vacate n with finished := p.finished ++ [j] }
  | drop {n : Nat} {j : Job} (hstage : p.stage = .dropping) (hjob : p.underWay? n = some j) :
    Step p (.drop n) { p.vacate n with dropped := p.dropped ++ [j] }

/-- A pool that looks for messages and holds none is between two messages. -/
theorem Stage.eq_looking : ∀ {s : Stage}, s.isLooking = true → s.held = [] → s = .looking
  | .looking, _, _ => rfl

theorem step_of_take (h : p.take = some p') : Step p .take p' := by
  unfold take at h
  split at h
  · cases h
  · rename_i hcancel
    split at h
    · cases h
      exact .take (by simpa using hcancel) ‹_› ‹_›
    · cases h

theorem step_of_start (h : p.start = some p') : Step p .start p' := by
  unfold start at h
  split at h
  · cases h
  · rename_i hfree
    simp only [hasPlace, Bool.or_eq_true, not_or, Bool.not_eq_true, Bool.not_eq_false',
      decide_eq_true_eq] at hfree
    split at h
    · cases h
      exact .start hfree.1 hfree.2 ‹_›
    · cases h

theorem step_of_leave (h : p.leave = some p') : Step p .leave p' := by
  unfold leave at h
  split at h
  · cases h
  · rename_i hlooking
    have hlooking : p.stage.isLooking = true := by simpa using hlooking
    split at h
    · cases h
      exact .giveUp hlooking ‹_›
    · rename_i hcancel
      split at h
      · rename_i hend
        simp only [Bool.and_eq_true, List.isEmpty_iff] at hend
        cases h
        exact .windUp (Stage.eq_looking hlooking hend.2) (by simpa using hcancel) hend.1.1 hend.1.2
      · cases h

/-- A step that can happen is one of these. -/
theorem step_of_step? (h : p.step? e = some p') : Step p e p' := by
  cases e with
  | arrive message =>
    simp only [step?, arrive] at h
    split at h
    · cases h
    · rename_i hopen
      rw [Bool.or_eq_true, not_or, Bool.not_eq_true, Bool.not_eq_true] at hopen
      cases h
      exact .arrive message hopen.1 hopen.2
  | close => cases h; exact .close
  | cancel => cases h; exact .cancel
  | take => exact step_of_take h
  | start => exact step_of_start h
  | leave => exact step_of_leave h
  | finish n =>
    obtain ⟨j, hj, rfl⟩ := Option.map_eq_some_iff.1 h
    exact .finish hj
  | drop n =>
    simp only [step?, drop] at h
    split at h
    · obtain ⟨j, hj, rfl⟩ := Option.map_eq_some_iff.1 h
      exact .drop ‹_› hj
    · cases h

/-! ### What is being worked on -/

theorem number_of_underWay? (h : p.underWay? n = some j) : j.number = n := by
  simpa using List.find?_some h

theorem running_perm (h : p.underWay? n = some j) :
    p.running.Perm (j :: (p.vacate n).running) := by
  obtain ⟨hj, before, after, hrunning, hbefore⟩ := List.find?_eq_some_iff_append.1 h
  have hother : ∀ i ∈ before, ¬ (i.number == n) = true := by simpa using hbefore
  have hrest : (p.vacate n).running = before ++ after := by
    rw [vacate, hrunning, List.eraseP_append_right _ hother, List.eraseP_cons, hj,
      cond_true]
  rw [hrest, hrunning]
  exact List.perm_middle

theorem underWay?_isSome (h : j ∈ p.running) : (p.underWay? j.number).isSome :=
  List.find?_isSome.2 ⟨j, h, by simp⟩

/-! ### What every step keeps -/

/-- What holds of a pool at every moment. -/
structure Sound (p : Pool) : Prop where
  /-- There is a place at least. -/
  roomy : 1 ≤ p.width
  /-- There is a place for everything that is being worked on. -/
  bounded : p.running.length ≤ p.width
  /-- Every message is in one place. -/
  whole : p.came.Perm (p.finished ++ p.dropped ++ p.running ++ p.stage.held ++ p.queued)
  /-- Work has begun on other messages than those that wait. -/
  fresh : (p.begun ++ p.stage.held ++ p.queued).Subperm p.came
  /-- Work has begun on what is being worked on. -/
  begun : p.running ⊆ p.begun
  /-- Messages are numbered as they come. -/
  numbered : p.came.map Job.number = List.range p.came.length
  /-- Nothing is given up by a pool that has not noticed the token. -/
  kept : p.stage ≠ .dropping → p.dropped = []
  /-- A pool that waits for the end because the queue has closed has emptied the queue. -/
  drained : p.stage = .draining → p.isClosed = true ∧ p.queued = []
  /-- A pool that gives up has been cancelled. -/
  cancelled : p.stage = .dropping → p.isCancelled = true

theorem eq_of_ofWidth? (h : ofWidth? n = some p) :
    p = ⟨max n 1, [], [], .looking, [], [], [], [], false, false⟩ := by
  simp only [ofWidth?, Option.ite_none_right_eq_some, Option.some.injEq] at h
  exact h.2.symm

theorem Sound.ofWidth? (h : ofWidth? n = some p) : p.Sound := by
  obtain rfl := eq_of_ofWidth? h
  exact {
    roomy := Nat.le_max_right n 1
    bounded := Nat.zero_le _
    whole := .refl _
    fresh := List.Subperm.refl _
    begun := List.nil_subset _
    numbered := rfl
    kept := fun _ => rfl
    drained := nofun
    cancelled := nofun }

/-- The numbers tell messages apart. -/
theorem Sound.nodup_came (h : p.Sound) : (p.came.map Job.number).Nodup :=
  h.numbered ▸ List.nodup_range

theorem Sound.nodup_begun (h : p.Sound) : (p.begun.map Job.number).Nodup := by
  have hpart : p.begun.Subperm p.came := .trans (List.Sublist.subperm (by simp)) h.fresh
  obtain ⟨l, hperm, hsub⟩ := hpart
  exact (hperm.map Job.number).nodup_iff.1 (h.nodup_came.sublist (hsub.map Job.number))

theorem Sound.arrive {message : Bytes} (h : p.Sound) (hopen : p.isClosed = false) :
    Sound { p with
      came := p.came ++ [⟨p.came.length, message⟩]
      queued := p.queued ++ [⟨p.came.length, message⟩] } where
  __ := h
  whole := by
    rw [← List.append_assoc]
    exact h.whole.append_right _
  fresh := by
    rw [← List.append_assoc]
    exact (List.subperm_append_right _).2 h.fresh
  numbered := by
    simp only [List.map_append, List.map_cons, List.map_nil, h.numbered, List.length_append,
      List.length_cons, List.length_nil, Nat.zero_add, List.range_succ]
  drained hstage := absurd (h.drained hstage).1 (by simp [hopen])

theorem Sound.take {queued : List Job} (h : p.Sound) (hstage : p.stage = .looking)
    (hqueue : p.queued = j :: queued) : Sound { p with queued, stage := .holding j } := by
  have hkept : p.dropped = [] := h.kept (by simp [hstage])
  exact {
    __ := h
    whole := by simpa [Stage.held, hstage, hqueue] using h.whole
    fresh := by simpa [Stage.held, hstage, hqueue] using h.fresh
    kept := fun _ => hkept
    drained := nofun
    cancelled := nofun }

theorem Sound.start (h : p.Sound) (hplace : p.running.length < p.width)
    (hstage : p.stage = .holding j) :
    Sound { p with stage := .looking, running := p.running ++ [j], begun := p.begun ++ [j] } := by
  have hkept : p.dropped = [] := h.kept (by simp [hstage])
  exact {
    __ := h
    bounded := by simpa [Nat.succ_le_iff] using hplace
    whole := by simpa [Stage.held, hstage] using h.whole
    fresh := by simpa [Stage.held, hstage] using h.fresh
    begun := List.append_subset.2 ⟨
      List.subset_append_of_subset_left _ h.begun, List.subset_append_right _ _⟩
    kept := fun _ => hkept
    drained := nofun
    cancelled := nofun }

theorem Sound.giveUp (h : p.Sound) (hcancel : p.isCancelled = true) :
    Sound { p with stage := .dropping, dropped := p.dropped ++ p.stage.held } where
  __ := h
  whole := by
    refine h.whole.trans ?_
    simp only [Stage.held, List.append_assoc, List.append_nil]
    exact ((List.perm_append_comm_assoc _ _ _).append_left _).append_left _
  fresh := by
    refine .trans (List.Sublist.subperm ?_) h.fresh
    simp [Stage.held]
  kept := fun hstage => absurd rfl hstage
  drained := nofun
  cancelled := fun _ => hcancel

theorem Sound.windUp (h : p.Sound) (hstage : p.stage = .looking) (hclosed : p.isClosed = true)
    (hqueue : p.queued = []) : Sound { p with stage := .draining } := by
  have hkept : p.dropped = [] := h.kept (by simp [hstage])
  exact {
    __ := h
    whole := by simpa [Stage.held, hstage] using h.whole
    fresh := by simpa [Stage.held, hstage] using h.fresh
    kept := fun _ => hkept
    drained := fun _ => ⟨hclosed, hqueue⟩
    cancelled := nofun }

/-- What both ends of work, the good one and the bad one, leave. -/
theorem Sound.vacate (h : p.Sound) (hjob : p.underWay? n = some j) :
    (p.vacate n).running.length ≤ p.width ∧ (p.vacate n).running ⊆ p.begun := by
  have hperm := running_perm hjob
  refine ⟨?_, ?_⟩
  · have hlength := hperm.length_eq
    have hbounded := h.bounded
    simp only [List.length_cons] at hlength
    omega
  · exact fun i hi => h.begun (hperm.mem_iff.2 (List.mem_cons_of_mem j hi))

theorem Sound.finish (h : p.Sound) (hjob : p.underWay? n = some j) :
    Sound { p.vacate n with finished := p.finished ++ [j] } where
  __ := h
  bounded := (h.vacate hjob).1
  begun := (h.vacate hjob).2
  whole := by
    refine h.whole.trans (.append_right _ (.append_right _ ?_))
    refine ((running_perm hjob).append_left _).trans ?_
    simp only [List.append_assoc, List.singleton_append]
    exact List.perm_middle.append_left _

theorem Sound.drop (h : p.Sound) (hstage : p.stage = .dropping) (hjob : p.underWay? n = some j) :
    Sound { p.vacate n with dropped := p.dropped ++ [j] } where
  __ := h
  bounded := (h.vacate hjob).1
  begun := (h.vacate hjob).2
  whole := by
    refine h.whole.trans (.append_right _ (.append_right _ ?_))
    refine ((running_perm hjob).append_left _).trans ?_
    simp only [List.append_assoc, List.singleton_append]
    exact .refl _
  kept := fun hne => absurd hstage hne

/-- Every step keeps a pool sound. -/
theorem Sound.step (h : p.Sound) (hs : Step p e p') : p'.Sound := by
  cases hs with
  | arrive message hopen hover => exact h.arrive hopen
  | close => exact { h with drained := fun hstage => ⟨rfl, (h.drained hstage).2⟩ }
  | cancel => exact { h with cancelled := fun _ => rfl }
  | take hcancel hstage hqueue => exact h.take hstage hqueue
  | start hcancel hplace hstage => exact h.start hplace hstage
  | giveUp hlooking hcancel => exact h.giveUp hcancel
  | windUp hstage hcancel hclosed hqueue => exact h.windUp hstage hclosed hqueue
  | finish hjob => exact h.finish hjob
  | drop hstage hjob => exact h.drop hstage hjob

theorem Sound.nodup_running (h : p.Sound) : (p.running.map Job.number).Nodup := by
  have hnumbers := (h.whole.map Job.number).nodup_iff.1 h.nodup_came
  refine hnumbers.sublist (List.Sublist.map _ ?_)
  exact List.sublist_append_of_sublist_left
    (List.sublist_append_of_sublist_left (List.sublist_append_right _ _))

theorem Sound.nodup_finished (h : p.Sound) : (p.finished.map Job.number).Nodup := by
  have hnumbers := (h.whole.map Job.number).nodup_iff.1 h.nodup_came
  exact hnumbers.sublist (List.Sublist.map _ (by simp))

/-- A place that has been given free is not taken by another message of that number. -/
theorem Sound.number_ne_of_mem_vacate (h : p.Sound) (hjob : p.underWay? n = some j) {i : Job}
    (hi : i ∈ (p.vacate n).running) : i.number ≠ n := by
  have hnodup := ((running_perm hjob).map Job.number).nodup_iff.1 h.nodup_running
  rw [List.map_cons, List.nodup_cons, number_of_underWay? hjob] at hnodup
  exact fun hnumber => hnodup.1 (List.mem_map.2 ⟨i, hi, hnumber⟩)

/-- A message that is being worked on is found by its number. -/
theorem Sound.underWay?_eq (h : p.Sound) (hj : j ∈ p.running) :
    p.underWay? j.number = some j := by
  obtain ⟨i, hi⟩ := Option.isSome_iff_exists.1 (underWay?_isSome hj)
  have hmem : i ∈ p.running := List.mem_of_find?_eq_some hi
  rw [hi, List.inj_on_of_nodup_map h.nodup_running hmem hj (number_of_underWay? hi)]

/-- A message that waits for a place has not been begun. -/
theorem Sound.not_begun (h : p.Sound) (hstage : p.stage = .holding j) : j ∉ p.begun := by
  obtain ⟨l, hperm, hsub⟩ := h.fresh
  have hnodup : (p.begun ++ p.stage.held ++ p.queued).Nodup :=
    hperm.nodup_iff.1 ((List.Nodup.of_map _ h.nodup_came).sublist hsub)
  rw [hstage, Stage.held, List.append_assoc] at hnodup
  exact fun hj => (List.disjoint_of_nodup_append hnodup) hj (by simp)

/-- Unless work comes to an end, everything that has been begun stays as it is, and only what has
not been begun is added to it. -/
theorem Step.frame (hs : Step p e p') (hp : p.Sound) (hfinish : ∀ n, e ≠ .finish n)
    (hdrop : ∀ n, e ≠ .drop n) : p'.finished = p.finished ∧ p.begun ⊆ p'.begun ∧
      p.running ⊆ p'.running ∧ ∀ j ∈ p'.running, j ∈ p.running ∨ j ∉ p.begun := by
  cases hs with
  | arrive | close | cancel | take | giveUp | windUp =>
    exact ⟨rfl, List.Subset.refl _, List.Subset.refl _, fun j hj => .inl hj⟩
  | start hcancel hplace hstage =>
    refine ⟨rfl, List.subset_append_left _ _, List.subset_append_left _ _, fun i hi => ?_⟩
    rcases List.mem_append.1 hi with hi | hi
    · exact .inl hi
    · exact .inr (List.mem_singleton.1 hi ▸ hp.not_begun hstage)
  | finish => exact absurd rfl (hfinish _)
  | drop => exact absurd rfl (hdrop _)

/-! ### The end -/

/-- Nobody is in progress once a pool has stopped. -/
theorem running_of_isOver (h : p.isOver = true) : p.running = [] := by
  simp only [isOver, Bool.and_eq_true, List.isEmpty_iff] at h
  exact h.2

/-- A pool that has stopped without a token has worked off whatever has come. -/
theorem Sound.finished_of_isOver (h : p.Sound) (hover : p.isOver = true)
    (hcancel : p.isCancelled = false) : p.isClosed = true ∧ p.came.Perm p.finished := by
  have hrunning := running_of_isOver hover
  have hwhole := h.whole
  cases hstage : p.stage with
  | looking => simp [isOver, hstage, Stage.isLooking] at hover
  | holding j => simp [isOver, hstage, Stage.isLooking] at hover
  | dropping => exact absurd (h.cancelled hstage) (by simp [hcancel])
  | draining =>
    obtain ⟨hclosed, hqueue⟩ := h.drained hstage
    refine ⟨hclosed, ?_⟩
    simpa [hrunning, hqueue, hstage, Stage.held, h.kept (by simp [hstage])] using hwhole

/-- Once the token has fired, no work begins. -/
theorem Step.begun_of_isCancelled (hs : Step p e p') (h : p.isCancelled = true) :
    p'.isCancelled = true ∧ p'.begun = p.begun := by
  cases hs with
  | start hcancel | take hcancel => exact absurd h (by simp [hcancel])
  | windUp hstage hcancel => exact absurd h (by simp [hcancel])
  | cancel => exact ⟨rfl, rfl⟩
  | arrive | close | giveUp | finish | drop => exact ⟨h, rfl⟩

/-- A pool that has stopped does nothing any more, except that others close and cancel it. -/
theorem Step.isOver (hs : Step p e p') (h : p.isOver = true) : p'.isOver = true := by
  have hrunning := running_of_isOver h
  have hlooking : p.stage.isLooking = false := by
    simp only [Pool.isOver, Bool.and_eq_true, Bool.not_eq_true'] at h
    exact h.1
  have hnone : ∀ n, p.underWay? n = none := by simp [underWay?, hrunning]
  cases hs with
  | arrive message hopen hover => exact absurd h (by simp [hover])
  | close | cancel => exact h
  | take hcancel hstage | start hcancel hplace hstage | windUp hstage =>
    simp [hstage, Stage.isLooking] at hlooking
  | giveUp hlooks => exact absurd hlooks (by simp [hlooking])
  | finish hjob | drop hstage hjob => exact absurd hjob (by simp [hnone])

/-- Messages come in no other way than by arriving. -/
theorem Step.came (hs : Step p e p') (he : ∀ m, e ≠ .arrive m) :
    p'.came = p.came ∧ (p.isClosed = true → p'.isClosed = true) := by
  cases hs with
  | arrive => exact absurd rfl (he _)
  | close => exact ⟨rfl, fun _ => rfl⟩
  | cancel | take | start | giveUp | windUp | finish | drop => exact ⟨rfl, id⟩

/-- The pool does this by itself. -/
def Event.isOwn : Event → Bool
  | .arrive _ | .close | .cancel => false
  | .take | .start | .leave | .finish _ | .drop _ => true

/-- What is to do before the pool stops looking for messages: four moves for a message in the queue,
three for one that waits for a place, and one to notice that there are no more. -/
def Stage.ahead (queued : Nat) (isCancelled : Bool) : Stage → Nat
  | .looking => if isCancelled then 1 else 4 * queued + 1
  | .holding _ => if isCancelled then 1 else 4 * queued + 4
  | .draining | .dropping => 0

/-- A bound for the number of a pool's own moves that are still to come. -/
def toDo (p : Pool) : Nat := p.stage.ahead p.queued.length p.isCancelled + p.running.length

/-- What a place is worth. -/
theorem toDo_vacate (h : p.underWay? n = some j) : (p.vacate n).toDo + 1 = p.toDo := by
  have hlength := (running_perm h).length_eq
  simp only [toDo, vacate, List.length_cons] at hlength ⊢
  omega

theorem toDo_start (hcancel : p.isCancelled = false) (hstage : p.stage = .holding j) :
    toDo { p with stage := .looking, running := p.running ++ [j], begun := p.begun ++ [j] } + 2 =
      p.toDo := by
  simp only [toDo, hstage, hcancel, Stage.ahead, List.length_append, List.length_cons,
    List.length_nil, Bool.false_eq_true, if_false]
  omega

/-- Every own move of a pool makes what is to do less. -/
theorem Step.toDo_lt (hs : Step p e p') (he : e.isOwn = true) : p'.toDo < p.toDo := by
  cases hs with
  | arrive | close | cancel => cases he
  | take hcancel hstage hqueue =>
    simp only [toDo, hstage, hqueue, hcancel, Stage.ahead, List.length_cons, Bool.false_eq_true,
      if_false]
    omega
  | start hcancel hplace hstage =>
    have := toDo_start hcancel hstage
    omega
  | giveUp hlooking hcancel =>
    revert hlooking
    cases hstage : p.stage <;> simp [toDo, hstage, hcancel, Stage.isLooking, Stage.ahead]
  | windUp hstage hcancel hclosed hqueue => simp [toDo, hstage, hcancel, hqueue, Stage.ahead]
  | finish hjob =>
    exact Nat.lt_of_lt_of_eq (Nat.lt_succ_self _) (toDo_vacate hjob)
  | drop hstage hjob =>
    exact Nat.lt_of_lt_of_eq (Nat.lt_succ_self _) (toDo_vacate hjob)

/-- Once nothing more can come that would be worked on, what is to do does not grow. -/
theorem Step.toDo_le (hs : Step p e p') (h : p.isClosed = true ∨ p.isCancelled = true) :
    p'.toDo ≤ p.toDo := by
  cases hs with
  | arrive message hopen =>
    have hcancel : p.isCancelled = true := by simpa [hopen] using h
    cases hstage : p.stage <;> simp [toDo, hstage, hcancel, Stage.ahead]
  | close => exact Nat.le_refl _
  | cancel =>
    cases hstage : p.stage <;> simp [toDo, hstage, Stage.ahead] <;> split <;> omega
  | take hcancel hstage hqueue => exact (Step.take hcancel hstage hqueue).toDo_lt rfl |>.le
  | start hcancel hplace hstage => exact (Step.start hcancel hplace hstage).toDo_lt rfl |>.le
  | giveUp hlooking hcancel => exact (Step.giveUp hlooking hcancel).toDo_lt rfl |>.le
  | windUp hstage hcancel hclosed hqueue =>
    exact (Step.windUp hstage hcancel hclosed hqueue).toDo_lt rfl |>.le
  | finish hjob => exact (Step.finish hjob).toDo_lt rfl |>.le
  | drop hstage hjob => exact (Step.drop hstage hjob).toDo_lt rfl |>.le

/-- A cancelled pool that is not about to wind up can leave or give up, whatever it works on. -/
theorem gives_up (h : p.isCancelled = true) (hstage : p.stage ≠ .draining)
    (hover : p.isOver = false) :
    (p.step? .leave).isSome ∨ ∃ j ∈ p.running, (p.step? (.drop j.number)).isSome := by
  cases hlooking : p.stage.isLooking with
  | true => exact .inl (by simp [step?, leave, hlooking, h])
  | false =>
    have hdropping : p.stage = .dropping := by
      revert hlooking hstage
      cases p.stage <;> simp [Stage.isLooking]
    obtain ⟨j, hj⟩ : ∃ j, j ∈ p.running := by
      refine List.exists_mem_of_ne_nil _ fun hnil => ?_
      simp [isOver, hlooking, hnil] at hover
    exact .inr ⟨j, hj, by simpa [step?, drop, hdropping] using underWay?_isSome hj⟩

/-- A pool that nobody feeds any more does not wait for anything but what it works on. -/
theorem Sound.goes_on (hp : p.Sound) (h : p.isClosed = true ∨ p.isCancelled = true)
    (hover : p.isOver = false) :
    (p.step? .take).isSome ∨ (p.step? .start).isSome ∨ (p.step? .leave).isSome ∨
      p.running ≠ [] := by
  cases hcancel : p.isCancelled with
  | true =>
    cases hlooking : p.stage.isLooking with
    | true => exact .inr (.inr (.inl (by simp [step?, leave, hlooking, hcancel])))
    | false =>
      refine .inr (.inr (.inr fun hnil => ?_))
      simp [isOver, hlooking, hnil] at hover
  | false =>
    have hclosed : p.isClosed = true := by simpa [hcancel] using h
    cases hstage : p.stage with
    | looking =>
      cases hqueue : p.queued with
      | nil =>
        refine .inr (.inr (.inl ?_))
        simp [step?, leave, hstage, hcancel, hclosed, hqueue, Stage.isLooking, Stage.held]
      | cons j queued => exact .inl (by simp [step?, Pool.take, hstage, hcancel, hqueue])
    -- The message that is held begins if there is a place; otherwise somebody is at work.
    | holding j =>
      by_cases hplace : p.running.length < p.width
      · exact .inr (.inl (by simp [step?, Pool.start, hstage, hcancel, hasPlace, hplace]))
      · refine .inr (.inr (.inr fun hnil => hplace ?_))
        exact hnil ▸ hp.roomy
    | draining | dropping =>
      refine .inr (.inr (.inr fun hnil => ?_))
      simp [isOver, hstage, hnil, Stage.isLooking] at hover

end Sluice.Pool
