import Sluice.Proofs.Pending.Counting
import Sluice.Proofs.Pending.Settlement

/-!
# What a sweep leaves

A sweep first collects the ids of the overdue entries and then expires them one after the other. All
in all it takes these entries out of the table and puts their expiry into their boxes, and does
nothing else.

* `Table.entries_expire_each`, `Table.box_expire_each` : the entries and the boxes after pending ids
  have expired one after the other;
* `Table.entries_sweep`, `Table.box_sweep` : those after a sweep;
* `Table.sweep_sweep` : two sweeps in turn come to the same as the later one alone;
* `Table.Reachable` : the tables that come about from an empty one; `Table.Reachable.sweeps` : all
  that a sweep does to them.
-/

namespace Sluice

namespace Table

variable {t t' : Table} {id : Uuid} {e : Entry} {now later : Instant}

theorem eq_of_box (hentries : t.entries = t'.entries) (hlen : t.boxes.length = t'.boxes.length)
    (hbox : ∀ n < t.boxes.length, t.box n = t'.box n) : t = t' := by
  have hboxes : t.boxes = t'.boxes := by
    refine List.ext_getElem hlen ?_
    intro n hn hn'
    simpa [box, hn, hn'] using hbox n hn
  cases t
  cases t'
  simp_all

/-! ### Expiring one after the other -/

theorem entries_expire_each {js : List Uuid} (hjs : js.Nodup)
    (hpending : ∀ j ∈ js, ∃ e, t.find? j = some e ∧ e.isPending = true) :
    (t.afterAll (js.map .expire)).entries = t.entries.filter fun x => x.1 ∉ js := by
  induction js generalizing t with
  | nil => simp [afterAll]
  | cons id js ih =>
    obtain ⟨e, hf, hp⟩ := hpending id List.mem_cons_self
    obtain ⟨hid, hjs⟩ := List.nodup_cons.1 hjs
    have hfirst : (t.after (.expire id)).entries = t.entries.filter (·.1 != id) := by
      simp [after, expire_of_pending hf hp, remove, putBox]
    have hrest := ih hjs
      (pending_after_expire hid fun j hj => hpending j (List.mem_cons_of_mem _ hj))
    rw [hfirst, List.filter_filter] at hrest
    refine hrest.trans (List.filter_congr ?_)
    intro x _
    grind

/-- The boxes of the ids hold their expiry, and the others what they held. -/
theorem box_expire_each {js : List Uuid} (hjs : js.Nodup)
    (hpending : ∀ j ∈ js, ∃ e, t.find? j = some e ∧ e.isPending = true) {n : Nat}
    (hn : n < t.boxes.length) : (t.afterAll (js.map .expire)).box n =
      if ∃ j ∈ js, (t.find? j).map (·.ticket) = some n then .holding .expired else t.box n := by
  induction js generalizing t with
  | nil => simp [afterAll]
  | cons id js ih =>
    obtain ⟨e, hf, hp⟩ := hpending id List.mem_cons_self
    obtain ⟨hid, hjs⟩ := List.nodup_cons.1 hjs
    have hfirst : (t.after (.expire id)).box n =
        if e.ticket = n then .holding .expired else t.box n := by
      have hafter : (t.after (.expire id)).box n =
          (t.putBox e.ticket (.holding .expired)).box n := by
        simp only [after, expire_of_pending hf hp, remove, box]
      rw [hafter, box_putBox]
      simp [hn]
    -- Expiring the first id leaves the tickets of the others as they were.
    have htickets : (∃ j ∈ js, ((t.after (.expire id)).find? j).map (·.ticket) = some n) ↔
        ∃ j ∈ js, (t.find? j).map (·.ticket) = some n := by
      refine exists_congr fun j => and_congr_right fun hj => ?_
      rw [find?_after_expire_of_ne (ne_of_mem_of_not_mem hj hid)]
    have hrest := ih hjs
      (pending_after_expire hid fun j hj => hpending j (List.mem_cons_of_mem _ hj))
      (Nat.lt_of_lt_of_eq hn (length_boxes_after (a := .expire id) (by simp)).symm)
    simp only [htickets, hfirst] at hrest
    refine hrest.trans ?_
    by_cases hmore : ∃ j ∈ js, (t.find? j).map (·.ticket) = some n
    · rw [if_pos hmore, if_pos]
      obtain ⟨j, hj, hjn⟩ := hmore
      exact ⟨j, List.mem_cons_of_mem _ hj, hjn⟩
    · simp only [List.mem_cons, exists_eq_or_imp, hf, Option.map_some, Option.some.injEq, hmore,
        or_false, if_false]

/-! ### Sweeps -/

theorem isOverdue_iff : isOverdue now e = true ↔ e.isPending = true ∧ e.deadline ≤ now := by
  simp [isOverdue]

theorem isOverdue_mono (hle : now ≤ later) (h : isOverdue now e = true) :
    isOverdue later e = true := by
  rw [isOverdue_iff] at h ⊢
  exact ⟨h.1, Int.le_trans h.2 hle⟩

theorem mem_overdue (h : t.ids.Nodup) {x : Uuid × Entry} (hx : x ∈ t.entries) :
    x.1 ∈ t.overdue now ↔ isOverdue now x.2 = true := by
  constructor
  · intro hmem
    obtain ⟨y, hy, hid⟩ := List.mem_map.1 hmem
    obtain ⟨hyt, hover⟩ := List.mem_filter.1 hy
    rwa [List.inj_on_of_nodup_map h hyt hx hid] at hover
  · intro hover
    exact List.mem_map.2 ⟨x, List.mem_filter.2 ⟨hx, hover⟩, rfl⟩

theorem mem_entries (h : t.ids.Nodup) : (id, e) ∈ t.entries ↔ t.find? id = some e := by
  refine ⟨fun hmem => ?_, mem_of_find?⟩
  obtain ⟨e', he'⟩ := mem_ids.1 (List.mem_map.2 ⟨_, hmem, rfl⟩)
  have heq := List.inj_on_of_nodup_map h hmem (mem_of_find? he') rfl
  rw [he', (Prod.mk.inj heq).2]

theorem entries_sweep (h : t.ids.Nodup) (now : Instant) :
    (t.sweep now).2.entries = t.entries.filter fun x => !isOverdue now x.2 := by
  rw [sweep_eq]
  refine (entries_expire_each (nodup_overdue h now) fun j => pending_of_mem_overdue h).trans ?_
  refine List.filter_congr ?_
  intro x hx
  simp [mem_overdue h hx]

/-- **A sweep puts their expiry into their boxes.** -/
theorem box_sweep (h : t.ids.Nodup) (now : Instant) {n : Nat} (hn : n < t.boxes.length) :
    (t.sweep now).2.box n =
      if ∃ x ∈ t.entries, isOverdue now x.2 = true ∧ x.2.ticket = n then .holding .expired
      else t.box n := by
  rw [sweep_eq]
  refine (box_expire_each (nodup_overdue h now) (fun j => pending_of_mem_overdue h) hn).trans ?_
  refine if_congr ?_ rfl rfl
  constructor
  · rintro ⟨j, hj, hjn⟩
    obtain ⟨e, he, rfl⟩ := Option.map_eq_some_iff.1 hjn
    exact ⟨_, mem_of_find? he, (mem_overdue h (mem_of_find? he)).1 hj, rfl⟩
  · rintro ⟨x, hx, hover, rfl⟩
    exact ⟨x.1, (mem_overdue h hx).2 hover, by rw [(mem_entries h).1 hx]; rfl⟩

theorem length_boxes_sweep (t : Table) (now : Instant) :
    (t.sweep now).2.boxes.length = t.boxes.length := by
  rw [sweep_eq]
  exact length_boxes_expiries t (t.overdue now)

theorem fst_sweep (h : t.ids.Nodup) (now : Instant) :
    (t.sweep now).1 = t.entries.countP fun x => isOverdue now x.2 := by
  rw [(expire_overdue h now).1, overdue, List.length_map, List.countP_eq_length_filter]

/-- **Two sweeps in turn come to the same as the later one alone.** -/
theorem sweep_sweep (h : t.ids.Nodup) (hle : now ≤ later) :
    ((t.sweep now).2.sweep later).2 = (t.sweep later).2 := by
  have hswept := (expire_overdue h now).2.1
  have hlen := length_boxes_sweep (t.sweep now).2 later
  refine eq_of_box ?_ ?_ ?_
  · rw [entries_sweep hswept, entries_sweep h, entries_sweep h, List.filter_filter]
    refine List.filter_congr ?_
    intro x _
    have := isOverdue_mono (e := x.2) hle
    grind
  · rw [hlen, length_boxes_sweep, length_boxes_sweep]
  · intro n hn
    rw [hlen] at hn
    rw [box_sweep hswept later hn]
    rw [length_boxes_sweep] at hn
    rw [box_sweep h now hn, box_sweep h later hn, entries_sweep h]
    -- What is overdue later has been so before or is still there.
    have hor : (∃ x ∈ t.entries.filter fun x => !isOverdue now x.2,
          isOverdue later x.2 = true ∧ x.2.ticket = n) ∨
        (∃ x ∈ t.entries, isOverdue now x.2 = true ∧ x.2.ticket = n) ↔
          ∃ x ∈ t.entries, isOverdue later x.2 = true ∧ x.2.ticket = n := by
      constructor
      · rintro (⟨x, hx, hover, hxn⟩ | ⟨x, hx, hover, hxn⟩)
        · exact ⟨x, (List.mem_filter.1 hx).1, hover, hxn⟩
        · exact ⟨x, hx, isOverdue_mono hle hover, hxn⟩
      · rintro ⟨x, hx, hover, hxn⟩
        by_cases hnow : isOverdue now x.2 = true
        · exact Or.inr ⟨x, hx, hnow, hxn⟩
        · exact Or.inl ⟨x, List.mem_filter.2 ⟨hx, by simpa using hnow⟩, hover, hxn⟩
    rw [← ite_or]
    exact if_congr hor rfl rfl

theorem fst_sweep_sweep (h : t.ids.Nodup) (now : Instant) :
    ((t.sweep now).2.sweep now).1 = 0 := by
  rw [fst_sweep (expire_overdue h now).2.1, entries_sweep h, List.countP_eq_zero]
  intro x hx
  simpa using (List.mem_filter.1 hx).2

/-! ### Reachable tables -/

/-- The tables that come about from an empty one. -/
inductive Reachable : Table → Prop where
  | empty : Reachable .empty
  | act {t : Table} (h : Reachable t) (a : Act) : Reachable (t.after a)
  | sweep {t : Table} (h : Reachable t) (now : Instant) : Reachable (t.sweep now).2
  | await {t : Table} (h : Reachable t) (ticket : Nat) : Reachable (t.await ticket).2

/-- Whoever awaits a settlement leaves the table as it is, or as if it had polled. -/
theorem await_cases (t : Table) (n : Nat) :
    (t.await n).2 = t ∨ (t.await n).2 = t.after (.poll n) := by
  cases h : t.box n <;> simp [await, after, poll, h]

/-- A reachable table comes about by acts alone. -/
theorem Reachable.exists_acts (h : t.Reachable) : ∃ as, t = Table.empty.afterAll as := by
  induction h with
  | empty => exact ⟨[], rfl⟩
  | act _ a ih =>
    obtain ⟨as, rfl⟩ := ih
    exact ⟨as ++ [a], by rw [afterAll_append]; rfl⟩
  | sweep _ now ih =>
    obtain ⟨as, rfl⟩ := ih
    exact ⟨as ++ sweepActs _ now, by rw [afterAll_append, sweep_eq]⟩
  | await _ n ih =>
    obtain ⟨as, rfl⟩ := ih
    rcases await_cases (Table.empty.afterAll as) n with hsame | hpoll
    · exact ⟨as, hsame⟩
    · exact ⟨as ++ [.poll n], by rw [hpoll, afterAll_append]; rfl⟩

theorem Reachable.sound (h : t.Reachable) : ∃ hist, t.Sound hist := by
  obtain ⟨as, rfl⟩ := h.exists_acts
  exact ⟨_, sound_afterAll as⟩

theorem reachable_afterAll (h : t.Reachable) (as : List Act) : (t.afterAll as).Reachable := by
  induction as generalizing t with
  | nil => exact h
  | cons a as ih => exact ih (h.act a)

/-- **All that a sweep does.** An entry is overdue if it is pending and its deadline has come. -/
structure Sweeps (t : Table) (now : Instant) : Prop where
  /-- The sweep answers how many entries are overdue. -/
  counted : (t.sweep now).1 =
    (t.entries.filter fun x => x.2.isPending && decide (x.2.deadline ≤ now)).length
  /-- These are no longer in the table, and the others are there as they were, -/
  find?_iff : ∀ id e, (t.sweep now).2.find? id = some e ↔
    t.find? id = some e ∧ ¬ (e.isPending = true ∧ e.deadline ≤ now)
  /-- and in the same order. -/
  sublist : (t.sweep now).2.entries.Sublist t.entries
  /-- Whoever waited for an overdue entry finds that it has expired. -/
  delivered : ∀ id e, t.find? id = some e → e.isPending = true → e.deadline ≤ now →
    t.box e.ticket = .waiting ∧ (t.sweep now).2.box e.ticket = .holding .expired ∧
      ((t.sweep now).2.poll e.ticket).1 = some .expired
  /-- What there is in any other box is still there. -/
  spared : ∀ n, (∀ id e, t.find? id = some e → e.ticket = n →
    ¬ (e.isPending = true ∧ e.deadline ≤ now)) → (t.sweep now).2.box n = t.box n
  /-- No box is added or taken away. -/
  boxes : (t.sweep now).2.boxes.length = t.boxes.length
  /-- A second sweep at the same instant does nothing. -/
  again : (t.sweep now).2.sweep now = (0, (t.sweep now).2)
  /-- A later sweep leaves what it would have left alone. -/
  inTurn : ∀ later, now ≤ later → ((t.sweep now).2.sweep later).2 = (t.sweep later).2

/-- **A sweep expires exactly the overdue entries** of a reachable table. -/
theorem Reachable.sweeps (h : t.Reachable) (now : Instant) : t.Sweeps now := by
  obtain ⟨hist, hs⟩ := h.sound
  have hids : t.ids.Nodup := hs.nodup_ids
  constructor
  · rw [fst_sweep hids, List.countP_eq_length_filter]
    rfl
  · intro id e
    rw [← mem_entries (expire_overdue hids now).2.1, entries_sweep hids, List.mem_filter,
      mem_entries hids, Bool.not_eq_true', Bool.eq_false_iff, ne_eq, isOverdue_iff]
  · rw [entries_sweep hids]
    exact List.filter_sublist
  · intro id e hf hp hdeadline
    have hmem := mem_of_find? hf
    have hbox : (t.sweep now).2.box e.ticket = .holding .expired := by
      rw [box_sweep hids now (hs.ticket_lt _ hmem), if_pos]
      exact ⟨_, hmem, isOverdue_iff.2 ⟨hp, hdeadline⟩, rfl⟩
    exact ⟨hs.pending _ hmem hp, hbox, by rw [poll, hbox]⟩
  · intro n hnot
    by_cases hn : n < t.boxes.length
    · refine hs.box_sweep hn now ?_
      intro x hx hxn
      rw [Bool.eq_false_iff, ne_eq, isOverdue_iff]
      exact hnot x.1 x.2 ((mem_entries hids).1 hx) hxn
    · -- There is no such box, before or after.
      have hn' : ¬ n < (t.sweep now).2.boxes.length := by rwa [length_boxes_sweep]
      simp [box, hn, hn']
  · exact length_boxes_sweep t now
  · exact Prod.ext (fst_sweep_sweep hids now) (sweep_sweep hids (Int.le_refl now))
  · intro later hle
    exact sweep_sweep hids hle

/-- One entry that is overdue at 20, one that has been settled before, and one with time left. -/
def threefold : Table := Table.empty.afterAll
  [.register (.ofNat 1) 10, .register (.ofNat 2) 10,
    .resolve (.ofNat 2) (.success (.ofNat 2) 200 []), .register (.ofNat 3) 50]

theorem sweeps_threefold : threefold.Reachable ∧ threefold.Sweeps 20 ∧
    (threefold.sweep 20).1 = 1 := by
  have hreach : threefold.Reachable := reachable_afterAll .empty _
  exact ⟨hreach, hreach.sweeps 20, by decide⟩

end Table

end Sluice
