import Sluice.Proofs.Pending.Entries
import Mathlib.Data.List.GetD

/-!
# Single settlement

A registration has one holder, who looks into the box of its ticket. Whatever is done to the table,
an entry is settled at most once, and its holder finds out how, once.

* `Table.Record` : what has happened to a ticket, read off from the answers of all acts;
* `Table.Record.Fits` : what its box holds then;
* `Table.Sound` : the entries and the boxes of a table agree with the records of all tickets;
  `Table.Sound.put` carries it through an act that fills or empties a box;
* `Desk.step` : what may happen to a table and its clock, sweeps and time included;
* `Desk.settles_once` : after every run every holder has got, or will get, what settled the entry.
-/

namespace Sluice

namespace Table

/-! ### Records -/

/-- What has happened to a ticket. -/
structure Record where
  /-- How its entry has been settled, each time. -/
  settled : List Settlement
  /-- How often its entry has been removed while it was pending. -/
  forsaken : Nat
  /-- What its holder has collected, each time. -/
  delivered : List Settlement
  deriving DecidableEq, Repr

namespace Record

/-- Nothing. -/
def none : Record := ⟨[], 0, []⟩

/-- First one thing and then another. -/
def and (a b : Record) : Record :=
  ⟨a.settled ++ b.settled, a.forsaken + b.forsaken, a.delivered ++ b.delivered⟩

theorem and_none (a : Record) : a.and none = a := by
  unfold and none
  simp

theorem none_and (a : Record) : none.and a = a := by
  unfold and none
  simp

/-- What a box holds after what has happened to its ticket. -/
inductive Fits : Record → Box → Prop where
  | waiting : Fits none .waiting
  | holding {s : Settlement} (hs : s ≠ .abandoned) : Fits ⟨[s], 0, []⟩ (.holding s)
  | forsaken : Fits ⟨[], 1, []⟩ .forsaken
  | delivered {s : Settlement} (hs : s ≠ .abandoned) (m : Nat) :
    Fits ⟨[s], 0, s :: .replicate m .abandoned⟩ .collected
  | abandoned (m : Nat) : Fits ⟨[], 1, .replicate (m + 1) .abandoned⟩ .collected

theorem Fits.eq_none {a : Record} (h : a.Fits .waiting) : a = none := by
  cases h
  rfl

theorem Fits.eq_waiting {b : Box} (h : none.Fits b) : b = .waiting := by
  obtain ⟨a, ha⟩ : ∃ a, a = none := ⟨_, rfl⟩
  rw [← ha] at h
  cases h with
  | waiting => rfl
  | _ => cases ha

end Record

/-- What an act makes happen. -/
def Act.record (t : Table) (a : Act) : Record :=
  ⟨(a.settlement? t).toList, (a.forsakes t).toNat, (a.delivery? t).toList⟩

/-- What an act makes happen to a ticket. -/
def happens (t : Table) (n : Nat) (a : Act) : Record :=
  if a.ticket? t = some n ∧ n < t.boxes.length then a.record t else .none

theorem happens_of_ticket {t : Table} {a : Act} {m : Nat} (h : a.ticket? t = some m)
    (hm : m < t.boxes.length) (n : Nat) :
    t.happens n a = if n = m then a.record t else .none := by
  unfold happens
  rw [h]
  by_cases hn : n = m
  · subst hn
    rw [if_pos ⟨rfl, hm⟩, if_pos rfl]
  · rw [if_neg hn, if_neg]
    rintro ⟨hc, -⟩
    exact hn (Option.some.inj hc).symm

/-- What some acts, from an empty table on, make happen to a ticket. -/
def record (as : List Act) (n : Nat) : Record :=
  ((Table.empty.trace as).map fun x => x.1.happens n x.2).foldl Record.and .none

theorem record_append_singleton (as : List Act) (a : Act) (n : Nat) :
    record (as ++ [a]) n = (record as n).and ((Table.empty.afterAll as).happens n a) := by
  simp [record, trace_append, trace]

/-! ### Soundness -/

/-- The entries and the boxes of a table agree with what has happened. -/
structure Sound (t : Table) (hist : Nat → Record) : Prop where
  nodup_ids : (t.entries.map (·.1)).Nodup
  nodup_tickets : (t.entries.map (·.2.ticket)).Nodup
  ticket_lt : ∀ x ∈ t.entries, x.2.ticket < t.boxes.length
  fits : ∀ n < t.boxes.length, (hist n).Fits (t.box n)
  unborn : ∀ n, t.boxes.length ≤ n → hist n = .none
  pending : ∀ x ∈ t.entries, x.2.isPending = true → t.box x.2.ticket = .waiting
  settled : ∀ x ∈ t.entries, x.2.isPending = false → (hist x.2.ticket).settled ≠ []
  live : ∀ n < t.boxes.length, t.box n = .waiting →
    ∃ x ∈ t.entries, x.2.ticket = n ∧ x.2.isPending = true

variable {t t' : Table} {hist : Nat → Record} {id : Uuid} {e : Entry}

theorem sound_empty : Sound .empty fun _ => .none where
  nodup_ids := List.nodup_nil
  nodup_tickets := List.nodup_nil
  ticket_lt _ hx := absurd hx List.not_mem_nil
  fits _ hn := absurd hn (Nat.not_lt_zero _)
  unborn _ _ := rfl
  pending _ hx := absurd hx List.not_mem_nil
  settled _ hx := absurd hx List.not_mem_nil
  live _ hn := absurd hn (Nat.not_lt_zero _)

/-- **Filling or emptying a box keeps a table sound**, if the entry of its ticket is gone or no
longer pending and nothing else changes. -/
theorem Sound.put (h : Sound t hist) {m : Nat} {b : Box} {a : Record} (hm : m < t.boxes.length)
    (hboxes : t'.boxes = t.boxes.set m b) (hids : (t'.entries.map (·.1)).Nodup)
    (htickets : (t'.entries.map (·.2.ticket)).Nodup)
    (hother : ∀ x, x.2.ticket ≠ m → (x ∈ t'.entries ↔ x ∈ t.entries))
    (hown : ∀ x ∈ t'.entries, x.2.ticket = m →
      x.2.isPending = false ∧ ((hist m).and a).settled ≠ [])
    (hb : b ≠ .waiting) (hfits : ((hist m).and a).Fits b) :
    Sound t' fun n => (hist n).and (if n = m then a else .none) := by
  -- The box of `m` is the only one that changes.
  have hlen : t'.boxes.length = t.boxes.length := by rw [hboxes, List.length_set]
  have hbox (n : Nat) : t'.box n = if m = n ∧ n < t.boxes.length then b else t.box n := by
    rw [← box_putBox]
    unfold box putBox
    rw [hboxes]
  have hbox_ne {n : Nat} (hn : n ≠ m) : t'.box n = t.box n := by
    rw [hbox, if_neg fun hc => hn hc.1.symm]
  have hbox_self : t'.box m = b := by rw [hbox, if_pos ⟨rfl, hm⟩]
  refine ⟨hids, htickets, ?_, ?_, ?_, ?_, ?_, ?_⟩
  · intro x hx
    rw [hlen]
    by_cases hxm : x.2.ticket = m
    · rwa [hxm]
    · exact h.ticket_lt x ((hother x hxm).1 hx)
  · intro n hn
    rw [hlen] at hn
    by_cases hnm : n = m
    · subst hnm
      rw [if_pos rfl, hbox_self]
      exact hfits
    · rw [if_neg hnm, Record.and_none, hbox_ne hnm]
      exact h.fits n hn
  · intro n hn
    rw [hlen] at hn
    rw [if_neg (by omega), Record.and_none]
    exact h.unborn n hn
  · intro x hx hp
    by_cases hxm : x.2.ticket = m
    · rw [(hown x hx hxm).1] at hp
      cases hp
    · rw [hbox_ne hxm]
      exact h.pending x ((hother x hxm).1 hx) hp
  · intro x hx hp
    by_cases hxm : x.2.ticket = m
    · rw [hxm, if_pos rfl]
      exact (hown x hx hxm).2
    · rw [if_neg hxm, Record.and_none]
      exact h.settled x ((hother x hxm).1 hx) hp
  · intro n hn hw
    by_cases hnm : n = m
    · subst hnm
      exact absurd (hbox_self.symm.trans hw) hb
    · rw [hbox_ne hnm] at hw
      rw [hlen] at hn
      obtain ⟨x, hx, hxn, hp⟩ := h.live n hn hw
      exact ⟨x, (hother x (by rwa [hxn])).2 hx, hxn, hp⟩

theorem Sound.eq_of_id (h : Sound t hist) (hf : t.find? id = some e) {x : Uuid × Entry}
    (hx : x ∈ t.entries) (hid : x.1 = id) : x = (id, e) :=
  List.inj_on_of_nodup_map h.nodup_ids hx (mem_of_find? hf) hid

theorem Sound.eq_of_ticket (h : Sound t hist) (hf : t.find? id = some e) {x : Uuid × Entry}
    (hx : x ∈ t.entries) (ht : x.2.ticket = e.ticket) : x = (id, e) :=
  List.inj_on_of_nodup_map h.nodup_tickets hx (mem_of_find? hf) ht

/-- Nothing has happened to a ticket whose entry is pending. -/
theorem Sound.hist_of_pending (h : Sound t hist) (hf : t.find? id = some e)
    (hp : e.isPending = true) : hist e.ticket = .none := by
  have hfits := h.fits _ (h.ticket_lt _ (mem_of_find? hf))
  rw [h.pending _ (mem_of_find? hf) hp] at hfits
  exact hfits.eq_none

/-- Filling a box and removing the entry keeps a table sound. -/
theorem Sound.put_remove (h : Sound t hist) (hf : t.find? id = some e) {b : Box} {a : Record}
    (hb : b ≠ .waiting) (hfits : ((hist e.ticket).and a).Fits b) :
    Sound ((t.putBox e.ticket b).remove id) fun n =>
      (hist n).and (if n = e.ticket then a else .none) := by
  have hmem {x : Uuid × Entry} :
      x ∈ ((t.putBox e.ticket b).remove id).entries ↔ x ∈ t.entries ∧ x.1 ≠ id := by
    change x ∈ t.entries.filter (·.1 != id) ↔ _
    rw [List.mem_filter, bne_iff_ne]
  refine h.put (h.ticket_lt _ (mem_of_find? hf)) rfl ?_ ?_ ?_ ?_ hb hfits
  · exact h.nodup_ids.sublist (List.filter_sublist.map _)
  · exact h.nodup_tickets.sublist (List.filter_sublist.map _)
  · intro x hx
    rw [hmem, and_iff_left_iff_imp]
    intro hxt hid
    exact hx (congrArg (·.2.ticket) (h.eq_of_id hf hxt hid))
  · intro x hx ht
    obtain ⟨hxt, hid⟩ := hmem.1 hx
    exact absurd (congrArg Prod.fst (h.eq_of_ticket hf hxt ht)) hid

/-- Filling a box and settling the entry keeps a table sound. -/
theorem Sound.put_mark (h : Sound t hist) (hf : t.find? id = some e) {b : Box} {a : Record}
    (hb : b ≠ .waiting) (hfits : ((hist e.ticket).and a).Fits b)
    (ha : ((hist e.ticket).and a).settled ≠ []) :
    Sound ((t.putBox e.ticket b).mark id) fun n =>
      (hist n).and (if n = e.ticket then a else .none) := by
  have hmem {x : Uuid × Entry} (hx : x ∈ ((t.putBox e.ticket b).mark id).entries) :
      (x ∈ t.entries ∧ x.1 ≠ id) ∨ x = (id, { e with isPending := false }) := by
    obtain ⟨y, hy, rfl⟩ := List.mem_map.1 hx
    split_ifs with hid
    · right
      rw [h.eq_of_id hf hy hid]
    · exact Or.inl ⟨hy, hid⟩
  refine h.put (h.ticket_lt _ (mem_of_find? hf)) rfl ?_ ?_ (fun x hx => ⟨?_, ?_⟩) ?_ hb hfits
  · rw [map_fst_mark]
    exact h.nodup_ids
  · have htickets : ((t.putBox e.ticket b).mark id).entries.map (·.2.ticket) =
        t.entries.map (·.2.ticket) := by
      change (t.entries.map _).map _ = _
      rw [List.map_map]
      refine List.map_congr_left ?_
      intro x _
      rw [Function.comp_apply]
      split_ifs <;> rfl
    rw [htickets]
    exact h.nodup_tickets
  · intro hxt
    rcases hmem hxt with ⟨hxt, -⟩ | rfl
    · exact hxt
    · exact absurd rfl hx
  · intro hxt
    refine List.mem_map.2 ⟨x, hxt, if_neg fun hid => hx ?_⟩
    exact congrArg (·.2.ticket) (h.eq_of_id hf hxt hid)
  · intro x hx ht
    rcases hmem hx with ⟨hxt, hid⟩ | rfl
    · exact absurd (congrArg Prod.fst (h.eq_of_ticket hf hxt ht)) hid
    · exact ⟨rfl, ha⟩

/-- Removing an entry that has been settled keeps a table sound. -/
theorem Sound.drop (h : Sound t hist) (hf : t.find? id = some e) (hp : e.isPending = false) :
    Sound (t.remove id) hist := by
  have hmem {x : Uuid × Entry} (hx : x ∈ (t.remove id).entries) : x ∈ t.entries :=
    (List.mem_filter.1 hx).1
  refine ⟨h.nodup_ids.sublist (List.filter_sublist.map _),
    h.nodup_tickets.sublist (List.filter_sublist.map _), fun x hx => h.ticket_lt x (hmem hx),
    h.fits, h.unborn, fun x hx => h.pending x (hmem hx), fun x hx => h.settled x (hmem hx),
    ?_⟩
  intro n hn hw
  obtain ⟨x, hx, hxn, hxp⟩ := h.live n hn hw
  refine ⟨x, List.mem_filter.2 ⟨hx, bne_iff_ne.2 ?_⟩, hxn, hxp⟩
  intro hid
  rw [h.eq_of_id hf hx hid, hp] at hxp
  cases hxp

/-- Registering an id keeps a table sound. -/
theorem Sound.register (h : Sound t hist) (hf : t.find? id = none) (deadline : Instant) :
    Sound ⟨t.entries ++ [(id, ⟨t.boxes.length, deadline, true⟩)], t.boxes ++ [.waiting]⟩ hist := by
  have hbox {n : Nat} (hn : n < t.boxes.length) :
      box ⟨t.entries ++ [(id, ⟨t.boxes.length, deadline, true⟩)], t.boxes ++ [.waiting]⟩ n =
        t.box n :=
    (Effect.register hf).box_eq hn (nomatch ·)
  have hnew : box ⟨t.entries ++ [(id, ⟨t.boxes.length, deadline, true⟩)], t.boxes ++ [.waiting]⟩
      t.boxes.length = .waiting := by
    unfold box
    simp
  -- The new ticket is the number of boxes so far, which no entry has and no record mentions.
  refine ⟨?_, ?_, ?_, ?_, ?_, ?_, ?_, ?_⟩
  · rw [List.map_append]
    refine h.nodup_ids.append (List.nodup_singleton id) ?_
    intro j hj hjid
    obtain ⟨x, hx, rfl⟩ := List.mem_map.1 hj
    exact find?_eq_none.1 hf x hx (List.mem_singleton.1 hjid)
  · rw [List.map_append]
    refine h.nodup_tickets.append (List.nodup_singleton _) ?_
    intro n hn hnl
    obtain ⟨x, hx, rfl⟩ := List.mem_map.1 hn
    exact Nat.ne_of_lt (h.ticket_lt x hx) (List.mem_singleton.1 hnl)
  · intro x hx
    rw [List.length_append, List.length_singleton]
    rcases List.mem_append.1 hx with hx | hx
    · exact Nat.lt_succ_of_lt (h.ticket_lt x hx)
    · rw [List.mem_singleton.1 hx]
      exact Nat.lt_succ_self _
  · intro n hn
    rw [List.length_append, List.length_singleton] at hn
    rcases Nat.lt_succ_iff_lt_or_eq.1 hn with hn | rfl
    · rw [hbox hn]
      exact h.fits n hn
    · rw [hnew, h.unborn _ (Nat.le_refl _)]
      exact .waiting
  · intro n hn
    rw [List.length_append, List.length_singleton] at hn
    exact h.unborn n (Nat.le_of_succ_le hn)
  · intro x hx hp
    rcases List.mem_append.1 hx with hx | hx
    · rw [hbox (h.ticket_lt x hx)]
      exact h.pending x hx hp
    · rw [List.mem_singleton.1 hx]
      exact hnew
  · intro x hx hp
    rcases List.mem_append.1 hx with hx | hx
    · exact h.settled x hx hp
    · rw [List.mem_singleton.1 hx] at hp
      cases hp
  · intro n hn hw
    rw [List.length_append, List.length_singleton] at hn
    rcases Nat.lt_succ_iff_lt_or_eq.1 hn with hn | rfl
    · rw [hbox hn] at hw
      obtain ⟨x, hx, hxn, hp⟩ := h.live n hn hw
      exact ⟨x, List.mem_append_left _ hx, hxn, hp⟩
    · exact ⟨_, List.mem_append_right _ (List.mem_singleton_self _), rfl, rfl⟩

/-- Emptying a box that is not waiting keeps a table sound. -/
theorem Sound.put_collected (h : Sound t hist) {n : Nat} (hn : n < t.boxes.length)
    (hw : t.box n ≠ .waiting) {a : Record} (hfits : ((hist n).and a).Fits .collected) :
    Sound (t.putBox n .collected) fun m => (hist m).and (if m = n then a else .none) := by
  refine h.put hn rfl h.nodup_ids h.nodup_tickets (fun _ _ => Iff.rfl) ?_
    Box.noConfusion hfits
  intro x hx hxn
  -- The box of a pending entry is waiting.
  have hp : x.2.isPending = false := by
    cases hp : x.2.isPending with
    | false => rfl
    | true => exact absurd (hxn ▸ h.pending x hx hp) hw
  refine ⟨hp, fun hnil => h.settled x hx hp ?_⟩
  rw [hxn]
  exact (List.append_eq_nil_iff.1 hnil).1

theorem lt_of_box_ne {n : Nat} (h : t.box n ≠ .collected) : n < t.boxes.length := by
  by_contra hn
  refine h ?_
  unfold box
  rw [List.getD_eq_default _ _ (Nat.le_of_not_lt hn)]

theorem Record.Fits.collect {a : Record} {s : Settlement} (h : a.Fits (.holding s)) :
    (a.and ⟨[], 0, [s]⟩).Fits .collected := by
  cases h with
  | holding hs => exact .delivered hs 0

theorem Record.Fits.abandon {a : Record} (h : a.Fits .forsaken) :
    (a.and ⟨[], 0, [.abandoned]⟩).Fits .collected := by
  cases h with
  | forsaken => exact .abandoned 0

theorem Record.Fits.again {a : Record} (h : a.Fits .collected) :
    (a.and ⟨[], 0, [.abandoned]⟩).Fits .collected := by
  cases h with
  | delivered hs m =>
    have := Fits.delivered hs (m + 1)
    rw [List.replicate_succ'] at this
    exact this
  | abandoned m =>
    have := Fits.abandoned (m + 1)
    rw [List.replicate_succ'] at this
    exact this

theorem putBox_self {n : Nat} {b : Box} (hn : n < t.boxes.length) (h : t.box n = b) :
    t.putBox n b = t := by
  unfold putBox
  subst h
  unfold box
  rw [List.getD_eq_getElem _ _ hn, List.set_getElem_self]

/-! ### What acts make happen -/

theorem record_still {a : Act} (hs : a.settlement? t = none) (hf : a.forsakes t = false)
    (hd : a.delivery? t = none) : a.record t = .none := by
  unfold Act.record
  rw [hs, hf, hd]
  rfl

theorem record_resolve (hf : t.find? id = some e) (hp : e.isPending = true) (r : Response) :
    (Act.resolve id r).record t = ⟨[.completed r], 0, []⟩ := by
  have hs : (Act.resolve id r).settlement? t = some (.completed r) := by
    rw [Act.settlement?, resolve_of_pending hf hp]
    rfl
  unfold Act.record
  rw [hs]
  rfl

theorem record_expire (hf : t.find? id = some e) (hp : e.isPending = true) :
    (Act.expire id).record t = ⟨[.expired], 0, []⟩ := by
  have hs : (Act.expire id).settlement? t = some .expired := by
    rw [Act.settlement?, expire_of_pending hf hp]
    rfl
  unfold Act.record
  rw [hs]
  rfl

theorem record_deregister (hf : t.find? id = some e) :
    (Act.deregister id).record t = ⟨[], e.isPending.toNat, []⟩ := by
  have hs : (Act.deregister id).forsakes t = e.isPending := by
    rw [Act.forsakes, hf]
    rfl
  unfold Act.record
  rw [hs]
  rfl

theorem record_poll (n : Nat) : (Act.poll n).record t = ⟨[], 0, (t.poll n).1.toList⟩ := rfl

/-- **An act keeps a table sound.** -/
theorem Sound.effect (h : Sound t hist) {a : Act} (heff : Effect t a t') :
    Sound t' fun n => (hist n).and (t.happens n a) := by
  -- The acts that touch the box of a ticket make something happen to this ticket only.
  have hone {m : Nat} {ρ : Record} (ht : a.ticket? t = some m) (hm : m < t.boxes.length)
      (hrec : a.record t = ρ) (hput : Sound t' fun n => (hist n).and (if n = m then ρ else .none)) :
      Sound t' fun n => (hist n).and (t.happens n a) := by
    simp only [happens_of_ticket ht hm, hrec]
    exact hput
  have hnone (hnone : ∀ n, t.happens n a = .none) (hsame : Sound t' hist) :
      Sound t' fun n => (hist n).and (t.happens n a) := by
    simp only [hnone, Record.and_none]
    exact hsame
  cases heff with
  | still hs hf hd =>
    refine hnone ?_ h
    intro n
    unfold happens
    rw [record_still hs hf hd, ite_self]
  | register hf => exact hnone (fun n => if_neg fun hc => nomatch hc.1) (h.register hf _)
  | resolve hf hp =>
    refine hone (ticket_of_find? hf) (h.ticket_lt _ (mem_of_find? hf)) (record_resolve hf hp _) ?_
    refine h.put_mark hf Box.noConfusion ?_ (by simp [Record.and])
    rw [h.hist_of_pending hf hp, Record.none_and]
    exact .holding Settlement.noConfusion
  | expire hf hp =>
    refine hone (ticket_of_find? hf) (h.ticket_lt _ (mem_of_find? hf)) (record_expire hf hp) ?_
    refine h.put_remove hf Box.noConfusion ?_
    rw [h.hist_of_pending hf hp, Record.none_and]
    exact .holding Settlement.noConfusion
  | forsake hf hp =>
    refine hone (ticket_of_find? hf) (h.ticket_lt _ (mem_of_find? hf)) (record_deregister hf) ?_
    refine h.put_remove hf Box.noConfusion ?_
    rw [h.hist_of_pending hf hp, Record.none_and, hp]
    exact .forsaken
  | drop hf hp =>
    refine hnone ?_ (h.drop hf hp)
    intro n
    unfold happens
    rw [record_deregister hf, hp]
    exact ite_self _
  | collect hb =>
    have hn := lt_of_box_ne (hb.trans_ne Box.noConfusion)
    have hfits := h.fits _ hn
    rw [hb] at hfits
    refine hone rfl hn (record_poll _) (h.put_collected hn (hb.trans_ne Box.noConfusion) ?_)
    rw [poll_of_holding hb]
    exact hfits.collect
  | abandon hb =>
    have hn := lt_of_box_ne (hb.trans_ne Box.noConfusion)
    have hfits := h.fits _ hn
    rw [hb] at hfits
    refine hone rfl hn (record_poll _) (h.put_collected hn (hb.trans_ne Box.noConfusion) ?_)
    rw [poll_of_forsaken hb]
    exact hfits.abandon
  | @again n hb =>
    by_cases hn : n < t.boxes.length
    · have hfits := h.fits _ hn
      rw [hb] at hfits
      have hput := h.put_collected hn (hb.trans_ne Box.noConfusion) hfits.again
      rw [putBox_self hn hb] at hput
      refine hone rfl hn (record_poll n) ?_
      rw [poll_of_collected hb]
      exact hput
    · refine hnone (fun m => if_neg ?_) h
      rintro ⟨hc, hm⟩
      rw [← Option.some.inj hc] at hm
      exact hn hm

theorem sound_afterAll (as : List Act) : Sound (Table.empty.afterAll as) (record as) := by
  induction as using List.reverseRecOn with
  | nil => exact sound_empty
  | append_singleton as a ih =>
    rw [afterAll_append, funext (record_append_singleton as a)]
    exact ih.effect (effect _ a)

/-! ### What a holder finds -/

/-- What a holder has collected, and what it would collect next. -/
def observed (t : Table) (n : Nat) (a : Record) : List Settlement :=
  a.delivered ++ (t.poll n).1.toList

/-- How it can go with a ticket. -/
inductive Outlook : Record → List Settlement → Prop where
  | waiting : Outlook .none []
  | settled {a : Record} {s : Settlement} (hs : s ≠ .abandoned) (m : Nat) (ha : a.settled = [s])
    (hf : a.forsaken = 0) : Outlook a (s :: .replicate m .abandoned)
  | forsaken {a : Record} (m : Nat) (ha : a.settled = []) (hf : a.forsaken = 1) :
    Outlook a (.replicate (m + 1) .abandoned)

/-- **What a box holds tells how it has gone with its ticket.** -/
theorem Record.Fits.outlook {a : Record} {n : Nat} (h : a.Fits (t.box n)) :
    Outlook a (t.observed n a) := by
  unfold observed
  obtain ⟨b, hb⟩ : ∃ b, t.box n = b := ⟨_, rfl⟩
  rw [hb] at h
  cases h with
  | waiting =>
    rw [poll_of_waiting hb]
    exact .waiting
  | holding hs =>
    rw [poll_of_holding hb]
    exact .settled hs 0 rfl rfl
  | forsaken =>
    rw [poll_of_forsaken hb]
    exact .forsaken 0 rfl rfl
  | @delivered s hs m =>
    rw [poll_of_collected hb]
    change Outlook _ (s :: (.replicate m .abandoned ++ [.abandoned]))
    rw [← List.replicate_succ']
    exact .settled hs (m + 1) rfl rfl
  | abandoned m =>
    rw [poll_of_collected hb]
    change Outlook _ (.replicate (m + 1) .abandoned ++ [.abandoned])
    rw [← List.replicate_succ']
    exact .forsaken (m + 1) rfl rfl

namespace Outlook

variable {a : Record} {os : List Settlement}

theorem settled_length_le (h : Outlook a os) : a.settled.length ≤ 1 := by
  cases h with
  | waiting => exact Nat.zero_le _
  | settled _ _ ha _ => rw [ha]; exact Nat.le_refl _
  | forsaken _ ha _ => rw [ha]; exact Nat.zero_le _

/-- A holder finds a settlement exactly if the entry has been settled so. -/
theorem mem_iff (h : Outlook a os) {s : Settlement} (hs : s ≠ .abandoned) :
    s ∈ os ↔ a.settled = [s] := by
  cases h with
  | waiting => simp [Record.none]
  | settled _ m ha _ =>
    rw [ha, List.mem_cons, List.cons.injEq]
    constructor
    · rintro (rfl | hm)
      · exact ⟨rfl, rfl⟩
      · exact absurd (List.eq_of_mem_replicate hm) hs
    · rintro ⟨rfl, -⟩
      exact Or.inl rfl
  | forsaken m ha _ =>
    rw [ha]
    constructor
    · intro hm
      exact absurd (List.eq_of_mem_replicate hm) hs
    · intro hc
      cases hc

/-- A settlement is delivered once, before anything else. -/
theorem count_eq_one (h : Outlook a os) {s : Settlement} (ha : a.settled = [s]) :
    os.head? = some s ∧ os.count s = 1 := by
  cases h with
  | waiting => cases ha
  | settled hs m ha' _ =>
    rw [ha'] at ha
    cases ha
    refine ⟨rfl, ?_⟩
    rw [List.count_cons_self, List.count_eq_zero_of_not_mem]
    intro hm
    exact hs (List.eq_of_mem_replicate hm)
  | forsaken _ ha' _ =>
    rw [ha'] at ha
    cases ha

/-- A holder finds nothing but its entry abandoned exactly if it was removed while it was
pending. -/
theorem head?_abandoned_iff (h : Outlook a os) :
    os.head? = some .abandoned ↔ a.forsaken = 1 ∧ a.settled = [] := by
  cases h with
  | waiting => simp [Record.none]
  | settled hs _ ha _ => simp [hs, ha]
  | forsaken m ha hf =>
    rw [List.replicate_succ]
    exact ⟨fun _ => ⟨hf, ha⟩, fun _ => rfl⟩

end Outlook

/-! ### Sweeps and other tickets -/

/-- An expiry makes no entry. -/
theorem find?_of_after_expire {j : Uuid} (h : (t.after (.expire id)).find? j = some e) :
    t.find? j = some e := by
  by_cases hj : j = id
  · subst hj
    cases hf : t.find? j with
    | none =>
      change (t.expire j).2.find? j = _ at h
      rw [expire_of_absent hf, hf] at h
      cases h
    | some e' =>
      change (t.expire j).2.find? j = _ at h
      cases hp : e'.isPending with
      | false => rwa [expire_of_settled hf hp, hf] at h
      | true =>
        rw [expire_of_pending hf hp, find?_remove, if_pos rfl] at h
        cases h
  · rwa [(t.effect (.expire id)).find?_eq fun hc => hj (Option.some.inj hc).symm] at h

/-- A sweep leaves the box of a ticket alone whose entry is not overdue. -/
theorem box_afterAll_expire {n : Nat} (hn : n < t.boxes.length) (ids : List Uuid)
    (h : ∀ id ∈ ids, ∀ e, t.find? id = some e → e.ticket ≠ n) :
    (t.afterAll (ids.map .expire)).box n = t.box n := by
  induction ids generalizing t with
  | nil => rfl
  | cons id ids ih =>
    have hfirst : (t.after (.expire id)).box n = t.box n := by
      refine (t.effect _).box_eq hn ?_
      intro hc
      obtain ⟨e, he, hen⟩ := Option.map_eq_some_iff.1 hc
      exact h id List.mem_cons_self e he hen
    rw [← hfirst]
    refine ih (Nat.lt_of_lt_of_le hn (t.effect _).length_boxes_le) ?_
    intro j hj e he
    exact h j (List.mem_cons_of_mem _ hj) e (find?_of_after_expire he)

theorem Sound.box_sweep (h : Sound t hist) {n : Nat} (hn : n < t.boxes.length) (now : Instant)
    (hnot : ∀ x ∈ t.entries, x.2.ticket = n → isOverdue now x.2 = false) :
    (t.sweep now).2.box n = t.box n := by
  rw [sweep_eq]
  refine box_afterAll_expire hn _ ?_
  intro id hid e he hen
  obtain ⟨x, hx, rfl⟩ := List.mem_map.1 hid
  obtain ⟨hxt, hover⟩ := List.mem_filter.1 hx
  have hxe := h.eq_of_id he hxt rfl
  rw [hnot x hxt (hxe ▸ hen)] at hover
  cases hover

/-! ### Single settlement -/

/-- **Every registration is settled at most once, and its holder finds out how, once.** -/
structure SettlesOnce (t : Table) (hist : Nat → Record) : Prop where
  /-- An id has one entry. -/
  nodup_ids : (t.entries.map (·.1)).Nodup
  /-- An id without an entry can be registered, under a ticket to which nothing has happened. -/
  registered : ∀ id deadline, t.find? id = none →
    (t.register id deadline).1 = some t.boxes.length ∧ hist t.boxes.length = .none
  /-- An id that has an entry cannot. -/
  refused : ∀ id e deadline, t.find? id = some e → t.register id deadline = (none, t)
  /-- An entry is settled at most once. -/
  settled_le : ∀ n < t.boxes.length, (hist n).settled.length ≤ 1
  /-- As long as nothing has happened to a ticket, its entry is pending. -/
  unsettled : ∀ n < t.boxes.length, hist n = .none →
    ∃ x ∈ t.entries, x.2.ticket = n ∧ x.2.isPending = true
  /-- A holder finds an answer exactly if it has settled the entry. -/
  completed_iff : ∀ n < t.boxes.length, ∀ r,
    .completed r ∈ t.observed n (hist n) ↔ (hist n).settled = [.completed r]
  /-- A holder finds its entry expired exactly if an expiry, alone or in a sweep, has settled it. -/
  expired_iff : ∀ n < t.boxes.length,
    .expired ∈ t.observed n (hist n) ↔ (hist n).settled = [.expired]
  /-- A holder finds its entry abandoned first exactly if it was removed while it was pending, and
  then nothing has settled it. -/
  abandoned_iff : ∀ n < t.boxes.length,
    (t.observed n (hist n)).head? = some .abandoned ↔
      (hist n).forsaken = 1 ∧ (hist n).settled = []
  /-- A settlement is delivered before anything else, and once. -/
  delivered_once : ∀ n < t.boxes.length, ∀ s, (hist n).settled = [s] →
    (t.observed n (hist n)).head? = some s ∧ (t.observed n (hist n)).count s = 1
  /-- An entry to whose ticket nothing has happened is settled by the first answer or expiry. -/
  settles : ∀ id e, t.find? id = some e → hist e.ticket = .none →
    (∀ r, (t.resolve id r).1 = .settled) ∧ (t.expire id).1 = true
  /-- An entry that has been settled cannot be settled again. -/
  settled_before : ∀ id e, t.find? id = some e → (hist e.ticket).settled ≠ [] →
    (∀ r, t.resolve id r = (.alreadySettled, t)) ∧ t.expire id = (false, t)
  /-- An entry that is gone cannot be settled. -/
  gone : ∀ id, t.find? id = none →
    (∀ r, t.resolve id r = (.unknown, t)) ∧ t.expire id = (false, t)
  /-- What is done to one id leaves the entries of others alone. -/
  other_entries : ∀ a j, a.id? ≠ some j → (t.after a).find? j = t.find? j
  /-- What is done to one id, or to a later registration of it, leaves the boxes of other tickets
  alone, and nothing happens to these tickets. -/
  other_boxes : ∀ n < t.boxes.length, ∀ a, a.ticket? t ≠ some n →
    (t.after a).box n = t.box n ∧ t.happens n a = .none
  /-- A sweep leaves the boxes of entries alone that are not overdue. -/
  swept_boxes : ∀ n < t.boxes.length, ∀ now,
    (∀ x ∈ t.entries, x.2.ticket = n → isOverdue now x.2 = false) →
      (t.sweep now).2.box n = t.box n
  /-- A sweep counts the entries that it settles. -/
  swept : ∀ now, (t.sweep now).1 =
    (t.trace (t.sweepActs now)).countP fun x => (x.2.settlement? x.1).isSome

theorem Sound.settlesOnce (h : Sound t hist) : t.SettlesOnce hist where
  nodup_ids := h.nodup_ids
  registered id deadline hf := by
    rw [register_of_absent hf]
    exact ⟨rfl, h.unborn _ (Nat.le_refl _)⟩
  refused id e deadline hf := register_of_find? hf deadline
  settled_le n hn := (h.fits n hn).outlook.settled_length_le
  unsettled n hn hnone := by
    have hfits := h.fits n hn
    rw [hnone] at hfits
    exact h.live n hn hfits.eq_waiting
  completed_iff n hn r := (h.fits n hn).outlook.mem_iff Settlement.noConfusion
  expired_iff n hn := (h.fits n hn).outlook.mem_iff Settlement.noConfusion
  abandoned_iff n hn := (h.fits n hn).outlook.head?_abandoned_iff
  delivered_once n hn s hs := (h.fits n hn).outlook.count_eq_one hs
  settles id e hf hnone := by
    have hp : e.isPending = true := by
      cases hp : e.isPending with
      | true => rfl
      | false => exact absurd (congrArg Record.settled hnone) (h.settled _ (mem_of_find? hf) hp)
    exact ⟨fun r => by rw [resolve_of_pending hf hp], by rw [expire_of_pending hf hp]⟩
  settled_before id e hf hs := by
    have hp : e.isPending = false := by
      cases hp : e.isPending with
      | false => rfl
      | true =>
        rw [h.hist_of_pending hf hp] at hs
        exact absurd rfl hs
    exact ⟨resolve_of_settled hf hp, expire_of_settled hf hp⟩
  gone id hf := ⟨resolve_of_absent hf, expire_of_absent hf⟩
  other_entries a j ha := (t.effect a).find?_eq ha
  other_boxes n hn a ha := ⟨(t.effect a).box_eq hn ha, if_neg fun hc => ha hc.1⟩
  swept_boxes n hn now hnot := h.box_sweep hn now hnot
  swept now := by rw [sweep_eq]

end Table

/-! ### Runs -/

/-- A table and its clock. -/
structure Desk where
  /-- The table. -/
  table : Table
  /-- The time. -/
  now : Instant

namespace Desk

open Table (Act)

/-- What may happen to a table and its clock. -/
inductive Op where
  /-- An operation on one entry or one box. -/
  | act (a : Act)
  /-- A sweep. -/
  | sweep
  /-- Time passes. -/
  | advance (nanos : Nat)
  deriving DecidableEq, Repr

/-- What happens then. -/
def step (d : Desk) : Op → Desk
  | .act a => { d with table := d.table.after a }
  | .sweep => { d with table := (d.table.sweep d.now).2 }
  | .advance nanos => { d with now := d.now + nanos }

/-- An empty table. -/
def start (now : Instant) : Desk := ⟨.empty, now⟩

/-- The table and the clock after a run. -/
def run (d : Desk) (os : List Op) : Desk := os.foldl step d

/-- The acts that something consists of. -/
def acts (d : Desk) : Op → List Act
  | .act a => [a]
  | .sweep => d.table.sweepActs d.now
  | .advance _ => []

/-- The acts of a run. -/
def allActs (d : Desk) : List Op → List Act
  | [] => []
  | o :: os => d.acts o ++ allActs (d.step o) os

/-- What has happened to a ticket in a run from an empty table on. -/
def history (now : Instant) (os : List Op) : Nat → Table.Record :=
  Table.record ((start now).allActs os)

theorem table_step (d : Desk) (o : Op) : (d.step o).table = d.table.afterAll (d.acts o) := by
  cases o with
  | act a => rfl
  | sweep => exact congrArg Prod.snd (d.table.sweep_eq d.now)
  | advance nanos => rfl

theorem table_run (d : Desk) (os : List Op) :
    (d.run os).table = d.table.afterAll (d.allActs os) := by
  induction os generalizing d with
  | nil => rfl
  | cons o os ih =>
    rw [allActs, Table.afterAll_append, ← table_step]
    exact ih (d.step o)

theorem sound_run (now : Instant) (os : List Op) :
    ((start now).run os).table.Sound (history now os) := by
  rw [table_run]
  exact Table.sound_afterAll _

/-- **Every registration is settled at most once, and its holder finds out how, once**, whatever
happens to the table, with sweeps and in the course of time. -/
theorem settles_once (now : Instant) (os : List Op) :
    ((start now).run os).table.SettlesOnce (history now os) := (sound_run now os).settlesOnce

end Desk

end Sluice
