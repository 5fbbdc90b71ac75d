import Sluice.Proofs.Quota.Atomic
import Sluice.Proofs.Text.Order
import Mathlib.Data.List.Perm.Basic

/-!
# Buckets are independent

A call concerns the bucket that it names and no other one. What is answered about a bucket, and what
becomes of it, is the same if only the calls that name it are made; and every bucket that has been
made is listed.

* `Backing.answers` : the calls of a run and what they answer;
* `Backing.look_filter`, `Backing.answers_filter` : the calls that name one bucket, alone;
* `Backing.Lists` : the buckets of a state in the order of their ids, which is what a store lists;
  `Backing.Lists.list_congr` : it depends on what can be seen of each bucket;
* `Backing.isSome_look_iff` : the buckets that there are, by the answers of a run;
* `Backing.Independent` and `Backing.Listed` : both main results for one run;
  `Store.buckets_independent` : they hold of buckets in memory and as rows.
-/

namespace Sluice

open Store (Op Use Answer)

/-- A call names the bucket of an id. -/
def Store.Use.names (id : String) (u : Use) : Bool := u.op.id? = some id

namespace Backing

variable {σ : Type} {k : Backing σ} {us us' : List Use} {id : String} {st st' : σ}

/-! ### The calls that name one bucket -/

variable (k) in
/-- The calls of a run and what they answer. -/
def answers (us : List Use) : List (Use × Answer) :=
  (k.trace us).map fun x => (x.2, (k.reply x.2.limits x.2.now x.1 x.2.op).1)

theorem answers_snoc (us : List Use) (u : Use) : k.answers (us ++ [u]) =
    k.answers us ++ [(u, (k.reply u.limits u.now (k.run us) u.op).1)] := by
  simp [answers, trace_snoc]

theorem reply_congr (hk : k.Lawful) {u : Use} (hid : u.op.id? = some id)
    (hlook : k.look id st = k.look id st') :
    (k.reply u.limits u.now st u.op).1 = (k.reply u.limits u.now st' u.op).1 := by
  obtain ⟨limits, now, op⟩ := u
  have hfound : k.found limits now id st = k.found limits now id st' := by
    rw [found, found, hlook]
  cases op with
  | get _ =>
    cases hid
    refine congrArg Answer.bucket ?_
    rw [(hk.get_acts limits now id).answer, (hk.get_acts limits now id).answer, hfound]
  | take _ cost =>
    cases hid
    refine congrArg Answer.outcome ?_
    rw [(hk.take_acts limits now id cost).answer, (hk.take_acts limits now id cost).answer, hfound]
  | correct _ s =>
    cases hid
    refine congrArg Answer.corrected ?_
    rw [(hk.correct_acts limits now id s).answer, (hk.correct_acts limits now id s).answer, hfound]
  | list => cases hid

/-- **A bucket becomes what the calls that name it make of it.** -/
theorem look_filter (hk : k.Lawful) (us : List Use) (id : String) :
    k.look id (k.run (us.filter (·.names id))) = k.look id (k.run us) := by
  induction us using List.reverseRecOn with
  | nil => rfl
  | append_singleton us u ih =>
    rw [List.filter_append, run_snoc, look_after hk]
    by_cases hid : u.op.id? = some id
    · have hnames : [u].filter (·.names id) = [u] := by simp [Use.names, hid]
      rw [hnames, run_snoc, look_after hk, if_pos hid, if_pos hid, found, found, ih]
    · have hnames : [u].filter (·.names id) = [] := by simp [Use.names, hid]
      rw [hnames, List.append_nil, if_neg hid, ih]

/-- **What is answered about a bucket is what the calls that name it answer** when they are the only
ones. -/
theorem answers_filter (hk : k.Lawful) (us : List Use) (id : String) :
    (k.answers us).filter (·.1.names id) = k.answers (us.filter (·.names id)) := by
  induction us using List.reverseRecOn with
  | nil => rfl
  | append_singleton us u ih =>
    rw [answers_snoc, List.filter_append, List.filter_append, ih]
    by_cases hid : u.op.id? = some id
    · have hnames : [u].filter (·.names id) = [u] := by simp [Use.names, hid]
      rw [hnames, answers_snoc, reply_congr hk hid (look_filter hk us id)]
      simp [Use.names, hid]
    · have hnames : [u].filter (·.names id) = [] := by simp [Use.names, hid]
      rw [hnames, List.append_nil]
      simp [Use.names, hid]

/-! ### Lists of buckets -/

variable (k) in
/-- The buckets of a state by their ids, in order, which is what a store lists. -/
structure Lists (st : σ) (es : List (String × Except Failure Bucket)) : Prop where
  sorted : es.Pairwise fun a b => a.1 < b.1
  mem_iff : ∀ id r, (id, r) ∈ es ↔ k.look id st = some r
  list_eq : ∀ limits, (k.store limits).list st = es.mapM (·.2)

variable {es es' : List (String × Except Failure Bucket)}

theorem Lists.unique (h : k.Lists st es) (h' : k.Lists st' es')
    (hlook : ∀ id, k.look id st = k.look id st') : es = es' := by
  have hnodup {xs : List (String × Except Failure Bucket)}
      (hxs : xs.Pairwise fun a b => a.1 < b.1) : xs.Nodup := by
    refine hxs.imp ?_
    rintro a b hab rfl
    exact String.lt_irrefl _ hab
  have hperm : es.Perm es' := by
    rw [List.perm_ext_iff_of_nodup (hnodup h.sorted) (hnodup h'.sorted)]
    rintro ⟨id, r⟩
    rw [h.mem_iff, h'.mem_iff, hlook]
  refine hperm.eq_of_pairwise ?_ h.sorted h'.sorted
  intro a b _ _ hab hba
  exact absurd (String.lt_trans hab hba) (String.lt_irrefl _)

/-- **A list depends on what can be seen of each bucket** and on nothing else. -/
theorem Lists.list_congr (h : k.Lists st es) (h' : k.Lists st' es')
    (hlook : ∀ id, k.look id st = k.look id st') (limits : Limits) :
    (k.store limits).list st = (k.store limits).list st' := by
  rw [h.list_eq, h'.list_eq, h.unique h' hlook]

/-! ### The buckets that there are -/

theorem id_act (op : Op) (now : Timestamp) (b : Bucket) : (op.act now b).id = b.id := by
  cases op with
  | get id => rfl
  | take id cost => exact b.take_id cost now
  | correct id s => rfl
  | list => rfl

theorem id_keep {b c : Bucket} (h : k.keep b = .ok c) : c.id = b.id := by
  unfold keep at h
  cases hr : k.stamp b.resetAt with
  | error e => rw [hr] at h; cases h
  | ok r =>
    cases hu : k.stamp b.updatedAt with
    | error e => rw [hr, hu] at h; cases h
    | ok u =>
      rw [hr, hu] at h
      cases h
      rfl

theorem id_of_look (hk : k.Lawful) {b : Bucket} (h : k.look id (k.run us) = some (.ok b)) :
    b.id = id := by
  induction us using List.reverseRecOn generalizing b with
  | nil => rw [run_nil, hk.look_empty] at h; cases h
  | append_singleton us u ih =>
    rw [run_snoc, look_after hk] at h
    split_ifs at h with hid
    · have h := Option.some.inj h
      cases hfound : k.found u.limits u.now id (k.run us) with
      | error e => rw [hfound] at h; cases h
      | ok a =>
        rw [hfound] at h
        rw [id_keep h, id_act]
        rcases found_eq_ok hfound with hlook | ⟨-, rfl⟩
        · exact ih hlook
        · rfl
    · exact ih h

/-- **A bucket is there exactly if a call that names it has succeeded.** The first one does. -/
theorem isSome_look_iff (hk : k.Lawful) (us : List Use) (id : String) :
    (k.look id (k.run us)).isSome ↔
      ∃ x ∈ k.answers us, x.1.op.id? = some id ∧ x.2.failure? = none := by
  induction us using List.reverseRecOn with
  | nil => simp [run_nil, hk.look_empty, answers, trace, traceFrom]
  | append_singleton us u ih =>
    simp only [answers_snoc, List.mem_append, List.mem_singleton, or_and_right, exists_or,
      exists_eq_left, ← ih]
    rw [run_snoc, look_after hk]
    by_cases hid : u.op.id? = some id
    · simp only [if_pos hid, Option.isSome_some, true_iff]
      cases hlook : k.look id (k.run us) with
      | some r => exact Or.inl rfl
      | none =>
        refine Or.inr ⟨hid, ?_⟩
        rw [(failed_reply hk hid (k.run us)).1, found_of_absent hlook]
        rfl
    · simp [hid]

/-! ### The main results for one run -/

variable (k) in
/-- The buckets of a run are independent. -/
structure Independent (us : List Use) : Prop where
  /-- What is answered about a bucket is the same if all other calls are left out, … -/
  answers : ∀ id, (k.answers us).filter (·.1.names id) = k.answers (us.filter (·.names id))
  /-- … and so is what becomes of it. -/
  look : ∀ id, k.look id (k.run us) = k.look id (k.run (us.filter (·.names id)))
  /-- How calls that name different buckets are interleaved makes no difference to the list. -/
  list : ∀ us', (∀ id, us'.filter (·.names id) = us.filter (·.names id)) →
    ∀ limits, (k.store limits).list (k.run us') = (k.store limits).list (k.run us)

variable (k) in
/-- What a run has made are these buckets. -/
structure Listed (us : List Use) (bs : List Bucket) : Prop where
  list_eq : ∀ limits, (k.store limits).list (k.run us) = .ok bs
  /-- Every id stands there once, in the order of the bytes. -/
  sorted : bs.Pairwise fun a b => Utf8.ofString a.id < Utf8.ofString b.id
  /-- Those ids stand there that a call has named and succeeded. -/
  named : ∀ id, (∃ b ∈ bs, b.id = id) ↔
    ∃ x ∈ k.answers us, x.1.op.id? = some id ∧ x.2.failure? = none
  /-- They are what can be seen of the buckets, … -/
  look : ∀ b ∈ bs, k.look b.id (k.run us) = some (.ok b)
  /-- … and what is answered to those who ask for them. -/
  get : ∀ b ∈ bs, ∀ limits now, ((k.store limits).get now b.id (k.run us)).1 = .ok b

theorem independent (hk : k.Lawful) (hlists : ∀ st, ∃ es, k.Lists st es) (us : List Use) :
    k.Independent us where
  answers id := answers_filter hk us id
  look id := (look_filter hk us id).symm
  list us' hus limits := by
    obtain ⟨es, hes⟩ := hlists (k.run us)
    obtain ⟨es', hes'⟩ := hlists (k.run us')
    refine hes'.list_congr hes ?_ limits
    intro id
    rw [← look_filter hk us', hus id, look_filter hk]

theorem exists_mapM_eq (h : ∀ e ∈ es, ∃ b, e.2 = .ok b ∧ b.id = e.1) :
    ∃ bs, es.mapM (·.2) = .ok bs ∧ es = bs.map fun b => (b.id, .ok b) := by
  induction es with
  | nil => exact ⟨[], rfl, rfl⟩
  | cons e es ih =>
    obtain ⟨⟨b, hb, hid⟩, hes⟩ := List.forall_mem_cons.1 h
    obtain ⟨bs, hread, hbs⟩ := ih hes
    refine ⟨b :: bs, ?_, ?_⟩
    · rw [List.mapM_cons, hb, hread]
      rfl
    · rw [List.map_cons, ← hbs, hid, ← hb]

/-- **Every bucket that a run has made is listed**, if all of them can be read. -/
theorem listed (hk : k.Lawful) (hlists : ∀ st, ∃ es, k.Lists st es)
    (hread : ∀ id r, k.look id (k.run us) = some r → ∃ b, r = .ok b) :
    ∃ bs, k.Listed us bs := by
  obtain ⟨es, hes⟩ := hlists (k.run us)
  have hok : ∀ e ∈ es, ∃ b, e.2 = .ok b ∧ b.id = e.1 := by
    rintro ⟨id, r⟩ he
    have hlook := (hes.mem_iff id r).1 he
    obtain ⟨b, rfl⟩ := hread id r hlook
    exact ⟨b, rfl, id_of_look hk hlook⟩
  obtain ⟨bs, hlist, rfl⟩ := exists_mapM_eq hok
  have hlook : ∀ b ∈ bs, k.look b.id (k.run us) = some (.ok b) := fun b hb =>
    (hes.mem_iff b.id (.ok b)).1 (List.mem_map_of_mem hb)
  refine ⟨bs, fun limits => (hes.list_eq limits).trans hlist, ?_, ?_, hlook, ?_⟩
  · have hsorted := List.pairwise_map.1 hes.sorted
    exact hsorted.imp Utf8.ofString_lt_iff.2
  · intro id
    rw [← isSome_look_iff hk, Option.isSome_iff_exists]
    simp only [← hes.mem_iff, List.mem_map, Prod.mk.injEq]
    constructor
    · rintro ⟨b, hb, hid⟩
      exact ⟨.ok b, b, hb, hid, rfl⟩
    · rintro ⟨_, b, hb, hid, -⟩
      exact ⟨b, hb, hid⟩
  · intro b hb limits now
    rw [(hk.get_acts limits now b.id).answer, found_of_look (hlook b hb)]
    rfl

end Backing

/-! ### Both ways to keep buckets -/

theorem Catalog.mem_toList_iff {α : Type} {c : Catalog α} {name : String} {a : α} :
    (name, a) ∈ c.toList ↔ c.find? name = some a :=
  ⟨find?_of_mem, mem_of_find?⟩

theorem Memory.lists (c : Catalog Bucket) :
    backing.Lists c (c.toList.map fun e => (e.1, .ok e.2)) where
  sorted := c.sorted.map _ fun _ _ h => h
  mem_iff id r := by
    simp only [List.mem_map, Prod.exists, Prod.mk.injEq, Catalog.mem_toList_iff, backing,
      Option.map_eq_some_iff]
    constructor
    · rintro ⟨_, b, hb, rfl, rfl⟩
      exact ⟨b, hb, rfl⟩
    · rintro ⟨b, hb, rfl⟩
      exact ⟨id, b, hb, rfl, rfl⟩
  list_eq limits := by
    change Except.ok (c.toList.map (·.2)) = _
    rw [List.mapM_map]
    induction c.toList with
    | nil => rfl
    | cons e es ih =>
      rw [List.mapM_cons, ← ih]
      rfl

theorem Ledger.lists (rows : Catalog Row) :
    backing.Lists rows (rows.toList.map fun e => (e.1, e.2.toBucket e.1)) where
  sorted := rows.sorted.map _ fun _ _ h => h
  mem_iff id r := by
    simp only [List.mem_map, Prod.exists, Prod.mk.injEq, Catalog.mem_toList_iff, backing,
      Option.map_eq_some_iff]
    constructor
    · rintro ⟨_, row, hrow, rfl, rfl⟩
      exact ⟨row, hrow, rfl⟩
    · rintro ⟨row, hrow, rfl⟩
      exact ⟨id, row, hrow, rfl, rfl⟩
  list_eq limits := by
    rw [List.mapM_map]
    rfl

/-- **Buckets are independent and never lost**, however the calls that name them are interleaved.
Buckets in memory are always listed, and so are rows unless they were told a time that lies beyond
the calendar. -/
theorem Store.buckets_independent (us : List Use) :
    (Memory.backing.Independent us ∧ ∃ bs, Memory.backing.Listed us bs) ∧
      Ledger.backing.Independent us ∧
        ((∀ u ∈ us, ∀ id, u.op.id? = some id → u.OnCalendar) →
          ∃ bs, Ledger.backing.Listed us bs) := by
  have hmemory (c : Catalog Bucket) : ∃ es, Memory.backing.Lists c es := ⟨_, Memory.lists c⟩
  have hledger (rows : Catalog Row) : ∃ es, Ledger.backing.Lists rows es := ⟨_, Ledger.lists rows⟩
  refine ⟨⟨Backing.independent Memory.lawful hmemory us, Backing.listed Memory.lawful hmemory ?_⟩,
    Backing.independent Ledger.lawful hledger us,
    fun hus => Backing.listed Ledger.lawful hledger ?_⟩
  · intro id r hr
    obtain ⟨b, -, rfl⟩ := Option.map_eq_some_iff.1 hr
    exact ⟨b, rfl⟩
  · intro id r hr
    obtain ⟨b, rfl, -⟩ := Backing.readable_run Ledger.lawful (fun u hu => hus u hu id) hr
    exact ⟨b, rfl⟩

/-- Calls about two buckets, one after the other and back again. -/
def Store.interleaved : List Use :=
  [⟨.standard, .epoch, .take "é" 1⟩, ⟨.standard, Ledger.atMillis 5, .correct "z" ⟨2, 1, .latest⟩⟩,
    ⟨.standard, .latest, .list⟩, ⟨.standard, Ledger.atMillis 7, .take "é" 2⟩]

/-- The bytes of a letter with an accent come after those of all letters without one. -/
theorem Store.buckets_independent_interleaved :
    (∀ u ∈ Store.interleaved, ∀ id, u.op.id? = some id → u.OnCalendar) ∧
      ∃ bs, Ledger.backing.Listed Store.interleaved bs ∧ bs.map (·.id) = ["z", "é"] := by
  have hus : ∀ u ∈ Store.interleaved, ∀ id, u.op.id? = some id → u.OnCalendar := by
    simp only [Store.interleaved, List.forall_mem_cons, List.not_mem_nil, false_implies,
      implies_true, and_true]
    refine ⟨fun _ _ => ⟨by decide, ?_⟩, fun _ _ => ⟨by decide, ?_⟩, nofun,
      fun _ _ => ⟨by decide, ?_⟩⟩
    · rintro _ _ ⟨⟩
    · rintro _ _ ⟨⟩
      decide
    · rintro _ _ ⟨⟩
  obtain ⟨bs, hbs⟩ := (Store.buckets_independent Store.interleaved).2.2 hus
  refine ⟨hus, bs, hbs, ?_⟩
  have hlist : ((Ledger.backing.store .standard).list
      (Ledger.backing.run Store.interleaved)).toOption.map (·.map (·.id)) = some ["z", "é"] := by
    decide +kernel
  rw [hbs.list_eq] at hlist
  exact Option.some.inj hlist

/-- A row that was told a time beyond the calendar is written, and from then on nothing is listed,
no row of another id either. -/
theorem Ledger.unlisted :
    let us : List Use := [⟨.standard, .epoch, .get "a"⟩,
      ⟨.standard, .epoch, .correct "b" ⟨2, 1, afterLatest⟩⟩]
    (∀ x ∈ backing.answers us, x.2.failure? = none) ∧
      (backing.store .standard).list (backing.run us) =
        .error (.store "timestamp out of range: 8210266876800500") := by
  refine ⟨?_, rfl⟩
  rintro x (_ | ⟨_, _ | ⟨_, ⟨⟩⟩⟩) <;> rfl

end Sluice
