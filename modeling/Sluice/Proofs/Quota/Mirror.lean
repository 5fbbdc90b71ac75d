import Sluice.Proofs.Quota.Rows

/-!
# Rows mirror memory

As long as all times are whole milliseconds nothing is lost in a row, and a table of rows answers
every call exactly as buckets in memory do.

* `Catalog.map` : a catalog with other values, with what insertions do to it;
* `Bucket.IsWhole` : a bucket of which its row loses nothing; `Bucket.IsWhole.act` carries it
  through a call;
* `Ledger.mirror` : the rows of the buckets in memory; `Ledger.reply_mirror` : one call to both
  gives one answer, and leaves the rows those of the buckets;
* `Ledger.replies_eq` : so does a run, in which the table may be opened again at any time.

The rows are a function of the buckets, so the simulation is an equation between states.
-/

namespace Sluice

/-! ### Catalogs with other values -/

namespace Catalog

variable {α β : Type}

@[ext] theorem ext {c d : Catalog α} (h : c.entries = d.entries) : c = d := by
  cases c
  cases d
  cases h
  rfl

/-- Every value changed by `f`. -/
def map (f : α → β) (c : Catalog α) : Catalog β :=
  ⟨c.entries.map fun e => (e.1, f e.2), c.sorted.map _ fun _ _ h => h⟩

theorem toList_map (f : α → β) (c : Catalog α) :
    (c.map f).toList = c.toList.map fun e => (e.1, f e.2) := rfl

theorem lookup_map (f : α → β) (name : String) (es : List (String × α)) :
    (es.map fun e => (e.1, f e.2)).lookup name = (es.lookup name).map f := by
  induction es with
  | nil => rfl
  | cons e es ih =>
    obtain ⟨n, b⟩ := e
    simp only [List.map_cons, List.lookup_cons, ih]
    split <;> rfl

theorem find?_map (f : α → β) (c : Catalog α) (name : String) :
    (c.map f).find? name = (c.find? name).map f := lookup_map f name c.entries

theorem put_map (f : α → β) (name : String) (a : α) (es : List (String × α)) :
    put name (f a) (es.map fun e => (e.1, f e.2)) = (put name a es).map fun e => (e.1, f e.2) := by
  induction es with
  | nil => rfl
  | cons e es ih =>
    simp only [List.map_cons, put, ih]
    split_ifs <;> rfl

theorem map_insert (f : α → β) (c : Catalog α) (name : String) (a : α) :
    (c.map f).insert name (f a) = (c.insert name a).map f := ext (put_map f name a c.entries)

theorem put_put (name : String) (a b : α) (es : List (String × α)) :
    put name b (put name a es) = put name b es := by
  have hirr : ¬ name < name := String.lt_irrefl name
  induction es with
  | nil => simp only [put, if_neg hirr, if_true]
  | cons e es ih =>
    simp only [put]
    split_ifs with h h'
    · simp only [put, if_neg hirr, if_true]
    · simp only [put, if_neg hirr, if_true]
    · simp only [put, if_neg h, if_neg h', ih]

theorem insert_insert (c : Catalog α) (name : String) (a b : α) :
    (c.insert name a).insert name b = c.insert name b := ext (put_put name a b c.entries)

theorem put_of_lookup {name : String} {a : α} {es : List (String × α)}
    (hs : es.Pairwise fun a b => a.1 < b.1) (h : es.lookup name = some a) :
    put name a es = es := by
  induction es with
  | nil => cases h
  | cons e es ih =>
    obtain ⟨n, b⟩ := e
    rw [List.pairwise_cons] at hs
    rw [List.lookup_cons] at h
    simp only [put]
    split_ifs with hlt heq
    · -- All names come after this one, which therefore has no value.
      have hne : name ≠ n := fun heq => String.lt_irrefl _ (heq ▸ hlt)
      rw [beq_false_of_ne hne] at h
      have hnone := lookup_eq_none fun x hx => String.lt_trans hlt (hs.1 x hx)
      cases hnone.symm.trans h
    · rw [heq, BEq.rfl] at h
      cases h
      rw [heq]
    · rw [beq_false_of_ne heq] at h
      rw [ih hs.2 h]

theorem insert_of_find? {c : Catalog α} {name : String} {a : α} (h : c.find? name = some a) :
    c.insert name a = c := ext (put_of_lookup c.sorted h)

theorem lookup_of_mem {es : List (String × α)} (hs : es.Pairwise fun a b => a.1 < b.1)
    {e : String × α} (he : e ∈ es) : es.lookup e.1 = some e.2 := by
  induction es with
  | nil => cases he
  | cons x es ih =>
    obtain ⟨n, b⟩ := x
    rw [List.pairwise_cons] at hs
    rw [List.lookup_cons]
    rcases List.mem_cons.1 he with rfl | he
    · rw [BEq.rfl]
    · have hne : e.1 ≠ n := fun heq => String.lt_irrefl _ (heq ▸ hs.1 e he)
      rw [beq_false_of_ne hne]
      exact ih hs.2 he

theorem find?_of_mem {c : Catalog α} {e : String × α} (he : e ∈ c.toList) :
    c.find? e.1 = some e.2 := lookup_of_mem c.sorted he

theorem mem_of_find? {c : Catalog α} {name : String} {a : α} (h : c.find? name = some a) :
    (name, a) ∈ c.toList := by
  obtain ⟨before, after, heq, -⟩ := List.lookup_eq_some_iff.1 h
  rw [toList, heq]
  simp

end Catalog

/-! ### Whole milliseconds -/

namespace Timestamp

/-- A whole number of milliseconds, and no leap second. -/
def IsWhole (t : Timestamp) : Prop := t.isLeap = false ∧ t.nanos % 1000000 = 0

instance (t : Timestamp) : Decidable t.IsWhole := inferInstanceAs (Decidable (_ ∧ _))

variable {t : Timestamp}

theorem IsWhole.ofMillis? (h : t.IsWhole) : ofMillis? t.millis = some t := by
  obtain ⟨hleap, hn⟩ := h
  rw [isLeap_eq_false] at hleap
  rw [Timestamp.ofMillis?, ofParts?_eq_some, millis]
  omega

theorem IsWhole.stamp (h : t.IsWhole) : Row.stamp t = .ok t := Row.stamp_eq_ok.2 h.ofMillis?

theorem IsWhole.windowEnd (h : t.IsWhole) {d : Duration} (hd : d.nanos % 1000000 = 0)
    (hrep : (t.add? d).isSome) : (windowEnd t d).IsWhole := by
  obtain ⟨hleap, hn⟩ := h
  obtain ⟨u, hu⟩ := Option.isSome_iff_exists.1 hrep
  obtain ⟨hul, hline⟩ := add?_eq_some hleap hu
  rw [Sluice.windowEnd, hu, Option.getD_some]
  refine ⟨hul, ?_⟩
  rw [line, line] at hline
  omega

/-- A length between two points of the calendar fits into 64 bits of milliseconds. -/
theorem nanos_lt_of_add? (hleap : t.isLeap = false) {d : Duration} (hrep : (t.add? d).isSome) :
    d.nanos < 18446744073709551616 * 1000000 := by
  obtain ⟨u, hu⟩ := Option.isSome_iff_exists.1 hrep
  obtain ⟨hul, hline⟩ := add?_eq_some hleap hu
  rw [isLeap_eq_false] at hul
  have := t.first_le
  have := u.le_last
  rw [line, line] at hline
  omega

end Timestamp

open Store (Op Use)

/-- A bucket of which its row loses nothing. -/
structure Bucket.IsWhole (limits : Limits) (b : Bucket) : Prop where
  resetAt : b.resetAt.IsWhole
  updatedAt : b.updatedAt.IsWhole
  window_eq : b.window = limits.window
  span_eq : Row.span limits.window = limits.window

/-- A time at which a window can begin. -/
structure Store.Timely (limits : Limits) (now : Timestamp) : Prop where
  isWhole : now.IsWhole
  /-- The window that begins now ends on the calendar. -/
  window_isSome : (now.add? limits.window).isSome

namespace Bucket

variable {limits : Limits} {b : Bucket} {now : Timestamp}

theorem IsWhole.toBucket (h : b.IsWhole limits) : (Row.ofBucket b).toBucket b.id = .ok b := by
  rw [Row.toBucket_ofBucket, h.resetAt.stamp, h.updatedAt.stamp, h.window_eq, h.span_eq,
    ← h.window_eq]
  rfl

variable (hw : limits.window.nanos % 1000000 = 0) (hnow : Store.Timely limits now)

include hw hnow

theorem isWhole_fresh (id : String) : (Bucket.fresh id limits now).IsWhole limits where
  resetAt := hnow.isWhole.windowEnd hw hnow.window_isSome
  updatedAt := hnow.isWhole
  window_eq := rfl
  span_eq := Row.span_eq hw (Timestamp.nanos_lt_of_add? hnow.isWhole.1 hnow.window_isSome)

theorem IsWhole.take (h : b.IsWhole limits) (cost : UInt32) :
    (b.take cost now).2.IsWhole limits where
  resetAt := by
    rw [take_resetAt, roll_resetAt, h.window_eq]
    split_ifs
    · exact h.resetAt
    · exact hnow.isWhole.windowEnd hw hnow.window_isSome
  updatedAt := by
    rcases b.take_updatedAt cost now with hu | hu
    · rw [hu]
      exact hnow.isWhole
    · rw [hu]
      exact h.updatedAt
  window_eq := by rw [take_window, h.window_eq]
  span_eq := h.span_eq

/-- **A call keeps a bucket whole** if it gives whole milliseconds only. -/
theorem IsWhole.act (h : b.IsWhole limits) {op : Op}
    (hop : ∀ id s, op = .correct id s → s.resetAt.IsWhole) : (op.act now b).IsWhole limits := by
  cases op with
  | get id => exact h
  | take id cost => exact h.take hw hnow cost
  | correct id s => exact ⟨hop id s rfl, hnow.isWhole, h.window_eq, h.span_eq⟩
  | list => exact h

end Bucket

/-! ### Answers -/

namespace Store

/-- What a call answers. -/
inductive Answer where
  /-- A bucket. -/
  | bucket (r : Except Failure Bucket)
  /-- Whether units were granted. -/
  | outcome (r : Except Failure Outcome)
  /-- That a bucket has been corrected. -/
  | corrected (r : Except Failure Unit)
  /-- All buckets. -/
  | buckets (r : Except Failure (List Bucket))

/-- What may happen to a store. -/
inductive Access where
  /-- A call. -/
  | call (now : Timestamp) (op : Op)
  /-- It is closed and opened again. -/
  | reopen (limits : Limits)
  deriving DecidableEq, Repr

/-- A call comes at a time at which a window can begin, and brings whole milliseconds only; a call
that lists the buckets does not look at the clock. A store is opened with the limits that it had. -/
def Access.IsWhole (limits : Limits) : Access → Prop
  | .call _ .list => True
  | .call now (.correct _ s) => Timely limits now ∧ s.resetAt.IsWhole
  | .call now _ => Timely limits now
  | .reopen limits' => limits' = limits

end Store

open Store (Answer Access)

namespace Backing

variable {σ : Type} (k : Backing σ)

/-- What a call answers, and what it leaves behind. -/
def reply (limits : Limits) (now : Timestamp) (st : σ) : Op → Answer × σ
  | .get id =>
    let (r, st) := (k.store limits).get now id st
    (.bucket r, st)
  | .take id cost =>
    let (r, st) := (k.store limits).take now id cost st
    (.outcome r, st)
  | .correct id s =>
    let (r, st) := (k.store limits).correct now id s st
    (.corrected r, st)
  | .list => (.buckets ((k.store limits).list st), st)

/-- The answers of a run. Opening a database again leaves what it keeps as it is; buckets in memory
have nothing to open. -/
def repliesFrom (limits : Limits) (st : σ) : List Access → List Answer
  | [] => []
  | .call now op :: es =>
    (k.reply limits now st op).1 :: repliesFrom limits (k.reply limits now st op).2 es
  | .reopen limits' :: es => repliesFrom limits' st es

/-- The answers of a run that begins without buckets. -/
def replies (limits : Limits) (es : List Access) : List Answer := k.repliesFrom limits k.empty es

end Backing

/-! ### Mirroring -/

namespace Ledger

/-- The rows of buckets. -/
def mirror (c : Catalog Bucket) : Catalog Row := c.map .ofBucket

/-- All buckets are whole, and stand under their ids. -/
def AllWhole (limits : Limits) (c : Catalog Bucket) : Prop :=
  ∀ id b, c.find? id = some b → b.id = id ∧ b.IsWhole limits

variable {limits : Limits} {now : Timestamp} {c : Catalog Bucket}

theorem mirror_insert (c : Catalog Bucket) (id : String) (b : Bucket) :
    (mirror c).insert id (.ofBucket b) = mirror (c.insert id b) := Catalog.map_insert _ c id b

theorem AllWhole.insert (hc : AllWhole limits c) {id : String} {b : Bucket} (hid : b.id = id)
    (hb : b.IsWhole limits) : AllWhole limits (c.insert id b) := by
  intro j b' hj
  rw [Catalog.find?_insert] at hj
  split_ifs at hj with hji
  · cases hj
    exact ⟨hid.trans hji.symm, hb⟩
  · exact hc j b' hj

/-- The bucket that a call finds in memory is whole. -/
theorem AllWhole.lookup (hc : AllWhole limits c) (hw : limits.window.nanos % 1000000 = 0)
    (hnow : Store.Timely limits now) (id : String) :
    (Memory.lookup limits now id c).id = id ∧
      (Memory.lookup limits now id c).IsWhole limits := by
  unfold Memory.lookup
  cases hf : c.find? id with
  | none => exact ⟨rfl, Bucket.isWhole_fresh hw hnow id⟩
  | some b => exact hc id b hf

/-- What is looked up in the rows is what is looked up in memory, and is there from then on. -/
theorem lookup_mirror (hc : AllWhole limits c) (id : String) :
    Ledger.lookup limits now id (mirror c) = .ok (Memory.lookup limits now id c,
      mirror (c.insert id (Memory.lookup limits now id c))) := by
  unfold Ledger.lookup Memory.lookup mirror
  rw [Catalog.find?_map]
  cases hf : c.find? id with
  | none =>
    rw [← Catalog.map_insert]
    rfl
  | some b =>
    obtain ⟨hid, hb⟩ := hc id b hf
    have hrow := hb.toBucket
    rw [hid] at hrow
    simp only [Option.map_some, Option.getD_some, hrow, Catalog.insert_of_find? hf]
    rfl

theorem get_mirror (hc : AllWhole limits c) (id : String) :
    (Ledger.store limits).get now id (mirror c) = (.ok (Memory.lookup limits now id c),
      mirror (c.insert id (Memory.lookup limits now id c))) := by
  change commit _ (Ledger.lookup limits now id (mirror c)) = _
  rw [lookup_mirror hc]
  rfl

theorem take_mirror (hc : AllWhole limits c) (id : String) (cost : UInt32) :
    (Ledger.store limits).take now id cost (mirror c) =
      (.ok ((Memory.lookup limits now id c).take cost now).1,
        mirror (c.insert id ((Memory.lookup limits now id c).take cost now).2)) := by
  set b := Memory.lookup limits now id c
  have hres : (Ledger.store limits).take now id cost (mirror c) = (.ok (b.take cost now).1,
      if (b.take cost now).2 = b then mirror (c.insert id b)
      else (mirror (c.insert id b)).insert id (.ofBucket (b.take cost now).2)) := by
    change commit _ (Ledger.lookup limits now id (mirror c) >>= _) = _
    rw [lookup_mirror hc]
    rfl
  rw [hres]
  congr 1
  split_ifs with heq
  · -- Nothing has changed, and what is there is what would have been written.
    rw [heq]
  · rw [mirror_insert, Catalog.insert_insert]

theorem correct_mirror (hc : AllWhole limits c) (id : String) (s : Snapshot) :
    (Ledger.store limits).correct now id s (mirror c) =
      (.ok (), mirror (c.insert id ((Memory.lookup limits now id c).correct s now))) := by
  change commit _ (Ledger.lookup limits now id (mirror c) >>= _) = _
  rw [lookup_mirror hc]
  change (_, (mirror (c.insert id _)).insert id (.ofBucket _)) = _
  rw [mirror_insert, Catalog.insert_insert]

/-- Rows that hold buckets one by one hold them all. -/
theorem mapM_toBucket {es : List (String × Bucket)}
    (h : ∀ e ∈ es, (Row.ofBucket e.2).toBucket e.1 = .ok e.2) :
    (es.map fun e => (e.1, Row.ofBucket e.2)).mapM (fun e => e.2.toBucket e.1) =
      .ok (es.map (·.2)) := by
  induction es with
  | nil => rfl
  | cons e es ih =>
    rw [List.map_cons, List.mapM_cons, h e List.mem_cons_self,
      ih fun x hx => h x (List.mem_cons_of_mem _ hx)]
    rfl

theorem list_mirror (hc : AllWhole limits c) :
    (Ledger.store limits).list (mirror c) = .ok (c.toList.map (·.2)) := by
  refine mapM_toBucket ?_
  intro e he
  obtain ⟨hid, hb⟩ := hc e.1 e.2 (Catalog.find?_of_mem he)
  rw [← hid]
  exact hb.toBucket

section Run

variable (hw : limits.window.nanos % 1000000 = 0)

include hw

/-- Whatever a call makes of the bucket that it finds is whole again. -/
theorem AllWhole.act (hc : AllWhole limits c) (hnow : Store.Timely limits now) (id : String)
    (op : Op) (hop : ∀ id s, op = .correct id s → s.resetAt.IsWhole) :
    AllWhole limits (c.insert id (op.act now (Memory.lookup limits now id c))) := by
  obtain ⟨hid, hb⟩ := hc.lookup hw hnow id
  refine hc.insert ?_ (hb.act hw hnow hop)
  cases op with
  | get _ => exact hid
  | take _ cost => exact (Bucket.take_id _ cost now).trans hid
  | correct _ s => exact hid
  | list => exact hid

/-- **One call to the rows and to memory** gives one answer, and leaves the rows those of the
buckets. -/
theorem reply_mirror (hc : AllWhole limits c) {op : Op} (h : Access.IsWhole limits (.call now op)) :
    ∃ r c', AllWhole limits c' ∧ Memory.backing.reply limits now c op = (r, c') ∧
      Ledger.backing.reply limits now (mirror c) op = (r, mirror c') := by
  cases op with
  | get id =>
    have hact := hc.act hw h id (.get id) fun _ _ h => by cases h
    refine ⟨_, _, hact, rfl, ?_⟩
    simp only [Backing.reply, Ledger.backing, get_mirror hc]
    rfl
  | take id cost =>
    have hact := hc.act hw h id (.take id cost) fun _ _ h => by cases h
    refine ⟨_, _, hact, rfl, ?_⟩
    simp only [Backing.reply, Ledger.backing, take_mirror hc]
    rfl
  | correct id s =>
    have hact := hc.act hw h.1 id (.correct id s) (by rintro _ _ ⟨⟩; exact h.2)
    refine ⟨_, _, hact, rfl, ?_⟩
    simp only [Backing.reply, Ledger.backing, correct_mirror hc]
    rfl
  | list =>
    refine ⟨_, c, hc, rfl, ?_⟩
    simp only [Backing.reply, Ledger.backing, list_mirror hc]
    rfl

theorem repliesFrom_mirror {es : List Access} (hes : ∀ e ∈ es, e.IsWhole limits)
    (hc : AllWhole limits c) :
    Ledger.backing.repliesFrom limits (mirror c) es = Memory.backing.repliesFrom limits c es := by
  induction es generalizing c with
  | nil => rfl
  | cons e es ih =>
    have he := hes e List.mem_cons_self
    have ih {c} := @ih c fun e he => hes e (List.mem_cons_of_mem _ he)
    cases e with
    | call now op =>
      obtain ⟨r, c', hc', hmem, hrows⟩ := reply_mirror hw hc he
      rw [Backing.repliesFrom, Backing.repliesFrom, hrows, hmem, ih hc']
    | reopen limits' =>
      cases he
      exact ih hc

/-- **Rows answer as memory does**, call by call, when all times are whole milliseconds, however
often the table is opened again. -/
theorem replies_eq {es : List Access} (hes : ∀ e ∈ es, e.IsWhole limits) :
    Ledger.backing.replies limits es = Memory.backing.replies limits es := by
  have hempty : AllWhole limits .empty := by
    intro id b h
    cases h
  exact repliesFrom_mirror hw hes hempty

end Run

/-- The point this many milliseconds after 1970 began. -/
def atMillis (ms : Int) : Timestamp := (Timestamp.ofMillis? ms).getD .epoch

/-- Two units a second: a denial, a correction by a clock that has been set back and by which more
units are left than there are, a window that rolls over to the corrected limit. -/
def clockSetBack : List Access :=
  [.call (atMillis 600) (.take "b" 2), .reopen ⟨2, .ofMillis 1000⟩,
    .call (atMillis 700) (.take "b" 1),
    .call (atMillis 500) (.correct "b" ⟨3, 5, atMillis 900⟩), .call (atMillis (-1)) (.take "a" 1),
    .reopen ⟨2, .ofMillis 1000⟩, .call (atMillis 900) (.take "b" 1), .call .latest .list]

theorem replies_eq_clockSetBack :
    (∀ e ∈ clockSetBack, e.IsWhole ⟨2, .ofMillis 1000⟩) ∧
    Ledger.backing.replies ⟨2, .ofMillis 1000⟩ clockSetBack =
      [.outcome (.ok (.granted 0)), .outcome (.ok (.denied (.ofMillis 900))), .corrected (.ok ()),
        .outcome (.ok (.granted 1)), .outcome (.ok (.granted 2)),
        .buckets (.ok [⟨"a", 2, 1, atMillis 999, .ofMillis 1000, atMillis (-1)⟩,
          ⟨"b", 3, 2, atMillis 1900, .ofMillis 1000, atMillis 900⟩])] := by
  have hwhole : ∀ e ∈ clockSetBack, e.IsWhole ⟨2, .ofMillis 1000⟩ := by
    intro e he
    simp only [clockSetBack, List.mem_cons, List.not_mem_nil, or_false] at he
    rcases he with rfl | rfl | rfl | rfl | rfl | rfl | rfl | rfl
    · exact ⟨by decide, by decide⟩
    · rfl
    · exact ⟨by decide, by decide⟩
    · exact ⟨⟨by decide, by decide⟩, by decide⟩
    · exact ⟨by decide, by decide⟩
    · rfl
    · exact ⟨by decide, by decide⟩
    · trivial
  exact ⟨hwhole, (replies_eq (by decide) hwhole).trans rfl⟩

end Ledger

end Sluice
