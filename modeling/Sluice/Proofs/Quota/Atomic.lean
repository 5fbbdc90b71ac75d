import Sluice.Proofs.Quota.Mirror

/-!
# All or nothing

Several processes may share a table, and a row holds whatever one of them wrote into it. Any number
is a count and any number a length, but not every number of milliseconds is a point in time.

* `Row.isReadable_iff` : a row can be read exactly if both its points in time lie on the calendar;
* `Ledger.AllOrNothing` : a call fails exactly if it meets a row that cannot be read, and then has
  changed nothing; if it succeeds, it has written at most the row of its own id, which can be read;
* `Ledger.all_or_nothing` : every call does so, whatever the rows hold.
-/

namespace Sluice

/-! ### Rows that can be read -/

namespace Row

/-- A point on the calendar has this number of milliseconds. -/
def HasTime (ms : Int64) : Prop := -8334601228800000 ≤ ms.toInt ∧ ms.toInt ≤ 8210266876799999

instance (ms : Int64) : Decidable (HasTime ms) := inferInstanceAs (Decidable (_ ∧ _))

/-- The points in time of a row lie on the calendar. -/
def IsReadable (r : Row) : Prop := HasTime r.resetAtMs ∧ HasTime r.updatedAtMs

instance (r : Row) : Decidable r.IsReadable := inferInstanceAs (Decidable (_ ∧ _))

/-- What is said about a row that cannot be read: its first number that is no point in time. -/
def complaint (r : Row) : Failure :=
  .store ("timestamp out of range: " ++
    toString (if HasTime r.resetAtMs then r.updatedAtMs else r.resetAtMs).toInt)

variable {r : Row} {id : String} {b : Bucket}

theorem time_of_hasTime {ms : Int64} (h : HasTime ms) : ∃ t, time ms = .ok t := by
  cases ht : Timestamp.ofMillis? ms.toInt with
  | some t => exact ⟨t, time_eq_ok.2 ht⟩
  | none =>
    obtain ⟨hfirst, hlast⟩ := h
    have := Timestamp.ofParts?_eq_none (by omega) ht
    omega

theorem time_of_not_hasTime {ms : Int64} (h : ¬ HasTime ms) :
    time ms = .error (.store ("timestamp out of range: " ++ toString ms.toInt)) := by
  unfold time
  cases ht : Timestamp.ofMillis? ms.toInt with
  | none => rfl
  | some t =>
    have hms := Timestamp.millis_eq_of_ofMillis? ht
    have hleap := Timestamp.isLeap_eq_false.1 (Timestamp.ofMillis?_eq_some ht).1
    have := t.first_le
    have := t.le_last
    rw [Timestamp.millis] at hms
    exact absurd ⟨by omega, by omega⟩ h

theorem toBucket_of_isReadable (id : String) (h : r.IsReadable) : ∃ b, r.toBucket id = .ok b := by
  obtain ⟨t, ht⟩ := time_of_hasTime h.1
  obtain ⟨u, hu⟩ := time_of_hasTime h.2
  unfold toBucket
  rw [ht, hu]
  exact ⟨_, rfl⟩

theorem toBucket_of_not_isReadable (id : String) (h : ¬ r.IsReadable) :
    r.toBucket id = .error r.complaint := by
  unfold toBucket complaint
  by_cases hreset : HasTime r.resetAtMs
  · obtain ⟨t, ht⟩ := time_of_hasTime hreset
    rw [ht, time_of_not_hasTime fun hu => h ⟨hreset, hu⟩, if_pos hreset]
    rfl
  · rw [time_of_not_hasTime hreset, if_neg hreset]
    rfl

/-- **A row can be read** exactly if its points in time lie on the calendar. -/
theorem isReadable_iff : r.IsReadable ↔ ∃ b, r.toBucket id = .ok b := by
  refine ⟨toBucket_of_isReadable id, fun ⟨b, hb⟩ => ?_⟩
  by_contra h
  rw [toBucket_of_not_isReadable id h] at hb
  cases hb

theorem toBucket_eq_error_iff {f : Failure} :
    r.toBucket id = .error f ↔ ¬ r.IsReadable ∧ f = r.complaint := by
  constructor
  · intro h
    have hr : ¬ r.IsReadable := by
      intro hr
      obtain ⟨b, hb⟩ := toBucket_of_isReadable id hr
      rw [hb] at h
      cases h
    rw [toBucket_of_not_isReadable id hr] at h
    exact ⟨hr, (Except.error.inj h).symm⟩
  · rintro ⟨hr, rfl⟩
    exact toBucket_of_not_isReadable id hr

/-- No leap second comes out of a row. -/
theorem onCalendar_of_toBucket (h : r.toBucket id = .ok b) : b.OnCalendar := by
  obtain ⟨-, hr, hu, -⟩ := toBucket_eq_ok h
  exact ⟨Timestamp.le_latest (Timestamp.ofMillis?_eq_some (time_eq_ok.1 hr)).1,
    Timestamp.le_latest (Timestamp.ofMillis?_eq_some (time_eq_ok.1 hu)).1⟩

end Row

/-! ### What a call answers -/

namespace Store

/-- The failure of an operation that has failed. -/
def failed? {α : Type} : Except Failure α → Option Failure
  | .ok _ => none
  | .error f => some f

theorem failed?_map {α β : Type} (r : Except Failure α) (f : α → β) :
    failed? (r.map f) = failed? r := by
  cases r <;> rfl

theorem failed?_eq_some {α : Type} {r : Except Failure α} {f : Failure} :
    failed? r = some f ↔ r = .error f := by
  cases r <;> simp [failed?]

/-- The failure that a call answers. -/
def Answer.failure? : Answer → Option Failure
  | bucket r => failed? r
  | outcome r => failed? r
  | corrected r => failed? r
  | buckets r => failed? r

/-- A call reads the bucket of an id. -/
def Op.Reads (op : Op) (id : String) : Prop := op.id? = some id ∨ op = .list

end Store

open Store (Op Use Answer)

theorem Backing.reply_snd {σ : Type} (k : Backing σ) (u : Use) (st : σ) :
    (k.reply u.limits u.now st u.op).2 = k.after u st := by
  obtain ⟨limits, now, op⟩ := u
  cases op <;> rfl

/-- An operation fails as soon as its bucket cannot be found, and then changes nothing. -/
theorem Backing.Acts.failed {σ α : Type} {k : Backing σ} {limits : Limits} {now : Timestamp}
    {id : String} {op : σ → Except Failure α × σ} {f : Bucket → α × Bucket}
    (h : k.Acts limits now id op f) (st : σ) :
    Store.failed? (op st).1 = Store.failed? (k.found limits now id st) ∧
      ∀ e, k.found limits now id st = .error e → (op st).2 = st := by
  refine ⟨?_, fun e he => ?_⟩
  · rw [h.answer, Store.failed?_map]
  · have hst := h st
    rw [he] at hst
    rw [hst]

theorem Backing.failed_reply {σ : Type} {k : Backing σ} (hk : k.Lawful) {u : Use} {id : String}
    (hid : u.op.id? = some id) (st : σ) :
    (k.reply u.limits u.now st u.op).1.failure? = Store.failed? (k.found u.limits u.now id st) ∧
      ∀ e, k.found u.limits u.now id st = .error e →
        (k.reply u.limits u.now st u.op).2 = st := by
  obtain ⟨limits, now, op⟩ := u
  cases op with
  | get _ => cases hid; exact (hk.get_acts limits now id).failed st
  | take _ cost => cases hid; exact (hk.take_acts limits now id cost).failed st
  | correct _ s => cases hid; exact (hk.correct_acts limits now id s).failed st
  | list => cases hid

/-! ### Any rows -/

namespace Ledger

variable {u : Use} {rows : Catalog Row} {id : String} {f : Failure}

/-- The longest way between two points in time that can be measured, in nanoseconds. -/
def longestWay : Nat := 9223372036854775807 * 1000000

theorem natAbs_nanosSince_le (s t : Timestamp) : (s.nanosSince t).natAbs ≤ longestWay := by
  have := s.first_le
  have := s.le_last
  have := s.nanos_lt
  have := t.first_le
  have := t.le_last
  have := t.nanos_lt
  unfold Timestamp.nanosSince longestWay
  dsimp only
  split_ifs <;> omega

/-- **All or nothing**: how a call deals with rows, by what it answers and leaves behind. -/
structure AllOrNothing (u : Use) (rows : Catalog Row) (res : Answer × Catalog Row) : Prop where
  /-- It fails exactly if it meets a row that cannot be read. -/
  fails_iff : (∃ f, res.1.failure? = some f) ↔
    ∃ id r, u.op.Reads id ∧ rows.find? id = some r ∧ ¬ r.IsReadable
  /-- A failure is one of the store and tells about such a row. -/
  complains : ∀ f, res.1.failure? = some f →
    ∃ id r, u.op.Reads id ∧ rows.find? id = some r ∧ ¬ r.IsReadable ∧ f = r.complaint
  /-- After a failure every row is as before. -/
  untouched : ∀ f, res.1.failure? = some f → res.2 = rows
  /-- The rows of other ids stay as they are. -/
  others : ∀ id, u.op.id? ≠ some id → res.2.find? id = rows.find? id
  /-- After a success the row of the id can be read, unless it was told a time that lies beyond the
  calendar. -/
  readable : res.1.failure? = none → u.OnCalendar →
    ∀ id, u.op.id? = some id → ∃ r, res.2.find? id = some r ∧ r.IsReadable
  /-- The way from the clock to any point in time can be measured. -/
  measurable : ∀ t : Timestamp, (t.nanosSince u.now).natAbs ≤ longestWay

theorem found_eq_error_iff {limits : Limits} {now : Timestamp} :
    backing.found limits now id rows = .error f ↔
      ∃ r, rows.find? id = some r ∧ ¬ r.IsReadable ∧ f = r.complaint := by
  constructor
  · intro h
    obtain ⟨r, hr, hf⟩ := Option.map_eq_some_iff.1 (Backing.found_eq_error h)
    exact ⟨r, hr, Row.toBucket_eq_error_iff.1 hf⟩
  · rintro ⟨r, hr, hf⟩
    refine Backing.found_of_look ?_
    show (rows.find? id).map _ = _
    rw [hr, Option.map_some, Row.toBucket_eq_error_iff.2 hf]

theorem onCalendar_of_found {limits : Limits} {now : Timestamp} {b : Bucket}
    (h : backing.found limits now id rows = .ok b) (hnow : now ≤ Timestamp.latest) :
    b.OnCalendar := by
  rcases Backing.found_eq_ok h with hl | ⟨-, rfl⟩
  · obtain ⟨r, -, hr⟩ := Option.map_eq_some_iff.1 hl
    exact Row.onCalendar_of_toBucket hr
  · exact Backing.onCalendar_fresh id limits hnow

/-- To look a bucket up is to leave the rows of other ids alone. -/
theorem find?_of_lookup {limits : Limits} {now : Timestamp} {j : String} {b : Bucket}
    {rows' : Catalog Row} (h : lookup limits now j rows = .ok (b, rows')) (hne : id ≠ j) :
    rows'.find? id = rows.find? id := by
  unfold lookup at h
  split at h
  · rename_i r _
    cases hr : r.toBucket j with
    | error e => rw [hr] at h; cases h
    | ok c => rw [hr] at h; cases h; rfl
  · cases h
    rw [Catalog.find?_insert, if_neg hne]

theorem find?_commit {α : Type} {op : Except Failure (α × Catalog Row)}
    (h : ∀ a rows', op = .ok (a, rows') → rows'.find? id = rows.find? id) :
    (commit rows op).2.find? id = rows.find? id := by
  cases op with
  | error e => rfl
  | ok a => exact h a.1 a.2 rfl

theorem find?_after (hne : u.op.id? ≠ some id) :
    (backing.after u rows).find? id = rows.find? id := by
  obtain ⟨limits, now, op⟩ := u
  -- Looking up another id may add a row, but not that of `id`.
  have hlook {j : String} (hj : some j ≠ some id) {b : Bucket} {rows' : Catalog Row}
      (h : lookup limits now j rows = .ok (b, rows')) :
      id ≠ j ∧ rows'.find? id = rows.find? id := by
    have hne : id ≠ j := fun h => hj (congrArg some h.symm)
    exact ⟨hne, find?_of_lookup h hne⟩
  cases op with
  | get j => exact find?_commit fun b rows' h => (hlook hne h).2
  | take j cost =>
    refine find?_commit fun o rows' h => ?_
    cases hl : lookup limits now j rows with
    | error e => rw [hl] at h; cases h
    | ok found =>
      obtain ⟨hj, hfind⟩ := hlook hne hl
      rw [hl] at h
      cases h
      split_ifs
      · exact hfind
      · rw [Catalog.find?_insert, if_neg hj, hfind]
  | correct j s =>
    refine find?_commit fun _ rows' h => ?_
    cases hl : lookup limits now j rows with
    | error e => rw [hl] at h; cases h
    | ok found =>
      obtain ⟨hj, hfind⟩ := hlook hne hl
      rw [hl] at h
      cases h
      rw [Catalog.find?_insert, if_neg hj, hfind]
  | list => rfl

/-- What a call leaves of the bucket that it names can be read again. -/
theorem isReadable_after (hid : u.op.id? = some id) (hu : u.OnCalendar) {b : Bucket}
    (hb : backing.found u.limits u.now id rows = .ok b) :
    ∃ r, (backing.after u rows).find? id = some r ∧ r.IsReadable := by
  obtain ⟨c, hc, -⟩ := Backing.onCalendar_keep lawful
    (Backing.onCalendar_act (onCalendar_of_found hb hu.1) hu)
  obtain ⟨r, hr, hrc⟩ := Option.map_eq_some_iff.1 (Backing.look_after_of_keep lawful hid hb hc)
  exact ⟨r, hr, Row.isReadable_iff.2 ⟨c, hrc⟩⟩

/-! ### All rows -/

/-- Rows are listed up to the first one that cannot be read. -/
theorem mapM_toBucket_cases (es : List (String × Row)) :
    (∃ bs, es.mapM (fun e => e.2.toBucket e.1) = .ok bs ∧ ∀ e ∈ es, e.2.IsReadable) ∨
      ∃ e ∈ es, ¬ e.2.IsReadable ∧ es.mapM (fun e => e.2.toBucket e.1) = .error e.2.complaint := by
  induction es with
  | nil => exact Or.inl ⟨[], rfl, by simp⟩
  | cons e es ih =>
    rw [List.mapM_cons]
    by_cases he : e.2.IsReadable
    · obtain ⟨b, hb⟩ := Row.toBucket_of_isReadable e.1 he
      rw [hb]
      rcases ih with ⟨bs, hbs, hes⟩ | ⟨x, hx, hbad, hbs⟩
      · rw [hbs]
        exact Or.inl ⟨_, rfl, List.forall_mem_cons.2 ⟨he, hes⟩⟩
      · rw [hbs]
        exact Or.inr ⟨x, List.mem_cons_of_mem _ hx, hbad, rfl⟩
    · rw [Row.toBucket_of_not_isReadable e.1 he]
      exact Or.inr ⟨e, List.mem_cons_self, he, rfl⟩

/-! ### The main result -/

theorem allOrNothing_named (hid : u.op.id? = some id) :
    AllOrNothing u rows (backing.reply u.limits u.now rows u.op) := by
  -- The operation fails exactly if the row of its id cannot be read, and then with its complaint.
  have hfails : ∀ f, (backing.reply u.limits u.now rows u.op).1.failure? = some f ↔
      backing.found u.limits u.now id rows = .error f := by
    intro f
    rw [(Backing.failed_reply lawful hid rows).1, Store.failed?_eq_some]
  have hreads : ∀ j, u.op.Reads j ↔ j = id := by
    intro j
    constructor
    · rintro (hj | hj)
      · exact Option.some.inj (hj.symm.trans hid)
      · rw [hj] at hid
        cases hid
    · rintro rfl
      exact Or.inl hid
  have hcomplains : ∀ f, (backing.reply u.limits u.now rows u.op).1.failure? = some f →
      ∃ j r, u.op.Reads j ∧ rows.find? j = some r ∧ ¬ r.IsReadable ∧ f = r.complaint := by
    intro f hf
    obtain ⟨r, hr⟩ := found_eq_error_iff.1 ((hfails f).1 hf)
    exact ⟨id, r, (hreads id).2 rfl, hr⟩
  refine ⟨⟨?_, ?_⟩, hcomplains, ?_, ?_, ?_, fun t => natAbs_nanosSince_le t u.now⟩
  · rintro ⟨f, hf⟩
    obtain ⟨j, r, hj, hr, hbad, -⟩ := hcomplains f hf
    exact ⟨j, r, hj, hr, hbad⟩
  · rintro ⟨j, r, hj, hr, hbad⟩
    obtain rfl := (hreads j).1 hj
    exact ⟨r.complaint, (hfails _).2 (found_eq_error_iff.2 ⟨r, hr, hbad, rfl⟩)⟩
  · intro f hf
    exact (Backing.failed_reply lawful hid rows).2 f ((hfails f).1 hf)
  · intro j hj
    rw [Backing.reply_snd]
    exact find?_after hj
  · intro hok hu j hj
    obtain rfl := Option.some.inj (hj.symm.trans hid)
    rw [Backing.reply_snd]
    cases hb : backing.found u.limits u.now j rows with
    | ok b => exact isReadable_after hid hu hb
    | error f => rw [(hfails f).2 hb] at hok; cases hok

theorem allOrNothing_list (limits : Limits) (now : Timestamp) (rows : Catalog Row) :
    AllOrNothing ⟨limits, now, .list⟩ rows (backing.reply limits now rows .list) := by
  have hfailure : (backing.reply limits now rows .list).1.failure? =
      Store.failed? (rows.toList.mapM fun e => e.2.toBucket e.1) := rfl
  have hcomplains : ∀ f, (backing.reply limits now rows .list).1.failure? = some f →
      ∃ j r, Op.list.Reads j ∧ rows.find? j = some r ∧ ¬ r.IsReadable ∧ f = r.complaint := by
    intro f hf
    rw [hfailure, Store.failed?_eq_some] at hf
    rcases mapM_toBucket_cases rows.toList with ⟨bs, hbs, -⟩ | ⟨e, he, hbad, hbs⟩
    · rw [hbs] at hf
      cases hf
    · rw [hbs] at hf
      exact ⟨e.1, e.2, Or.inr rfl, Catalog.find?_of_mem he, hbad, (Except.error.inj hf).symm⟩
  refine ⟨⟨?_, ?_⟩, hcomplains, fun _ _ => rfl, fun _ _ => rfl, ?_,
    fun t => natAbs_nanosSince_le t now⟩
  · rintro ⟨f, hf⟩
    obtain ⟨j, r, hj, hr, hbad, -⟩ := hcomplains f hf
    exact ⟨j, r, hj, hr, hbad⟩
  · rintro ⟨j, r, -, hr, hbad⟩
    rcases mapM_toBucket_cases rows.toList with ⟨bs, -, hall⟩ | ⟨e, -, -, hbs⟩
    · exact absurd (hall _ (Catalog.mem_of_find? hr)) hbad
    · exact ⟨_, by rw [hfailure, hbs]; rfl⟩
  · intro _ _ id hid
    cases hid

/-- **Every call of a table does all or nothing**, whatever its rows hold. -/
theorem all_or_nothing (u : Use) (rows : Catalog Row) :
    AllOrNothing u rows (backing.reply u.limits u.now rows u.op) := by
  cases hid : u.op.id? with
  | some id => exact allOrNothing_named hid
  | none =>
    obtain ⟨limits, now, op⟩ := u
    cases op with
    | list => exact allOrNothing_list limits now rows
    | get id => cases hid
    | take id cost => cases hid
    | correct id s => cases hid

/-- A table with a row that nobody can read. -/
def strange : Catalog Row := Catalog.empty.insert "a" ⟨-1, 1099511627776, Int64.minValue, -5, 0⟩

/-- Nothing can be taken from the bucket of a row that cannot be read. A bucket beside it gets its
row at once, and the other row stays as it is. -/
theorem all_or_nothing_strange :
    (∃ f, (backing.reply .standard .epoch strange (.take "a" 1)).1.failure? = some f) ∧
      (backing.reply .standard .epoch strange (.take "b" 1)).2.find? "a" = strange.find? "a" ∧
      ∃ r, (backing.reply .standard .epoch strange (.take "b" 1)).2.find? "b" = some r ∧
        r.IsReadable := by
  have ha := all_or_nothing ⟨.standard, .epoch, .take "a" 1⟩ strange
  have hb := all_or_nothing ⟨.standard, .epoch, .take "b" 1⟩ strange
  refine ⟨ha.fails_iff.2 ⟨"a", _, Or.inl rfl, rfl, by decide⟩, hb.others "a" (by decide), ?_⟩
  exact hb.readable rfl ⟨by decide, by rintro _ _ ⟨⟩⟩ "b" rfl

/-- The leap second after the last second of the calendar. -/
def afterLatest : Timestamp :=
  { Timestamp.latest with nanos := 1500000000, nanos_lt := by decide, leap := by decide }

/-- A correction may tell a time that no row can hold. It is written all the same, and nobody can
read the row from then on; buckets in memory hold any time. -/
theorem written_unreadable :
    let res := backing.reply .standard .epoch .empty (.correct "b" ⟨2, 1, afterLatest⟩)
    res.1.failure? = none ∧
      (∃ r, res.2.find? "b" = some r ∧ ¬ r.IsReadable) ∧
      (backing.reply .standard .epoch res.2 (.get "b")).1.failure? =
        some (.store "timestamp out of range: 8210266876800500") :=
  ⟨rfl, ⟨_, rfl, by decide⟩, by decide⟩

end Ledger

end Sluice
