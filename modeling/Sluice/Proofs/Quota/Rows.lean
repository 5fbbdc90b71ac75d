import Sluice.Quota.Ledger
import Sluice.Proofs.Quota.Backing

/-!
# Buckets as rows

What a row keeps of a bucket: all counts, the times in whole milliseconds, and of the length of a
window in whole milliseconds the low 64 bits.

* `Row.toBucket_ofBucket` : a bucket that is written and read again;
* `Row.ofBucket_toBucket` : what has been read is read again without change;
* `Ledger.lawful` : a table of rows is a store of buckets like any other.
-/

namespace Sluice

namespace Row

/-! ### Columns -/

/-- A point in time that is written and read again. -/
def stamp (t : Timestamp) : Except Failure Timestamp := time (Int64.ofInt t.millis)

/-- A length that is written and read again. -/
def span (d : Duration) : Duration := .ofMillis d.millis64.toInt64.toUInt64

theorem toInt_ofInt_millis (t : Timestamp) : (Int64.ofInt t.millis).toInt = t.millis := by
  have := t.first_le
  have := t.le_last
  have := t.nanos_lt
  apply Int64.toInt_ofInt_of_le <;> rw [Timestamp.millis] <;> omega

theorem time_eq_ok {ms : Int64} {t : Timestamp} :
    time ms = .ok t ↔ Timestamp.ofMillis? ms.toInt = some t := by
  unfold time
  cases Timestamp.ofMillis? ms.toInt <;> simp

theorem stamp_eq_ok {t u : Timestamp} :
    stamp t = .ok u ↔ Timestamp.ofMillis? t.millis = some u := by
  rw [stamp, time_eq_ok, toInt_ofInt_millis]

theorem stamp_of_time {ms : Int64} {t : Timestamp} (h : time ms = .ok t) : stamp t = .ok t := by
  rw [stamp, Timestamp.millis_eq_of_ofMillis? (time_eq_ok.1 h), Int64.ofInt_toInt, h]

theorem span_ofMillis (ms : UInt64) : span (.ofMillis ms) = .ofMillis ms := by
  have hms : (Duration.ofMillis ms).millis = ms.toNat := by
    rw [Duration.millis, Duration.nanos_ofMillis]
    omega
  simp [span, Duration.millis64, hms]

/-- Of a whole number of milliseconds that fits into 64 bits nothing is lost. -/
theorem span_eq {d : Duration} (hd : d.nanos % 1000000 = 0)
    (hlt : d.nanos < 18446744073709551616 * 1000000) : span d = d := by
  have hof : d = .ofMillis (UInt64.ofNat (d.nanos / 1000000)) := by
    apply Duration.ext
    rw [Duration.nanos_ofMillis, UInt64.toNat_ofNat_of_lt' (by change _ < 2 ^ 64; omega)]
    omega
  rw [hof, span_ofMillis]

theorem toUInt32_ofNat_toNat (n : UInt32) : (Int64.ofNat n.toNat).toUInt64.toUInt32 = n := by
  simp

/-! ### Rows -/

theorem toBucket_ofBucket (b : Bucket) : (ofBucket b).toBucket b.id = (do
    let resetAt ← stamp b.resetAt
    let updatedAt ← stamp b.updatedAt
    return { b with resetAt, window := span b.window, updatedAt }) := by
  unfold toBucket ofBucket
  simp only [toUInt32_ofNat_toNat]
  rfl

theorem toBucket_eq_ok {id : String} {r : Row} {b : Bucket} (h : r.toBucket id = .ok b) :
    b.id = id ∧ time r.resetAtMs = .ok b.resetAt ∧ time r.updatedAtMs = .ok b.updatedAt ∧
      b.window = .ofMillis r.windowMs.toUInt64 := by
  unfold toBucket at h
  cases hr : time r.resetAtMs with
  | error e => rw [hr] at h; cases h
  | ok t =>
    cases hu : time r.updatedAtMs with
    | error e => rw [hr, hu] at h; cases h
    | ok u =>
      rw [hr, hu] at h
      cases h
      exact ⟨rfl, rfl, rfl, rfl⟩

/-- **What has been read is read again without change**, whatever the row was. -/
theorem ofBucket_toBucket {id : String} {r : Row} {b : Bucket} (h : r.toBucket id = .ok b) :
    (ofBucket b).toBucket id = .ok b := by
  obtain ⟨hid, hr, hu, hw⟩ := toBucket_eq_ok h
  rw [← hid, toBucket_ofBucket, stamp_of_time hr, stamp_of_time hu, hw, span_ofMillis, ← hw]
  rfl

end Row

namespace Ledger

/-- Buckets as rows of a table that any number of handles share. -/
def backing : Backing (Catalog Row) where
  store := Ledger.store
  empty := .empty
  look id rows := (rows.find? id).map (·.toBucket id)
  stamp := Row.stamp
  span := Row.span
  grain := 1000000

theorem keep_eq (b : Bucket) : backing.keep b = (Row.ofBucket b).toBucket b.id :=
  (Row.toBucket_ofBucket b).symm

/-- What a call looks up is what it finds, and has its row from then on. -/
theorem lookup_eq (limits : Limits) (now : Timestamp) (id : String) (rows : Catalog Row) :
    match backing.found limits now id rows with
    | .ok b => b.id = id ∧ ∃ rows', lookup limits now id rows = .ok (b, rows') ∧
        ∀ j, backing.look j rows' = if j = id then some (backing.keep b) else backing.look j rows
    | .error e => lookup limits now id rows = .error e := by
  unfold lookup Backing.found
  cases hrow : rows.find? id with
  -- A bucket that is not there yet is written at once, and what is answered is not rounded.
  | none =>
    have hl : backing.look id rows = none := by simp [backing, hrow]
    rw [hl]
    refine ⟨rfl, _, rfl, fun j => ?_⟩
    rw [keep_eq]
    show ((Catalog.insert ..).find? j).map _ = if j = id then some _ else (rows.find? j).map _
    rw [Catalog.find?_insert]
    split_ifs with hj
    · rw [hj]; rfl
    · rfl
  | some r =>
    have hl : backing.look id rows = some (r.toBucket id) := by simp [backing, hrow]
    rw [hl, Option.getD_some]
    cases hb : r.toBucket id with
    | error e => simp only [hb]; rfl
    | ok b =>
      refine ⟨(Row.toBucket_eq_ok hb).1, rows, by simp only [hb]; rfl, fun j => ?_⟩
      split_ifs with hj
      · rw [hj, hl, keep_eq, (Row.toBucket_eq_ok hb).1, Row.ofBucket_toBucket hb, hb]
      · rfl

/-- An operation acts on a bucket if it looks the bucket up and then writes what it has made of it,
or writes nothing because it has changed nothing. -/
theorem acts {α : Type} {limits : Limits} {now : Timestamp} {id : String}
    {op : Catalog Row → Except Failure α × Catalog Row} {f : Bucket → α × Bucket}
    (write : Bucket → Catalog Row → Catalog Row) (hid : ∀ b, (f b).2.id = b.id)
    (hwrite : ∀ b rows, write b rows = rows.insert id (.ofBucket (f b).2) ∨
      (f b).2 = b ∧ write b rows = rows)
    (hop : ∀ rows, op rows = commit rows (do
      let (b, rows) ← lookup limits now id rows
      return ((f b).1, write b rows))) :
    backing.Acts limits now id op f := by
  intro rows
  have hlook := lookup_eq limits now id rows
  cases hb : backing.found limits now id rows with
  | error e =>
    rw [hb] at hlook
    rw [hop, hlook]
    rfl
  | ok b =>
    rw [hb] at hlook
    obtain ⟨hbid, rows', hl, hrows'⟩ := hlook
    have hres : op rows = (.ok (f b).1, write b rows') := by rw [hop, hl]; rfl
    rw [hres]
    refine ⟨rfl, fun j => ?_⟩
    -- A request that changes nothing writes nothing.
    rcases hwrite b rows' with hw | ⟨hf, hw⟩
    · rw [hw, keep_eq, hid, hbid]
      show ((Catalog.insert ..).find? j).map _ = _
      rw [Catalog.find?_insert]
      have := hrows' j
      split_ifs at this ⊢ with hj
      · rw [hj]; rfl
      · exact this
    · rw [hw, hf]
      exact hrows' j

theorem lawful : backing.Lawful where
  look_empty _ := rfl
  get_acts limits now id := by
    refine acts (fun _ rows => rows) (fun _ => rfl) (fun _ _ => Or.inr ⟨rfl, rfl⟩) fun rows => ?_
    show commit rows (lookup limits now id rows) = _
    cases lookup limits now id rows <;> rfl
  take_acts limits now id cost := by
    refine acts (fun b rows => if (b.take cost now).2 = b then rows
      else rows.insert id (.ofBucket (b.take cost now).2)) (fun b => b.take_id cost now)
      (fun b rows => ?_) fun rows => rfl
    split_ifs with h
    · exact Or.inr ⟨h, rfl⟩
    · exact Or.inl rfl
  correct_acts limits now id s :=
    acts (fun b rows => rows.insert id (.ofBucket (b.correct s now))) (fun _ => rfl)
      (fun _ _ => Or.inl rfl) fun _ => rfl
  keep_look id rows b h := by
    obtain ⟨r, -, hr⟩ := Option.map_eq_some_iff.1 h
    rw [keep_eq, (Row.toBucket_eq_ok hr).1, Row.ofBucket_toBucket hr]
  stamp_ok t ht := by
    obtain ⟨u, hu⟩ := Timestamp.exists_ofMillis?_millis ht
    exact ⟨u, Timestamp.le_latest (Timestamp.ofMillis?_eq_some hu).1, Row.stamp_eq_ok.2 hu⟩
  stamp_line t u _ h := by
    have hu := Row.stamp_eq_ok.1 h
    exact ⟨(Timestamp.ofMillis?_eq_some hu).1, Timestamp.line_ofMillis?_millis hu⟩
  span_eq _ hd hlt := Row.span_eq hd hlt
  grain_dvd := by decide

end Ledger

end Sluice
