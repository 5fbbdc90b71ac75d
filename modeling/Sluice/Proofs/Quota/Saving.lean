import Sluice.Proofs.Quota.Mirror
import Sluice.Proofs.Time.Floor

/-!
# A bucket in its row

A table keeps a bucket in its row, over whatever the row held before, and finds it there again
rounded down to the millisecond.

* `Ledger.save`, `Ledger.load?` : a bucket is put into its row, and taken from it;
* `Ledger.lookup_eq_load?`, `Ledger.take_eq_save`, `Ledger.correct_eq_save` : the operations of a
  table are made of these;
* `Bucket.floor` : what a row keeps of a bucket; `Row.ofBucket_floor` : it has the same row;
* `Ledger.saved_found` : what is saved is found again.
-/

namespace Sluice

/-! ### What a row keeps -/

namespace Bucket

/-- The bucket with its times and its window rounded down to the millisecond. -/
def floor (b : Bucket) : Bucket :=
  { b with
    resetAt := b.resetAt.floor
    window := b.window.floor
    updatedAt := b.updatedAt.floor }

end Bucket

namespace Row

variable {b : Bucket}

/-- **Nothing else is kept of a bucket** than what rounding leaves of it. -/
theorem ofBucket_floor (b : Bucket) : ofBucket b.floor = ofBucket b := by
  change Row.mk _ _ (Int64.ofInt b.resetAt.floor.millis) b.window.floor.millis64.toInt64
    (Int64.ofInt b.updatedAt.floor.millis) = _
  rw [Timestamp.millis_floor, Timestamp.millis_floor, Duration.millis64_floor]
  rfl

theorem stamp_eq_floor {t : Timestamp} (h : t.isLeap = false) : stamp t = .ok t.floor :=
  stamp_eq_ok.2 (Timestamp.ofMillis?_millis h)

/-- A window of `2 ^ 63` milliseconds or more passes through a negative number. -/
theorem span_eq_floor {d : Duration} (h : d.millis < 18446744073709551616) :
    span d = d.floor := by
  rw [span, UInt64.toUInt64_toInt64, Duration.ofMillis_millis64 h]

theorem toBucket_ofBucket_eq_floor (hreset : b.resetAt.isLeap = false)
    (hupdated : b.updatedAt.isLeap = false) (hwindow : b.window.millis < 18446744073709551616) :
    (ofBucket b).toBucket b.id = .ok b.floor := by
  rw [toBucket_ofBucket, stamp_eq_floor hreset, stamp_eq_floor hupdated, span_eq_floor hwindow]
  rfl

end Row

/-! ### Saving and loading -/

namespace Ledger

variable {limits : Limits} {now : Timestamp} {id : String} {rows rows' : Catalog Row} {b : Bucket}

/-- Puts a bucket into its row. -/
def save (b : Bucket) (rows : Catalog Row) : Catalog Row := rows.insert b.id (.ofBucket b)

/-- The bucket of an id, if there is a row for it. -/
def load? (id : String) (rows : Catalog Row) : Except Failure (Option Bucket) :=
  match rows.find? id with
  | some r => (r.toBucket id).map some
  | none => .ok none

theorem lookup_eq_load? (limits : Limits) (now : Timestamp) (id : String) (rows : Catalog Row) :
    lookup limits now id rows = (do
      match ← load? id rows with
      | some b => return (b, rows)
      | none =>
        let b := Bucket.fresh id limits now
        return (b, save b rows)) := by
  unfold lookup load?
  cases rows.find? id with
  | none => rfl
  | some r => cases h : r.toBucket id <;> simp only [h] <;> rfl

theorem id_of_lookup (h : lookup limits now id rows = .ok (b, rows')) : b.id = id := by
  unfold lookup at h
  split at h
  · rename_i r _
    cases hr : r.toBucket id with
    | error f => rw [hr] at h; cases h
    | ok c => rw [hr] at h; cases h; exact (Row.toBucket_eq_ok hr).1
  · cases h
    rfl

theorem take_eq_save (limits : Limits) (now : Timestamp) (id : String) (cost : UInt32)
    (rows : Catalog Row) : (store limits).take now id cost rows = commit rows (do
      let (before, rows) ← lookup limits now id rows
      let (o, b) := before.take cost now
      return (o, if b = before then rows else save b rows)) := by
  change commit rows _ = _
  cases h : lookup limits now id rows with
  | error f => rfl
  | ok found =>
    obtain ⟨before, rows'⟩ := found
    have hid : (before.take cost now).2.id = id := by rw [Bucket.take_id, id_of_lookup h]
    have hsave : save (before.take cost now).2 rows' =
        rows'.insert id (.ofBucket (before.take cost now).2) := by rw [save, hid]
    change _ = commit rows (.ok (_, if _ then rows' else save (before.take cost now).2 rows'))
    rw [hsave]
    rfl

theorem correct_eq_save (limits : Limits) (now : Timestamp) (id : String) (s : Snapshot)
    (rows : Catalog Row) : (store limits).correct now id s rows = commit rows (do
      let (b, rows) ← lookup limits now id rows
      return ((), save (b.correct s now) rows)) := by
  change commit rows _ = _
  cases h : lookup limits now id rows with
  | error f => rfl
  | ok found =>
    obtain ⟨b, rows'⟩ := found
    have hid : b.id = id := id_of_lookup h
    have hsave : save (b.correct s now) rows' = rows'.insert id (.ofBucket (b.correct s now)) :=
      congrArg (rows'.insert · _) hid
    change _ = commit rows (.ok ((), save (b.correct s now) rows'))
    rw [hsave]
    rfl

/-- **What is saved is found again**, rounded down to the millisecond, toward the past before 1970
too, whatever the rows held before. To save what was found changes nothing. -/
theorem saved_found (hreset : b.resetAt.isLeap = false) (hupdated : b.updatedAt.isLeap = false)
    (hwindow : b.window.millis < 18446744073709551616) (rows : Catalog Row) :
    load? b.id (save b rows) = .ok (some b.floor) ∧
      b.floor.resetAt.line = b.resetAt.line / 1000000 * 1000000 ∧
      b.floor.updatedAt.line = b.updatedAt.line / 1000000 * 1000000 ∧
      b.floor.window.nanos = b.window.nanos / 1000000 * 1000000 ∧
      save b.floor (save b rows) = save b rows ∧
      load? b.id (save b.floor (save b rows)) = .ok (some b.floor) ∧
      ∀ limits now, (store limits).get now b.id (save b rows) = (.ok b.floor, save b rows) := by
  have hload : load? b.id (save b rows) = .ok (some b.floor) := by
    rw [load?, save, Catalog.find?_insert, if_pos rfl]
    dsimp only
    rw [Row.toBucket_ofBucket_eq_floor hreset hupdated hwindow]
    rfl
  have hsave : save b.floor (save b rows) = save b rows := by
    rw [save, Row.ofBucket_floor]
    exact Catalog.insert_insert _ _ _ _
  refine ⟨hload, Timestamp.line_floor _, Timestamp.line_floor _, rfl, hsave, ?_, ?_⟩
  · rw [hsave, hload]
  · intro limits now
    change commit (save b rows) (lookup limits now b.id (save b rows)) = _
    rw [lookup_eq_load?, hload]
    rfl

/-- A bucket with a window that is as long as a row can hold, last changed right before 1970. -/
def longest : Bucket where
  id := "b"
  limit := 4294967295
  remaining := 0
  resetAt := .latest
  window := .clamp (18446744073709551616 * 1000000 - 1)
  updatedAt := (Timestamp.ofParts? (-1) 999999999).getD .epoch

/-- A row that nobody can read gives way to a bucket, whose number of milliseconds is negative in
two columns. -/
theorem saved_found_longest : longest.resetAt.isLeap = false ∧ longest.updatedAt.isLeap = false ∧
    longest.window.millis < 18446744073709551616 ∧
    (Row.ofBucket longest).windowMs = -1 ∧ (Row.ofBucket longest).updatedAtMs = -1 ∧
    load? "b" (save longest (Catalog.empty.insert "b" ⟨-1, -1, Int64.maxValue, -1, 0⟩)) =
      .ok (some longest.floor) := by
  have hwindow : longest.window.millis < 18446744073709551616 := by decide
  exact ⟨rfl, rfl, hwindow, by decide, by decide, (saved_found rfl rfl hwindow _).1⟩

end Ledger

end Sluice
