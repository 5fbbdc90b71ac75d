import Sluice.Quota.Store

/-!
# Buckets as rows of a table

The state is a catalog of rows of signed 64-bit integers, times in milliseconds, which several
processes may share. What somebody else wrote into a row may be no bucket; then an operation fails
and leaves every row as it was.

* `Row.ofBucket` and `Row.toBucket?` convert, rounding times toward the past;
* `Ledger.store` is the store over the rows.
-/

namespace Sluice

/-- The columns of a bucket. -/
structure Row where
  /-- Units per window. -/
  limit : Int64
  /-- Units left. -/
  remaining : Int64
  /-- The end of the window in milliseconds from 1970. -/
  resetAtMs : Int64
  /-- The length of a window in milliseconds. -/
  windowMs : Int64
  /-- The last change in milliseconds from 1970. -/
  updatedAtMs : Int64
  deriving DecidableEq, Repr

namespace Row

/-- The row of a bucket (`save_bucket`). -/
def ofBucket (b : Bucket) : Row :=
  ⟨Int64.ofNat b.limit.toNat, Int64.ofNat b.remaining.toNat, Int64.ofInt b.resetAt.millis,
    b.window.millis64.toInt64, Int64.ofInt b.updatedAt.millis⟩

/-- A point in time from a column (`from_millis`). -/
def time (ms : Int64) : Except Failure Timestamp :=
  match Timestamp.ofMillis? ms.toInt with
  | some t => .ok t
  | none => .error (.store ("timestamp out of range: " ++ toString ms.toInt))

/-- The bucket of a row (`load_bucket`); counts keep their low 32 bits. -/
def toBucket (id : String) (r : Row) : Except Failure Bucket := do
  let resetAt ← time r.resetAtMs
  let updatedAt ← time r.updatedAtMs
  return ⟨id, r.limit.toUInt64.toUInt32, r.remaining.toUInt64.toUInt32, resetAt,
    .ofMillis r.windowMs.toUInt64, updatedAt⟩

end Row

namespace Ledger

/-! ### Opening -/

/-- What is found where a ledger is to be kept. -/
inductive Place where
  /-- A ledger, or room for one. -/
  | file
  /-- A file that is no ledger. -/
  | foreign
  /-- A directory. -/
  | directory
  /-- A path that leads through a file. -/
  | belowFile
  deriving DecidableEq, Repr

/-- What comes of opening a ledger. -/
inductive Opening where
  /-- It is open. -/
  | opened
  /-- It cannot be opened. -/
  | refused (f : Failure)
  /-- It cannot wait that long for others, and whoever asks it to breaks down. -/
  | overstrained
  deriving DecidableEq, Repr

/-- The greatest number of milliseconds for which a ledger can wait for others. -/
def longestWait : Nat := 2147483647

/-- Opens a ledger that waits for others for some time (`open`). Whether a file is a ledger is
noticed last. -/
def Place.enter (p : Place) (wait : Duration) : Opening :=
  match p with
  | directory => .refused (.store "unable to open database file")
  | belowFile => .refused (.network "Not a directory (os error 20)")
  | file => if longestWait < wait.millis then .overstrained else .opened
  | foreign =>
    if longestWait < wait.millis then .overstrained
    else .refused (.store "file is not a database")

/-! ### Operations -/

/-- The bucket of an id with the rows that hold it (`load_or_new`); a fresh one gets its row at
once. -/
def lookup (limits : Limits) (now : Timestamp) (id : String) (rows : Catalog Row) :
    Except Failure (Bucket × Catalog Row) :=
  match rows.find? id with
  | some r => do return (← r.toBucket id, rows)
  | none =>
    let b := Bucket.fresh id limits now
    .ok (b, rows.insert id (.ofBucket b))

/-- Commits the outcome of a unit of work, or leaves the rows as they were (`with_transaction`). -/
def commit {α : Type} (rows : Catalog Row) :
    Except Failure (α × Catalog Row) → Except Failure α × Catalog Row
  | .ok (a, rows) => (.ok a, rows)
  | .error f => (.error f, rows)

/-- A store that gives new buckets these limits. -/
def store (limits : Limits) : Store (Catalog Row) where
  get now id rows := commit rows (lookup limits now id rows)
  take now id cost rows := commit rows do
    let (before, rows) ← lookup limits now id rows
    let (o, b) := before.take cost now
    return (o, if b = before then rows else rows.insert id (.ofBucket b))
  correct now id s rows := commit rows do
    let (b, rows) ← lookup limits now id rows
    return ((), rows.insert id (.ofBucket (b.correct s now)))
  list rows := rows.toList.mapM fun e => e.2.toBucket e.1

end Ledger

end Sluice
