import Sluice.Message.Request
import Sluice.Quota.Bucket

/-!
# Buckets as text

A bucket is a JSON object; its window is a number of milliseconds, which keeps the low 64 bits, and
its times are RFC 3339 texts.
-/

namespace Sluice.Bucket

/-- The names of the fields. -/
def fields : List String := ["bucket_id", "limit", "remaining", "reset_at", "window", "updated_at"]

/-- The form of a bucket. -/
def toJson (b : Bucket) : Json :=
  .ofMembers [("bucket_id", .ofString b.id), ("limit", .ofNat b.limit.toNat),
    ("remaining", .ofNat b.remaining.toNat), ("reset_at", b.resetAt.toJson),
    ("window", .ofNat b.window.millis64.toNat), ("updated_at", b.updatedAt.toJson)]

/-- A bucket from its form. -/
def ofJson? (j : Json) : Option Bucket := do
  let r ← j.record? fields
  let id ← (← r.get? "bucket_id").text?
  let limit ← (← r.get? "limit").uint32?
  let remaining ← (← r.get? "remaining").uint32?
  let resetAt ← Timestamp.ofJson? (← r.get? "reset_at")
  let window ← (← r.get? "window").uint64?
  let updatedAt ← Timestamp.ofJson? (← r.get? "updated_at")
  return ⟨id, limit, remaining, resetAt, .ofMillis window, updatedAt⟩

/-- The bytes of a bucket. -/
def toUtf8 (b : Bucket) : Bytes := b.toJson.toUtf8

/-- The bucket of bytes. -/
def ofUtf8? (s : Bytes) : Option Bucket := (Json.ofUtf8? s).bind ofJson?

end Sluice.Bucket
