import Sluice.Quota.BucketText
import Sluice.Proofs.Message.Queued
import Sluice.Proofs.Time.Floor

/-!
# Buckets are read again

A bucket is what its JSON text is read as, but for the part of its window that is no whole number of
milliseconds.

* `Json.uint32?_ofNat`, `Json.uint64?_ofNat` : counts and milliseconds are read from their digits;
* `Bucket.ofJson?_toJson` : a bucket is read from its form, field by field;
* `Bucket.toJson_floor` : what is written of a window is its whole milliseconds;
* `Bucket.read_again` : all together, as bytes and as text.
-/

namespace Sluice

namespace Json

theorem natural?_ofNat {bound n : Nat} (h : n ≤ bound) : (ofNat n).natural? bound = some n := by
  simpa [natural?, ofNat, Numeral.ofNat, Numeral.natural?, Numeral.isWhole] using h

theorem uint32?_ofNat (n : UInt32) : (ofNat n.toNat).uint32? = some n := by
  rw [uint32?, natural?_ofNat (Nat.le_of_lt_succ n.toNat_lt), Option.map_some, Nat.toUInt32,
    UInt32.ofNat_toNat]

theorem uint64?_ofNat (n : UInt64) : (ofNat n.toNat).uint64? = some n := by
  rw [uint64?, natural?_ofNat (Nat.le_of_lt_succ n.toNat_lt), Option.map_some, Nat.toUInt64,
    UInt64.ofNat_toNat]

end Json

open Json

namespace Bucket

/-- The fields of a bucket, as they are written. -/
def members (b : Bucket) : Record Json :=
  [("bucket_id", ofString b.id), ("limit", ofNat b.limit.toNat),
    ("remaining", ofNat b.remaining.toNat), ("reset_at", b.resetAt.toJson),
    ("window", ofNat b.window.millis64.toNat), ("updated_at", b.updatedAt.toJson)]

/-- **A bucket is read from its form**; its window is read from 64 bits of milliseconds. -/
theorem ofJson?_toJson (b : Bucket) :
    ofJson? b.toJson = some { b with window := .ofMillis b.window.millis64 } := by
  have hrecord : record? fields b.toJson = some b.members :=
    record?_ofMembers fields rfl (fun _ h => h) (by decide)
  have hget : b.members.get? "bucket_id" = some (ofString b.id) ∧
      b.members.get? "limit" = some (ofNat b.limit.toNat) ∧
      b.members.get? "remaining" = some (ofNat b.remaining.toNat) ∧
      b.members.get? "reset_at" = some b.resetAt.toJson ∧
      b.members.get? "window" = some (ofNat b.window.millis64.toNat) ∧
      b.members.get? "updated_at" = some b.updatedAt.toJson :=
    ⟨rfl, rfl, rfl, rfl, rfl, rfl⟩
  obtain ⟨hget₁, hget₂, hget₃, hget₄, hget₅, hget₆⟩ := hget
  rw [ofJson?, bind_of_eq_some hrecord, bind_of_eq_some hget₁, bind_of_eq_some (text?_ofString _),
    bind_of_eq_some hget₂, bind_of_eq_some (uint32?_ofNat _), bind_of_eq_some hget₃,
    bind_of_eq_some (uint32?_ofNat _), bind_of_eq_some hget₄,
    bind_of_eq_some b.resetAt.ofJson?_toJson, bind_of_eq_some hget₅,
    bind_of_eq_some (uint64?_ofNat _), bind_of_eq_some hget₆,
    bind_of_eq_some b.updatedAt.ofJson?_toJson]
  rfl

theorem plain_toJson (b : Bucket) : Plain b.toJson := by
  refine .object ?_
  simp only [List.forall_mem_cons, List.not_mem_nil, false_implies, implies_true, and_true]
  exact ⟨.text _, .natural _, .natural _, .text _, .natural _, .text _⟩

theorem toJson_floor (b : Bucket) : toJson { b with window := b.window.floor } = b.toJson := by
  rw [toJson, toJson, Duration.millis64_floor]

/-- **A bucket is read from its JSON**, as bytes and as text, with its window cut down to whole
milliseconds, if these fit into 64 bits. So exactly the buckets with whole milliseconds come back as
they were, and whatever comes back is written in the same way again. -/
theorem read_again (b : Bucket) (hwindow : b.window.millis < 18446744073709551616) :
    ∃ c, ofUtf8? b.toUtf8 = some c ∧ (Json.ofText? b.toJson.text).bind ofJson? = some c ∧
      c = { b with window := b.window.floor } ∧ (c = b ↔ b.window.nanos % 1000000 = 0) ∧
      c.toUtf8 = b.toUtf8 ∧ c.toJson.text = b.toJson.text := by
  have hread := b.ofJson?_toJson
  rw [Duration.ofMillis_millis64 hwindow] at hread
  refine ⟨_, ?_, ?_, rfl, ?_, ?_, ?_⟩
  · rw [ofUtf8?, toUtf8, Json.ofUtf8?_toUtf8 b.plain_toJson, Option.bind_some, hread]
  · rw [Json.ofText?_text b.plain_toJson, Option.bind_some, hread]
  · rw [← Duration.floor_eq_iff]
    exact ⟨congrArg window, fun h => by rw [h]⟩
  · rw [toUtf8, toJson_floor, toUtf8]
  · rw [toJson_floor]

/-- A bucket with a quote and a control character in its name and the longest window, last changed in
a leap second before the year 0. -/
def extreme : Bucket where
  id := "a\"\\\x01𝄞"
  limit := 4294967295
  remaining := 4294967295
  resetAt := .latest
  window := .clamp (18446744073709551616 * 1000000 - 1)
  updatedAt := (Timestamp.ofParts? (-62167219201) 1999999999).getD .epoch

/-- The longest window loses almost a millisecond, and the leap second is kept. -/
theorem read_again_extreme : extreme.window.millis < 18446744073709551616 ∧
    ∃ c, ofUtf8? extreme.toUtf8 = some c ∧ c.updatedAt.isLeap = true ∧
      c.window = .ofMillis 18446744073709551615 ∧ c ≠ extreme := by
  have hwindow : extreme.window.millis < 18446744073709551616 := by decide
  obtain ⟨c, hread, -, hc, hiff, -⟩ := extreme.read_again hwindow
  refine ⟨hwindow, c, hread, by rw [hc]; rfl, by rw [hc]; rfl, fun h => ?_⟩
  exact absurd (hiff.1 h) (by decide)

end Bucket

end Sluice
