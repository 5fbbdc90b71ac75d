import Sluice.Quota.Bucket
import Mathlib.Tactic.SplitIfs

/-!
# A bucket in its window

What taking units does to a bucket, field by field.

* `Bucket.left` : the units that a call finds, all of them if the window is over;
* `Bucket.take_fst` : the answer, a grant as soon as enough units are left;
* `Bucket.take_remaining`, `Bucket.take_resetAt` : what is taken, and the end of the window.
-/

namespace Sluice

namespace Bucket

/-- The units left for a call: all of them if the window is over by then. -/
def left (b : Bucket) (now : Timestamp) : UInt32 := if now < b.resetAt then b.remaining else b.limit

variable (b : Bucket) (cost : UInt32) (now : Timestamp)

theorem isOver_iff : b.isOver now = true ↔ ¬ now < b.resetAt := by simp [isOver]

/-! ### Rolling -/

@[simp] theorem roll_id : (b.roll now).id = b.id := by
  unfold roll
  split_ifs <;> rfl

@[simp] theorem roll_limit : (b.roll now).limit = b.limit := by
  unfold roll
  split_ifs <;> rfl

@[simp] theorem roll_window : (b.roll now).window = b.window := by
  unfold roll
  split_ifs <;> rfl

@[simp] theorem roll_remaining : (b.roll now).remaining = b.left now := by
  unfold roll left
  split_ifs with h h' h'
  · exact absurd h' ((isOver_iff b now).1 h)
  · rfl
  · rfl
  · exact absurd ((isOver_iff b now).2 h') h

theorem roll_resetAt : (b.roll now).resetAt =
    if now < b.resetAt then b.resetAt else windowEnd now b.window := by
  unfold roll
  split_ifs with h h' h'
  · exact absurd h' ((isOver_iff b now).1 h)
  · rfl
  · rfl
  · exact absurd ((isOver_iff b now).2 h') h

/-! ### Taking -/

theorem take_eq : b.take cost now = if cost ≤ b.left now
    then (.granted (b.left now - cost),
      { b.roll now with remaining := b.left now - cost, updatedAt := now })
    else (.denied ((b.roll now).resetAt.since now), b.roll now) := by
  unfold take
  simp only [roll_remaining]

/-- **The answer to a request for units.** -/
theorem take_fst : (b.take cost now).1 = if cost ≤ b.left now
    then .granted (b.left now - cost) else .denied ((b.roll now).resetAt.since now) := by
  rw [take_eq]
  split_ifs <;> rfl

@[simp] theorem take_id : (b.take cost now).2.id = b.id := by
  rw [take_eq]
  split_ifs <;> simp

@[simp] theorem take_limit : (b.take cost now).2.limit = b.limit := by
  rw [take_eq]
  split_ifs <;> simp

@[simp] theorem take_window : (b.take cost now).2.window = b.window := by
  rw [take_eq]
  split_ifs <;> simp

@[simp] theorem take_resetAt : (b.take cost now).2.resetAt = (b.roll now).resetAt := by
  rw [take_eq]
  split_ifs <;> rfl

/-- A fresh bucket stays in its first window, or starts it once more. -/
theorem take_fresh_resetAt (id : String) (limits : Limits) :
    ((Bucket.fresh id limits now).take cost now).2.resetAt = windowEnd now limits.window := by
  rw [take_resetAt, roll_resetAt]
  split_ifs <;> rfl

theorem take_remaining : (b.take cost now).2.remaining =
    if cost ≤ b.left now then b.left now - cost else b.left now := by
  rw [take_eq]
  split_ifs <;> simp

theorem take_updatedAt :
    (b.take cost now).2.updatedAt = now ∨ (b.take cost now).2.updatedAt = b.updatedAt := by
  rw [take_eq]
  unfold roll
  split_ifs <;> simp

/-- Units that are taken and units that are left add up. -/
theorem toNat_left (h : cost ≤ b.left now) :
    cost.toNat + (b.left now - cost).toNat = (b.left now).toNat := by
  rw [UInt32.toNat_sub_of_le _ _ h]
  have := UInt32.le_iff_toNat_le.1 h
  omega

/-- A request for a unit moves a unit from those left to those granted. -/
theorem granted_add_remaining (count : Nat) :
    (count + if 1 ≤ b.left now then 1 else 0) + (b.take 1 now).2.remaining.toNat =
      count + (b.left now).toNat := by
  rw [take_remaining]
  split_ifs with h
  · have hsplit := b.toNat_left 1 now h
    have hone : (1 : UInt32).toNat = 1 := rfl
    omega
  · rfl

theorem left_le (h : b.remaining ≤ b.limit) : b.left now ≤ b.limit := by
  unfold left
  split_ifs
  · exact h
  · exact UInt32.le_refl _

end Bucket

end Sluice
