import Sluice.Proofs.Message.Lossless
import Mathlib.Algebra.BigOperators.Group.List.Basic

/-!
# How long the bytes of a response are

The names of the fields take 91 bytes with the header of the map. The rest is what the values take.
Most of them can take so much and no more; a body takes at most two bytes for each of its own, and a
text takes its bytes.

* `MessagePack.length_toBytes_ofMembers` : named values take the bytes of the names and the values;
* `MessagePack.length_toBytes_ofNat_le` : a number takes nine bytes at most;
* `MessagePack.length_toBytes_ofOctets_le` : a row of bytes takes two for each of them at most;
* `Response.length_toBytes` : the names of a response, and its values;
* `Response.length_toBytes_le` : twice the body of a response, its text, and 256 bytes at most.
-/

namespace Sluice

namespace MessagePack

/-! ### Values -/

theorem length_naturalBytes_le (n : Nat) : (naturalBytes n).length ≤ 9 := by
  unfold naturalBytes
  split_ifs <;> simp

theorem length_toBytes_ofNat_le (n : Nat) : (toBytes (ofNat n)).length ≤ 9 := by
  rw [ofNat, toBytes]
  exact length_naturalBytes_le n

theorem length_textHeader_le (n : Nat) : (textHeader n).length ≤ 5 := by
  unfold textHeader
  split_ifs <;> simp

theorem length_arrayHeader_le (n : Nat) : (arrayHeader n).length ≤ 5 := by
  unfold arrayHeader
  split_ifs <;> simp

theorem length_toBytes_ofString_le (s : String) :
    (toBytes (ofString s)).length ≤ 5 + s.utf8ByteSize := by
  rw [ofString, toBytes, List.length_append, Utf8.length_ofString]
  exact Nat.add_le_add_right (length_textHeader_le _) _

theorem length_toBytes_octet_le (b : UInt8) : (toBytes (ofNat b.toNat)).length ≤ 2 := by
  have hb := b.toNat_lt
  rw [ofNat, toBytes, naturalBytes]
  split_ifs
  · exact Nat.le_succ 1
  · exact Nat.le_refl 2

theorem length_toBytes_ofOctets_le (s : Bytes) :
    (toBytes (ofOctets s)).length ≤ 5 + 2 * s.length := by
  have hitems : (itemBytes (s.map fun b => ofNat b.toNat)).length ≤ 2 * s.length := by
    induction s with
    | nil => exact Nat.le_refl 0
    | cons b s ih =>
      have hb := length_toBytes_octet_le b
      rw [List.map_cons, itemBytes, List.length_append, List.length_cons]
      omega
  rw [ofOctets, toBytes, List.length_append]
  exact Nat.add_le_add (length_arrayHeader_le _) hitems

theorem length_toBytes_ofOption_le_add {α : Type} {write : α → MessagePack} {size : α → Nat}
    {most : Nat} (hmost : 0 < most) (h : ∀ a, (toBytes (write a)).length ≤ most + size a)
    (o : Option α) : (toBytes (ofOption write o)).length ≤ most + o.elim 0 size := by
  cases o with
  | none => simpa [ofOption, toBytes] using Nat.succ_le_of_lt hmost
  | some a => exact h a

theorem length_toBytes_ofOption_le {α : Type} {write : α → MessagePack} {bound : Nat}
    (hbound : 0 < bound) (h : ∀ a, (toBytes (write a)).length ≤ bound) (o : Option α) :
    (toBytes (ofOption write o)).length ≤ bound := by
  have hadd : ∀ a, (toBytes (write a)).length ≤ bound + (fun _ => 0) a := h
  have hle := length_toBytes_ofOption_le_add hbound hadd o
  cases o <;> exact hle

theorem length_toBytes_ofMembers (ms : List (String × MessagePack)) :
    (toBytes (ofMembers ms)).length = (mapHeader ms.length).length +
      ((ms.map fun m => (toBytes (ofString m.1)).length).sum +
        (ms.map fun m => (toBytes m.2).length).sum) := by
  have hmembers : (memberBytes (ms.map fun m => (ofString m.1, m.2))).length =
      (ms.map fun m => (toBytes (ofString m.1)).length).sum +
        (ms.map fun m => (toBytes m.2).length).sum := by
    induction ms with
    | nil => simp [memberBytes]
    | cons m ms ih =>
      simp only [List.map_cons, memberBytes, List.length_append, ih, List.sum_cons]
      omega
  rw [ofMembers, toBytes, List.length_append, hmembers, List.length_map]

end MessagePack

open MessagePack

/-! ### Responses -/

theorem Snapshot.length_toBytes_le (s : Snapshot) :
    (MessagePack.toBytes s.toMessagePack).length ≤ 82 := by
  have hnames : (fields.map fun name => (MessagePack.toBytes (ofString name)).length).sum = 25 := by
    decide +kernel
  have hlimit := length_toBytes_ofNat_le s.limit.toNat
  have hremaining := length_toBytes_ofNat_le s.remaining.toNat
  have hreset := length_toBytes_ofString_le s.resetAt.text
  have htext := s.resetAt.utf8ByteSize_text_le
  rw [toMessagePack, length_toBytes_ofMembers]
  simp only [fields, List.map_cons, List.map_nil, List.sum_cons, List.sum_nil] at hnames ⊢
  -- The header of three pairs is one byte.
  change 1 + _ ≤ 82
  omega

namespace Response

/-- The number of bytes of the body, none if there is no body. -/
def payloadSize (r : Response) : Nat := r.payload.elim 0 List.length

/-- The number of bytes of what went wrong, none if nothing did. -/
def detailSize (r : Response) : Nat := r.detail.elim 0 String.utf8ByteSize

/-- **A response takes 91 bytes and those of its values.** -/
theorem length_toBytes (r : Response) :
    r.toBytes.length = 91 + (r.members.map fun m => (MessagePack.toBytes m.2).length).sum := by
  have hnames : (fields.map fun name => (MessagePack.toBytes (ofString name)).length).sum = 90 := by
    decide +kernel
  have hfields : r.members.map (fun m => (MessagePack.toBytes (ofString m.1)).length) =
      fields.map fun name => (MessagePack.toBytes (ofString name)).length := rfl
  have hmembers := length_toBytes_ofMembers r.members
  rw [hfields, hnames] at hmembers
  refine hmembers.trans ?_
  rw [← Nat.add_assoc]
  rfl

/-- **A response takes two bytes for each of its body, those of its text, and 256 at most.** -/
theorem length_toBytes_le (r : Response) :
    r.toBytes.length ≤ 2 * r.payloadSize + r.detailSize + 256 := by
  have hid : (MessagePack.toBytes (.bin r.id.bytes)).length = 18 := by
    simp [MessagePack.toBytes, bytesHeader, r.id.length_bytes]
  have hstatus : (MessagePack.toBytes (ofString r.status.name)).length ≤ 13 := by
    cases r.status <;> decide +kernel
  have hhttp := length_toBytes_ofOption_le (by decide)
    (fun n : UInt16 => length_toBytes_ofNat_le n.toNat) r.httpStatus
  have hpayload := length_toBytes_ofOption_le_add (by decide) length_toBytes_ofOctets_le r.payload
  have hdetail := length_toBytes_ofOption_le_add (by decide) length_toBytes_ofString_le r.detail
  have hretry := length_toBytes_ofOption_le (by decide)
    (fun n : UInt64 => length_toBytes_ofNat_le n.toNat) r.retryAfterMs
  have hsnapshot := length_toBytes_ofOption_le (by decide) Snapshot.length_toBytes_le r.snapshot
  have hsize : r.payload.elim 0 (fun s => 2 * s.length) = 2 * r.payloadSize := by
    rw [payloadSize]
    cases r.payload <;> rfl
  rw [hsize] at hpayload
  change _ ≤ 5 + r.detailSize at hdetail
  -- With every other field as long as it can be the sum comes to 232.
  rw [length_toBytes]
  simp only [members, List.map_cons, List.map_nil, List.sum_cons, List.sum_nil]
  omega

/-- A refused call without limits takes less than 280 bytes. -/
theorem length_toBytes_rateLimited_lt (id : Uuid) (hint : Option Duration) :
    (rateLimited id hint).toBytes.length < 280 := by
  have hle := length_toBytes_le (rateLimited id hint)
  have hpayload : (rateLimited id hint).payloadSize = 0 := rfl
  have hdetail : (rateLimited id hint).detailSize = 22 := rfl
  omega

end Response

end Sluice
