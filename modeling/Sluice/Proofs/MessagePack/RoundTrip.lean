import Sluice.MessagePack.Printer
import Sluice.MessagePack.Reader
import Mathlib.Algebra.Group.Nat.Defs
import Mathlib.Tactic.SplitIfs

/-!
# Written MessagePack values are read again

Messages are made of nil, truth values, natural numbers of 64 bits, texts, bytes, rows and maps,
nested to some depth: `MessagePack.Plain`. Such a value is read from its bytes whatever follows
them, as long as every number that counts something fits into the four bytes of the longest header.

* `MessagePack.bigEndian_bigEndianBytes` : the bytes of a number that fits stand for it;
* `MessagePack.readValue_naturalBytes` and its like : a header of any size is read as what it
  counts;
* `MessagePack.readValue_toBytes` : a plain value is read from its bytes.
-/

namespace Sluice.MessagePack

variable {d n : Nat} {rest : Bytes}

/-! ### Numbers in bytes -/

@[simp] theorem length_bigEndianBytes (width n : Nat) :
    (bigEndianBytes width n).length = width := by
  induction width with
  | zero => rfl
  | succ width ih => rw [bigEndianBytes, List.length_cons, ih]

theorem foldl_bigEndianBytes (width n acc : Nat) :
    (bigEndianBytes width n).foldl (fun acc b => acc * 256 + b.toNat) acc =
      acc * 256 ^ width + n % 256 ^ width := by
  induction width generalizing acc with
  | zero => simp [bigEndianBytes, Nat.mod_one]
  | succ width ih =>
    have hbyte : (n / Nat.pow 256 width).toUInt8.toNat = n / 256 ^ width % 256 :=
      UInt8.toNat_ofNat'
    rw [bigEndianBytes, List.foldl_cons, ih, hbyte, Nat.pow_succ, Nat.mod_mul, Nat.add_mul,
      Nat.mul_assoc, Nat.mul_comm 256, Nat.mul_comm (_ % 256)]
    omega

theorem bigEndian_bigEndianBytes {width : Nat} (h : n < 256 ^ width) :
    bigEndian (bigEndianBytes width n) = n := by
  rw [bigEndian, foldl_bigEndianBytes, Nat.zero_mul, Nat.zero_add, Nat.mod_eq_of_lt h]

theorem split?_append {front : Bytes} (h : front.length = n) :
    split? n (front ++ rest) = some (front, rest) := by
  subst h
  simp [split?]

theorem unsigned?_append {width : Nat} (h : n < 256 ^ width) :
    unsigned? width (bigEndianBytes width n ++ rest) = some (n, rest) := by
  rw [unsigned?, split?_append (length_bigEndianBytes width n), Option.map_some]
  dsimp only
  rw [bigEndian_bigEndianBytes h]

theorem sized?_append {width : Nat} {s : Bytes} (h : s.length < 256 ^ width) :
    sized? width (bigEndianBytes width s.length ++ (s ++ rest)) = some (s, rest) := by
  rw [sized?, unsigned?_append h]
  exact split?_append rfl

/-! ### Headers -/

theorem toNat_toUInt8 (h : n < 256) : n.toUInt8.toNat = n := UInt8.toNat_ofNat_of_lt' h

theorem head_number (h : n < 128) : head n.toUInt8 = .value (.uint n) := by
  unfold head
  rw [toNat_toUInt8 (by omega), if_pos (by omega)]

theorem head_map (h : n < 16) : head (0x80 + n).toUInt8 = .map n := by
  unfold head
  rw [toNat_toUInt8 (by omega)]
  dsimp only
  rw [if_neg (by omega), if_pos (by omega), Nat.add_sub_cancel_left]

theorem head_array (h : n < 16) : head (0x90 + n).toUInt8 = .array n := by
  unfold head
  rw [toNat_toUInt8 (by omega)]
  dsimp only
  rw [if_neg (by omega), if_neg (by omega), if_pos (by omega), Nat.add_sub_cancel_left]

theorem head_text (h : n < 32) : head (0xa0 + n).toUInt8 = .text n := by
  unfold head
  rw [toNat_toUInt8 (by omega)]
  dsimp only
  rw [if_neg (by omega), if_neg (by omega), if_neg (by omega), if_pos (by omega),
    Nat.add_sub_cancel_left]

theorem readValue_naturalBytes (h : n < 18446744073709551616) :
    readValue (d + 1) (naturalBytes n ++ rest) = some (.uint n, rest) := by
  unfold naturalBytes
  split_ifs with h7 h8 h16 h32
  · rw [List.singleton_append, readValue, head_number h7]
  all_goals
    rw [List.cons_append, readValue]
    exact congrArg (Option.map _) (unsigned?_append (by omega))

theorem readValue_textHeader {s : Bytes} (h : s.length < 4294967296) :
    readValue (d + 1) (textHeader s.length ++ (s ++ rest)) = some (.str s, rest) := by
  unfold textHeader
  split_ifs with h5 h8 h16
  · rw [List.singleton_append, readValue, head_text h5]
    exact congrArg (Option.map _) (split?_append rfl)
  all_goals
    rw [List.cons_append, readValue]
    exact congrArg (Option.map _) (sized?_append (by omega))

theorem readValue_bytesHeader {s : Bytes} (h : s.length < 4294967296) :
    readValue (d + 1) (bytesHeader s.length ++ (s ++ rest)) = some (.bin s, rest) := by
  unfold bytesHeader
  split_ifs with h8 h16
  all_goals
    rw [List.cons_append, readValue]
    exact congrArg (Option.map _) (sized?_append (by omega))

theorem readValue_arrayHeader (h : n < 4294967296) :
    readValue (d + 2) (arrayHeader n ++ rest) =
      (readItems (readValue (d + 1)) n rest).map fun (vs, r) => (.array vs, r) := by
  unfold arrayHeader
  split_ifs with h4 h16
  · rw [List.singleton_append, readValue, head_array h4]
    exact if_neg (Nat.succ_ne_zero d)
  all_goals
    rw [List.cons_append, readValue]
    refine (if_neg (Nat.succ_ne_zero d)).trans ?_
    rw [unsigned?_append (by omega), Option.bind_some]

theorem readValue_mapHeader (h : n < 4294967296) :
    readValue (d + 2) (mapHeader n ++ rest) =
      (readMembers (readValue (d + 1)) n rest).map fun (ms, r) => (.map ms, r) := by
  unfold mapHeader
  split_ifs with h4 h16
  · rw [List.singleton_append, readValue, head_map h4]
    exact if_neg (Nat.succ_ne_zero d)
  all_goals
    rw [List.cons_append, readValue]
    refine (if_neg (Nat.succ_ne_zero d)).trans ?_
    rw [unsigned?_append (by omega), Option.bind_some]

/-! ### Rows -/

theorem readItems_itemBytes {value : Bytes → Option (MessagePack × Bytes)}
    {items : List MessagePack}
    (h : ∀ v ∈ items, ∀ rest, value (toBytes v ++ rest) = some (v, rest)) :
    readItems value items.length (itemBytes items ++ rest) = some (items, rest) := by
  induction items with
  | nil =>
    rw [itemBytes]
    rfl
  | cons v vs ih =>
    rw [List.forall_mem_cons] at h
    simp [itemBytes, readItems, h.1, ih h.2]

theorem readMembers_memberBytes {value : Bytes → Option (MessagePack × Bytes)}
    {ms : List (MessagePack × MessagePack)}
    (hkey : ∀ m ∈ ms, ∀ rest, value (toBytes m.1 ++ rest) = some (m.1, rest))
    (hvalue : ∀ m ∈ ms, ∀ rest, value (toBytes m.2 ++ rest) = some (m.2, rest)) :
    readMembers value ms.length (memberBytes ms ++ rest) = some (ms, rest) := by
  induction ms with
  | nil =>
    rw [memberBytes]
    rfl
  | cons m ms ih =>
    rw [List.forall_mem_cons] at hkey hvalue
    simp [memberBytes, readMembers, hkey.1, hvalue.1, ih hkey.2 hvalue.2]

/-! ### Lengths -/

theorem length_naturalBytes_pos (n : Nat) : 0 < (naturalBytes n).length := by
  unfold naturalBytes
  split_ifs <;> exact Nat.succ_pos _

theorem length_negativeBytes_pos (n : Int) : 0 < (negativeBytes n).length := by
  unfold negativeBytes
  split_ifs <;> exact Nat.succ_pos _

theorem length_toBytes_pos (v : MessagePack) : 0 < (toBytes v).length := by
  cases v with
  | nil | float | ext => decide
  | bool b => cases b <;> decide
  | uint n => exact length_naturalBytes_pos n
  | int n =>
    rw [toBytes]
    split_ifs
    · exact length_naturalBytes_pos _
    · exact length_negativeBytes_pos n
  | str s =>
    rw [toBytes, textHeader]
    split_ifs <;> exact Nat.succ_pos _
  | bin s =>
    rw [toBytes, bytesHeader]
    split_ifs <;> exact Nat.succ_pos _
  | array items =>
    rw [toBytes, arrayHeader]
    split_ifs <;> exact Nat.succ_pos _
  | map ms =>
    rw [toBytes, mapHeader]
    split_ifs <;> exact Nat.succ_pos _

theorem length_le_length_itemBytes (items : List MessagePack) :
    items.length ≤ (itemBytes items).length := by
  induction items with
  | nil => exact Nat.zero_le _
  | cons v vs ih =>
    have := length_toBytes_pos v
    rw [itemBytes, List.length_append, List.length_cons]
    omega

theorem length_toBytes_le_of_mem {v : MessagePack} {items : List MessagePack} (h : v ∈ items) :
    (toBytes v).length ≤ (itemBytes items).length := by
  induction items with
  | nil => cases h
  | cons u us ih =>
    rw [itemBytes, List.length_append]
    rcases List.mem_cons.1 h with rfl | h
    · omega
    · have := ih h
      omega

theorem length_le_length_memberBytes (ms : List (MessagePack × MessagePack)) :
    ms.length ≤ (memberBytes ms).length := by
  induction ms with
  | nil => exact Nat.zero_le _
  | cons m ms ih =>
    have := length_toBytes_pos m.1
    rw [memberBytes, List.length_append, List.length_append, List.length_cons]
    omega

theorem length_toBytes_add_le_of_mem {m : MessagePack × MessagePack}
    {ms : List (MessagePack × MessagePack)} (h : m ∈ ms) :
    (toBytes m.1).length + (toBytes m.2).length ≤ (memberBytes ms).length := by
  induction ms with
  | nil => cases h
  | cons u us ih =>
    rw [memberBytes, List.length_append, List.length_append]
    rcases List.mem_cons.1 h with rfl | h
    · omega
    · have := ih h
      omega

/-! ### Values -/

/-- A value that messages are made of, nested less than some number deep. -/
inductive Plain : Nat → MessagePack → Prop
  | nil {d : Nat} : Plain (d + 1) .nil
  | bool {d : Nat} (b : Bool) : Plain (d + 1) (.bool b)
  | uint {d n : Nat} (lt : n < 18446744073709551616) : Plain (d + 1) (.uint n)
  | str {d : Nat} (s : Bytes) : Plain (d + 1) (.str s)
  | bin {d : Nat} (s : Bytes) : Plain (d + 1) (.bin s)
  | array {d : Nat} {items : List MessagePack} (plain : ∀ v ∈ items, Plain (d + 1) v) :
    Plain (d + 2) (.array items)
  | map {d : Nat} {ms : List (MessagePack × MessagePack)} (keys : ∀ m ∈ ms, Plain (d + 1) m.1)
    (values : ∀ m ∈ ms, Plain (d + 1) m.2) : Plain (d + 2) (.map ms)

/-- **A plain value is read from its bytes**, whatever follows them. -/
theorem readValue_toBytes {v : MessagePack} (h : Plain d v) (hlt : (toBytes v).length < 4294967296)
    (rest : Bytes) : readValue d (toBytes v ++ rest) = some (v, rest) := by
  -- Induction on how deep the value is. Every part of it is shorter than the whole, so the bound on
  -- the length goes down with it.
  induction h generalizing rest with
  | nil => rw [toBytes]; rfl
  | bool b => cases b <;> rw [toBytes] <;> rfl
  | uint lt => rw [toBytes, readValue_naturalBytes lt]
  | str s =>
    rw [toBytes, List.length_append] at hlt
    rw [toBytes, List.append_assoc, readValue_textHeader (by omega)]
  | bin s =>
    rw [toBytes, List.length_append] at hlt
    rw [toBytes, List.append_assoc, readValue_bytesHeader (by omega)]
  | @array d items _ ih =>
    rw [toBytes, List.length_append] at hlt
    have hcount := length_le_length_itemBytes items
    have hitems : ∀ v ∈ items, ∀ rest, readValue (d + 1) (toBytes v ++ rest) = some (v, rest) := by
      intro v hv
      have := length_toBytes_le_of_mem hv
      exact ih v hv (by omega)
    rw [toBytes, List.append_assoc, readValue_arrayHeader (by omega), readItems_itemBytes hitems]
    rfl
  | @map d ms _ _ ihkey ihvalue =>
    rw [toBytes, List.length_append] at hlt
    have hcount := length_le_length_memberBytes ms
    have hle {m : MessagePack × MessagePack} (hm : m ∈ ms) := length_toBytes_add_le_of_mem hm
    have hkeys : ∀ m ∈ ms, ∀ rest, readValue (d + 1) (toBytes m.1 ++ rest) = some (m.1, rest) := by
      intro m hm
      have := hle hm
      exact ihkey m hm (by omega)
    have hvalues : ∀ m ∈ ms, ∀ rest,
        readValue (d + 1) (toBytes m.2 ++ rest) = some (m.2, rest) := by
      intro m hm
      have := hle hm
      exact ihvalue m hm (by omega)
    rw [toBytes, List.append_assoc, readValue_mapHeader (by omega),
      readMembers_memberBytes hkeys hvalues]
    rfl

end Sluice.MessagePack
