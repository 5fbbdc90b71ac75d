import Sluice.Text.Utf8
import Mathlib.Tactic.SplitIfs

/-!
# Text in UTF-8 is read again

* `Utf8.follow_cons` : a continuation byte adds its six bits;
* `Utf8.next_encodeChar` : the bytes of a character are read as that character, by their number;
* `Utf8.toString?_ofString` : the bytes of a text are read as that text;
* `Utf8.length_ofString`, `Utf8.length_encode_of_lt` : how many bytes they are, one for each
  character of ASCII.
-/

namespace Sluice.Utf8

theorem toNat_ofNat {n : Nat} (h : n < 256) : (UInt8.ofNat n).toNat = n :=
  UInt8.toNat_ofNat_of_lt' h

theorem continuation?_ofNat {bits : Nat} (h : bits < 64) :
    continuation? (UInt8.ofNat (bits + 128)) = some bits := by
  unfold continuation?
  rw [toNat_ofNat (by omega), if_pos (by omega), Nat.add_sub_cancel]

theorem follow_cons {k acc lo hi bits : Nat} (h : bits < 64) (hlo : lo ≤ bits + 128)
    (hhi : bits + 128 ≤ hi) (r : Bytes) :
    follow (k + 1) acc lo hi (UInt8.ofNat (bits + 128) :: r) =
      follow k (acc * 64 + bits) 128 191 r := by
  rw [follow]
  simp only [continuation?_ofNat h]
  rw [toNat_ofNat (by omega), if_pos ⟨hlo, hhi⟩]

/-- A continuation byte whose value is not restricted further. -/
theorem follow_tail {k acc bits : Nat} (h : bits < 64) (r : Bytes) :
    follow (k + 1) acc 128 191 (UInt8.ofNat (bits + 128) :: r) =
      follow k (acc * 64 + bits) 128 191 r := follow_cons h (by omega) (by omega) r

/-- The characters are the numbers below 1114112 without the surrogates. -/
theorem toNat_char (c : Char) : c.toNat < 55296 ∨ 57343 < c.toNat ∧ c.toNat < 1114112 := c.valid

theorem next_of_lead? {b : UInt8} {k bits lo hi : Nat} (h : 128 ≤ b.toNat)
    (hb : lead? b = some (k, bits, lo, hi)) (r : Bytes) : next b r = follow k bits lo hi r := by
  unfold next
  rw [if_neg (by omega), hb]

/-! ### Characters by the number of their bytes -/

theorem next_one {v : Nat} (h : v ≤ 127) (r : Bytes) :
    next (UInt8.ofNat v) r = (some (Char.ofNat v), r) := by
  unfold next
  rw [toNat_ofNat (by omega), if_pos (by omega)]

theorem next_two {v : Nat} (h : 127 < v) (h' : v ≤ 2047) (r : Bytes) :
    next (UInt8.ofNat (v / 64 % 32 + 192)) (UInt8.ofNat (v % 64 + 128) :: r) =
      (some (Char.ofNat v), r) := by
  have hb := toNat_ofNat (n := v / 64 % 32 + 192) (by omega)
  obtain ⟨bits, hlead, hbits⟩ : ∃ bits,
      lead? (UInt8.ofNat (v / 64 % 32 + 192)) = some (1, bits, 128, 191) ∧ bits = v / 64 := by
    unfold lead?
    rw [hb]
    dsimp only
    rw [if_pos (by omega)]
    exact ⟨_, rfl, by omega⟩
  rw [next_of_lead? (by omega) hlead, follow_tail (by omega), follow, hbits]
  congr 3
  omega

theorem next_three {v : Nat} (h : 2047 < v) (h' : v ≤ 65535) (hv : v < 55296 ∨ 57343 < v)
    (r : Bytes) :
    next (UInt8.ofNat (v / 4096 % 16 + 224))
      (UInt8.ofNat (v / 64 % 64 + 128) :: UInt8.ofNat (v % 64 + 128) :: r) =
      (some (Char.ofNat v), r) := by
  have hb := toNat_ofNat (n := v / 4096 % 16 + 224) (by omega)
  -- The first bytes 224 and 237 keep out what has a shorter form and the surrogates.
  obtain ⟨bits, lo, hi, hlead, hbits, hlo, hhi⟩ : ∃ bits lo hi,
      lead? (UInt8.ofNat (v / 4096 % 16 + 224)) = some (2, bits, lo, hi) ∧ bits = v / 4096 ∧
        lo ≤ v / 64 % 64 + 128 ∧ v / 64 % 64 + 128 ≤ hi := by
    unfold lead?
    rw [hb]
    dsimp only
    rw [if_neg (by omega)]
    split_ifs with h0 hd hm
    · exact ⟨_, _, _, rfl, by omega, by omega, by omega⟩
    · exact ⟨_, _, _, rfl, by omega, by omega, by omega⟩
    · exact ⟨_, _, _, rfl, by omega, by omega, by omega⟩
    all_goals omega
  rw [next_of_lead? (by omega) hlead, follow_cons (by omega) hlo hhi, follow_tail (by omega), follow,
    hbits]
  congr 3
  omega

theorem next_four {v : Nat} (h : 65535 < v) (h' : v < 1114112) (r : Bytes) :
    next (UInt8.ofNat (v / 262144 % 8 + 240)) (UInt8.ofNat (v / 4096 % 64 + 128) ::
      UInt8.ofNat (v / 64 % 64 + 128) :: UInt8.ofNat (v % 64 + 128) :: r) =
      (some (Char.ofNat v), r) := by
  have hb := toNat_ofNat (n := v / 262144 % 8 + 240) (by omega)
  -- The first bytes 240 and 244 keep out what has a shorter form and what is no character.
  obtain ⟨bits, lo, hi, hlead, hbits, hlo, hhi⟩ : ∃ bits lo hi,
      lead? (UInt8.ofNat (v / 262144 % 8 + 240)) = some (3, bits, lo, hi) ∧ bits = v / 262144 ∧
        lo ≤ v / 4096 % 64 + 128 ∧ v / 4096 % 64 + 128 ≤ hi := by
    unfold lead?
    rw [hb]
    dsimp only
    rw [if_neg (by omega), if_neg (by omega), if_neg (by omega), if_neg (by omega)]
    split_ifs with h0 hm h4
    · exact ⟨_, _, _, rfl, by omega, by omega, by omega⟩
    · exact ⟨_, _, _, rfl, by omega, by omega, by omega⟩
    · exact ⟨_, _, _, rfl, by omega, by omega, by omega⟩
    · omega
  rw [next_of_lead? (by omega) hlead, follow_cons (by omega) hlo hhi, follow_tail (by omega),
    follow_tail (by omega), follow, hbits]
  congr 3
  omega

/-! ### Texts -/

/-- **The bytes of a character are read as that character**, whatever follows them. -/
theorem scan_encodeChar (c : Char) (r : Bytes) :
    scan (String.utf8EncodeChar c ++ r) = some c :: scan r := by
  have hv := toNat_char c
  have hc : Char.ofNat c.toNat = c := Char.ofNat_toNat c
  unfold String.utf8EncodeChar
  change c.val.toNat < 55296 ∨ 57343 < c.val.toNat ∧ c.val.toNat < 1114112 at hv
  change Char.ofNat c.val.toNat = c at hc
  generalize c.val.toNat = v at hv hc
  dsimp only
  split_ifs with h1 h2 h3
  · rw [List.singleton_append, scan, next_one h1, hc]
  · simp only [List.cons_append, List.nil_append]
    rw [scan, next_two (by omega) h2, hc]
  · simp only [List.cons_append, List.nil_append]
    rw [scan, next_three (by omega) h3 (by omega), hc]
  · simp only [List.cons_append, List.nil_append]
    rw [scan, next_four (by omega) (by omega), hc]

theorem scan_encode (cs : List Char) : scan (encode cs) = cs.map some := by
  unfold encode
  induction cs with
  | nil => rw [List.flatMap_nil, scan, List.map_nil]
  | cons c cs ih => rw [List.flatMap_cons, scan_encodeChar, ih, List.map_cons]

theorem mapM_map_some (cs : List Char) : (cs.map some).mapM id = some cs := by
  induction cs with
  | nil => rfl
  | cons c cs ih =>
    rw [List.map_cons, List.mapM_cons, ih]
    rfl

theorem decode?_encode (cs : List Char) : decode? (encode cs) = some cs := by
  rw [decode?, scan_encode, mapM_map_some]

/-- **The bytes of a text are read as that text.** -/
theorem toString?_ofString (s : String) : toString? (ofString s) = some s := by
  rw [toString?, ofString, decode?_encode, Option.map_some, String.ofList_toList]

/-! ### Lengths -/

theorem length_ofString (s : String) : (ofString s).length = s.utf8ByteSize := by
  rw [← String.size_toByteArray, ← String.utf8Encode_toList, List.utf8Encode,
    List.size_toByteArray]
  rfl

/-- Characters of ASCII take a byte each. -/
theorem length_encode_of_lt {cs : List Char} (h : ∀ c ∈ cs, c.toNat < 128) :
    (encode cs).length = cs.length := by
  unfold encode
  induction cs with
  | nil => rfl
  | cons c cs ih =>
    rw [List.forall_mem_cons] at h
    have hone : c.utf8Size = 1 := Char.utf8Size_eq_one_iff.2 (Nat.le_of_lt_succ h.1)
    rw [List.flatMap_cons, List.length_append, String.length_utf8EncodeChar, hone, ih h.2,
      List.length_cons, Nat.add_comm]

end Sluice.Utf8
