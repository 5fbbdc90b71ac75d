import Sluice.Proofs.Text.Utf8

/-!
# The order of texts

Texts are compared character by character. That is how their bytes compare: of two characters the
one with the smaller number has the smaller bytes, whatever follows either of them.

* `Utf8.encodeChar_lt` : the bytes of two characters;
* `Utf8.ofString_lt_iff` : the bytes of two texts.
-/

namespace Sluice.Utf8

theorem cons_lt {a b : Nat} {s t : Bytes} (ha : a < 256) (hb : b < 256)
    (h : a < b ∨ a = b ∧ s < t) : UInt8.ofNat a :: s < UInt8.ofNat b :: t := by
  rw [List.cons_lt_cons_iff, UInt8.lt_iff_toNat_lt, ← UInt8.toNat_inj, toNat_ofNat ha,
    toNat_ofNat hb]
  exact h

/-- **Of two characters the smaller one has the smaller bytes**, whatever follows. -/
theorem encodeChar_lt {c d : Char} (h : c < d) (r r' : Bytes) :
    String.utf8EncodeChar c ++ r < String.utf8EncodeChar d ++ r' := by
  have hlt : c.val.toNat < d.val.toNat := h
  have hd : d.val.toNat < 55296 ∨ 57343 < d.val.toNat ∧ d.val.toNat < 1114112 := toNat_char d
  unfold String.utf8EncodeChar
  generalize c.val.toNat = m at hlt
  generalize d.val.toNat = n at hlt hd
  dsimp only
  split_ifs
  all_goals simp only [List.cons_append, List.nil_append]
  -- A greater character has as many bytes or more; the first one tells how many, and decides then.
  all_goals try exact absurd hlt (by omega)
  all_goals try exact cons_lt (by omega) (by omega) (Or.inl (by omega))
  · have hdigits : m / 64 < n / 64 ∨ m / 64 = n / 64 ∧ m % 64 < n % 64 := by omega
    refine cons_lt (by omega) (by omega) (hdigits.imp (by omega) ?_)
    rintro ⟨hfirst, hlast⟩
    exact ⟨by omega, cons_lt (by omega) (by omega) (Or.inl (by omega))⟩
  · have hdigits : m / 4096 < n / 4096 ∨ m / 4096 = n / 4096 ∧
        (m / 64 % 64 < n / 64 % 64 ∨ m / 64 % 64 = n / 64 % 64 ∧ m % 64 < n % 64) := by omega
    refine cons_lt (by omega) (by omega) (hdigits.imp (by omega) ?_)
    rintro ⟨hfirst, hrest⟩
    refine ⟨by omega, cons_lt (by omega) (by omega) (hrest.imp (by omega) ?_)⟩
    rintro ⟨hsecond, hlast⟩
    exact ⟨by omega, cons_lt (by omega) (by omega) (Or.inl (by omega))⟩
  · have hdigits : m / 262144 < n / 262144 ∨ m / 262144 = n / 262144 ∧
        (m / 4096 % 64 < n / 4096 % 64 ∨ m / 4096 % 64 = n / 4096 % 64 ∧
          (m / 64 % 64 < n / 64 % 64 ∨ m / 64 % 64 = n / 64 % 64 ∧ m % 64 < n % 64)) := by omega
    refine cons_lt (by omega) (by omega) (hdigits.imp (by omega) ?_)
    rintro ⟨hfirst, hrest⟩
    refine ⟨by omega, cons_lt (by omega) (by omega) (hrest.imp (by omega) ?_)⟩
    rintro ⟨hsecond, hrest⟩
    refine ⟨by omega, cons_lt (by omega) (by omega) (hrest.imp (by omega) ?_)⟩
    rintro ⟨hthird, hlast⟩
    exact ⟨by omega, cons_lt (by omega) (by omega) (Or.inl (by omega))⟩

theorem encode_lt {cs ds : List Char} (h : cs < ds) : encode cs < encode ds := by
  have hpos (c : Char) : String.utf8EncodeChar c ≠ [] := by
    unfold String.utf8EncodeChar
    dsimp only
    split_ifs <;> exact List.cons_ne_nil _ _
  induction cs generalizing ds with
  | nil =>
    cases ds with
    | nil => cases h
    | cons d ds =>
      obtain ⟨b, s, hbs⟩ := List.exists_cons_of_ne_nil (hpos d)
      rw [encode, encode, List.flatMap_cons, hbs]
      exact List.nil_lt_cons _ _
  | cons c cs ih =>
    cases ds with
    | nil => cases h
    | cons d ds =>
      rw [encode, encode, List.flatMap_cons, List.flatMap_cons]
      rcases List.cons_lt_cons_iff.1 h with hcd | ⟨rfl, hrest⟩
      · exact encodeChar_lt hcd _ _
      · exact List.append_left_lt (ih hrest)

/-- **Texts are in the order of their bytes.** -/
theorem ofString_lt_iff {s t : String} : ofString s < ofString t ↔ s < t := by
  constructor
  · intro h
    rw [← String.not_le]
    intro hts
    rcases Std.le_iff_lt_or_eq.1 hts with hts | rfl
    · exact List.lt_asymm h (encode_lt hts)
    · exact List.lt_irrefl _ h
  · exact encode_lt

end Sluice.Utf8
