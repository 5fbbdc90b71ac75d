import Sluice.Proofs.Number.Shortest
import Sluice.Toml.Printer

/-!
# Numbers of TOML are read as they were written

* `Toml.readNumber?_whole` : a whole number of 64 bits with a sign;
* `Toml.readNumber?_real` : a finite floating point number, from its shortest decimal.

Both stand at the end of a line.
-/

namespace Sluice.Toml

open Binary64 (Leading)

variable {c : Char} {ds ws ps r : List Char}

/-! ### Digits -/

/-- A character that ends a row of digits. -/
def EndsDigits (c : Char) : Prop := c.isDigit = false ∧ c ≠ '_'

theorem digits?_append (hds : ∀ d ∈ ds, d.isDigit) (hne : ds ≠ []) (hc : EndsDigits c) :
    digits? Char.isDigit (ds ++ c :: r) = some (ds, c :: r) := by
  induction ds with
  | nil => exact absurd rfl hne
  | cons d ds ih =>
    rw [List.forall_mem_cons] at hds
    cases ds with
    | nil =>
      change digits? Char.isDigit (d :: c :: r) = _
      rw [digits?, hds.1, hc.1]
      · rfl
      · exact hc.2
    | cons d' ds =>
      have hd' : d'.isDigit := hds.2 d' List.mem_cons_self
      have hnext := ih hds.2 (List.cons_ne_nil _ _)
      change digits? Char.isDigit (d :: d' :: (ds ++ c :: r)) = _
      rw [digits?, hds.1, hd']
      · exact congrArg (after d) hnext
      · rintro rfl
        exact absurd hd' (by decide)

/-- Digits that stand in front of a point or of the end of a number. -/
theorem leading?_append (h : Leading ws) (hc : EndsDigits c) :
    leading? (ws ++ c :: r) = some (ws, c :: r) := by
  rcases h.trimmed with rfl | hhead
  · rfl
  · rw [leading?]
    · exact digits?_append h.digits h.nonempty hc
    · intro r' heq
      have hfirst : (ws ++ c :: r).head? = ws.head? := List.head?_append_of_ne_nil _ h.nonempty
      rw [← hfirst, heq] at hhead
      exact hhead rfl

theorem endsDigits_point : EndsDigits '.' := ⟨rfl, by decide⟩

theorem endsDigits_break : EndsDigits '\n' := ⟨rfl, by decide⟩

theorem decimal?_whole (negative : Bool) (h : Leading ws) :
    decimal? negative (ws ++ '\n' :: r) =
      (whole? negative (Digits.value ws)).map (·, '\n' :: r) := by
  rw [decimal?, leading?_append h endsDigits_break]
  change (whole? negative (Digits.value ws)).bind _ = _
  cases whole? negative (Digits.value ws) <;> rfl

theorem decimal?_fraction (negative : Bool) (h : Leading ws) (hps : ∀ d ∈ ps, d.isDigit)
    (hne : ps ≠ []) : decimal? negative (ws ++ '.' :: ps ++ '\n' :: r) =
      (real? negative (ws ++ ps) (-(ps.length : Int))).map (·, '\n' :: r) := by
  have hplaces : places? ('.' :: (ps ++ '\n' :: r)) = some (some ps, '\n' :: r) := by
    rw [places?, digits?_append hps hne endsDigits_break]
    rfl
  rw [List.append_assoc, List.cons_append, decimal?, leading?_append h endsDigits_point]
  simp only [Option.bind_eq_bind, Option.bind_some, hplaces, ← zero_sub]
  change (real? negative (ws ++ ps) (0 - (ps.length : Int))).bind _ = _
  cases real? negative (ws ++ ps) (0 - (ps.length : Int)) <;> rfl

/-! ### No dates -/

/-- Digits and what ends them are not taken for the beginning of a date or a time. -/
theorem digits_then (hds : ∀ d ∈ ds, d.isDigit) (hc : c.isDigit = false) {q : Char}
    (hq : q.isDigit = false) (hcq : c ≠ q) (k : Nat) :
    (((ds ++ c :: r).take k).all Char.isDigit && (((ds ++ c :: r).drop k).head? == some q)) =
      false := by
  induction ds generalizing k with
  | nil =>
    cases k with
    | zero => simpa using hcq
    | succ k => simp [hc]
  | cons d ds ih =>
    rw [List.forall_mem_cons] at hds
    cases k with
    | zero =>
      have : d ≠ q := by
        rintro rfl
        simp [hds.1] at hq
      simpa using this
    | succ k => simpa [hds.1] using ih hds.2 k

/-- Characters that may follow the digits in front of a point. -/
def EndsWhole (c : Char) : Prop := c = '.' ∨ c = '\n'

theorem isDate_append (hds : ∀ d ∈ ds, d.isDigit) (hc : EndsWhole c) :
    isDate (ds ++ c :: r) = false := by
  rcases hc with rfl | rfl <;> exact digits_then hds rfl rfl (by decide) 4

theorem isTime_append (hds : ∀ d ∈ ds, d.isDigit) (hc : EndsWhole c) :
    isTime (ds ++ c :: r) = false := by
  rcases hc with rfl | rfl <;> exact digits_then hds rfl rfl (by decide) 2

/-- Digits and what ends them begin with a digit, and another digit or the end follows. -/
theorem append_ne_cons (h : Leading ws) (hc : EndsWhole c) :
    (∀ d s, d.isDigit = false → ws ++ c :: r ≠ d :: s) ∧
      ∀ b d s, d.isDigit = false → d ≠ '.' → d ≠ '\n' → ws ++ c :: r ≠ b :: d :: s := by
  obtain ⟨w, ws, rfl⟩ := List.exists_cons_of_ne_nil h.nonempty
  refine ⟨fun d s hd heq => ?_, fun b d s hd hpoint hbreak heq => ?_⟩
  · rw [List.cons_append, List.cons.injEq] at heq
    exact absurd (h.digits w List.mem_cons_self) (by simp [heq.1, hd])
  · rw [List.cons_append, List.cons.injEq] at heq
    cases ws with
    | nil =>
      obtain rfl : c = d := (List.cons.inj heq.2).1
      exact hc.elim hpoint hbreak
    | cons w' ws =>
      have hw' := h.digits w' (by simp)
      rw [List.cons_append, List.cons.injEq] at heq
      simp [heq.2.1, hd] at hw'

theorem readNumber?_digits (h : Leading ws) (hc : EndsWhole c) :
    readNumber? (ws ++ c :: r) = decimal? false (ws ++ c :: r) := by
  obtain ⟨hfirst, hsecond⟩ := append_ne_cons (r := r) h hc
  rw [readNumber?, isDate_append h.digits hc, isTime_append h.digits hc, signed?]
  · rfl
  · exact fun s => hfirst 'i' _ (by decide)
  · exact fun s => hfirst 'n' _ (by decide)
  · exact fun s => hsecond '0' 'x' s (by decide) (by decide) (by decide)
  · exact fun s => hsecond '0' 'o' s (by decide) (by decide) (by decide)
  · exact fun s => hsecond '0' 'b' s (by decide) (by decide) (by decide)
  · exact fun s => hfirst '-' s (by decide)
  · exact fun s => hfirst '+' s (by decide)

theorem readNumber?_minus (h : Leading ws) (hc : EndsWhole c) :
    readNumber? ('-' :: (ws ++ c :: r)) = decimal? true (ws ++ c :: r) := by
  obtain ⟨hfirst, -⟩ := append_ne_cons (r := r) h hc
  have hsigned : readNumber? ('-' :: (ws ++ c :: r)) = signed? true (ws ++ c :: r) := rfl
  rw [hsigned, signed?]
  · exact fun s => hfirst 'i' _ (by decide)
  · exact fun s => hfirst 'n' _ (by decide)

/-- What a number begins with. -/
def StartsNumber (c : Char) : Prop := c = '-' ∨ c.isDigit

/-! ### Whole numbers -/

theorem chars_whole {n : Int} (h0 : 0 ≤ n) :
    (Cell.whole n).chars = Nat.toDigits 10 n.toNat := by
  obtain ⟨n, rfl⟩ := Int.eq_ofNat_of_zero_le h0
  exact String.toList_ofList

theorem start_whole {n : Int} (h0 : 0 ≤ n) :
    ∃ d s, (Cell.whole n).chars = d :: s ∧ StartsNumber d := by
  have hlead := Binary64.leading_toDigits n.toNat
  obtain ⟨d, s, hs⟩ := List.exists_cons_of_ne_nil hlead.nonempty
  exact ⟨d, s, (chars_whole h0).trans hs, .inr (hlead.digits d (hs ▸ List.mem_cons_self))⟩

/-- **A whole number is read from its digits.** -/
theorem readNumber?_whole {n : Int} (h0 : 0 ≤ n) (h : n < 2 ^ 63) :
    readNumber? ((Cell.whole n).chars ++ '\n' :: r) = some (.integer n, '\n' :: r) := by
  have hlead := Binary64.leading_toDigits n.toNat
  have hvalue : Digits.value (Nat.toDigits 10 n.toNat) = n.toNat := Digits.value_decimal n.toNat
  have hle : n.toNat ≤ 9223372036854775807 := by omega
  rw [chars_whole h0, readNumber?_digits hlead (.inr rfl), decimal?_whole false hlead, hvalue,
    whole?]
  simp [hle, Int.toNat_of_nonneg h0]

/-! ### Floating point numbers -/

/-- A finite number is written as a sign, digits, a point and digits. -/
theorem chars_real {x : Float} {negative : Bool} {m : Nat} {e : Int}
    (h : Binary64.parts x = .finite negative m e) : ∃ ws ps,
      (Cell.real x).chars = (if negative then ['-'] else []) ++ (ws ++ '.' :: ps) ∧
      Leading ws ∧ (∀ d ∈ ps, d.isDigit) ∧ ps ≠ [] ∧
      (Digits.value (ws ++ ps) : ℚ) / 10 ^ ps.length = (Binary64.shortest m e).value := by
  obtain ⟨ws, ps, htext, hspec⟩ := Binary64.positional_spec (Binary64.shortest m e)
  refine ⟨ws, ps, ?_, hspec⟩
  rw [Cell.chars, Binary64.isNaN_of_parts h]
  cases negative <;> simp [Binary64.text, h, htext]

theorem start_real {x : Float} {negative : Bool} {m : Nat} {e : Int}
    (h : Binary64.parts x = .finite negative m e) :
    ∃ d s, (Cell.real x).chars = d :: s ∧ StartsNumber d := by
  obtain ⟨ws, ps, hchars, hlead, -⟩ := chars_real h
  obtain ⟨w, ws, rfl⟩ := List.exists_cons_of_ne_nil hlead.nonempty
  cases negative with
  | true => exact ⟨_, _, hchars, .inl rfl⟩
  | false => exact ⟨_, _, hchars, .inr (hlead.digits w List.mem_cons_self)⟩

/-- **A finite number is read from its shortest decimal.** -/
theorem readNumber?_real {x : Float} {negative : Bool} {m : Nat} {e : Int}
    (h : Binary64.parts x = .finite negative m e) :
    readNumber? ((Cell.real x).chars ++ '\n' :: r) = some (.float x, '\n' :: r) := by
  obtain ⟨ws, ps, hchars, hlead, hps, hne, hvalue⟩ := chars_real h
  have hdecimal : readNumber? ((Cell.real x).chars ++ '\n' :: r) =
      decimal? negative (ws ++ '.' :: ps ++ '\n' :: r) := by
    rw [hchars, List.append_assoc, List.append_assoc, List.cons_append]
    cases negative
    · exact readNumber?_digits hlead (.inl rfl)
    · exact readNumber?_minus hlead (.inl rfl)
  obtain ⟨hinf, hsigned⟩ :=
    Binary64.ofDecimal_shortest h (List.length_pos_iff.2 hne) hvalue
  rw [hdecimal, decimal?_fraction negative hlead hps hne, real?]
  simp only [hinf, hsigned, Bool.false_and, Bool.false_eq_true, if_false, Option.map_some]

end Sluice.Toml
