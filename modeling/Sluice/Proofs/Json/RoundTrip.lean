import Sluice.Json.Printer
import Sluice.Json.Reader
import Sluice.Proofs.Text.Digits
import Sluice.Proofs.Text.Hexadecimal
import Sluice.Proofs.Text.Utf8

/-!
# JSON documents are read again

A value that messages are made of is what its compact form is read as.

* `Json.pieces_quotedChar` : each character of a text is read from its quoted form;
* `Json.readText_quoted` : a text is read up to its closing quote;
* `Json.readMagnitude_decimal` : a natural number is read from its digits, if something else
  follows;
* `Json.Plain` : the values that messages are made of; `Json.readValue_chars` reads one, whatever
  follows it;
* `Json.ofUtf8?_toUtf8`, `Json.ofText?_text` : so a plain document is read from its bytes and from
  its text.
-/

namespace Sluice.Json

variable {c : Char} {rest s : List Symbol}

/-! ### Text -/

theorem pieces_of_char (h : c ≠ '"') (h' : c ≠ '\\') (hc : ¬ c.toNat < 32) :
    pieces (some c :: s) = (pieces s).map fun x => (.char c :: x.1, x.2) := by
  rw [pieces]
  · simp [h', hc]
  all_goals simp_all

/-- **A quoted character is one piece**, which stands for the character. -/
theorem pieces_quotedChar (c : Char) : ∃ p,
    (∀ s, pieces ((quotedChar c).map some ++ s) = (pieces s).map fun x => (p :: x.1, x.2)) ∧
      ∀ ps, assemble? (p :: ps) = (assemble? ps).map (c :: ·) := by
  have hchar (ps : List Piece) : assemble? (.char c :: ps) = (assemble? ps).map (c :: ·) := rfl
  unfold quotedChar
  split_ifs with hquote hback hb hf hn hr ht hcontrol
  · subst hquote
    exact ⟨.char '"', fun s => rfl, hchar⟩
  · subst hback
    exact ⟨.char '\\', fun s => rfl, hchar⟩
  · subst hb
    exact ⟨.char '\x08', fun s => rfl, hchar⟩
  · subst hf
    exact ⟨.char '\x0c', fun s => rfl, hchar⟩
  · subst hn
    exact ⟨.char '\n', fun s => rfl, hchar⟩
  · subst hr
    exact ⟨.char '\r', fun s => rfl, hchar⟩
  · subst ht
    exact ⟨.char '\t', fun s => rfl, hchar⟩
  · -- Other control characters are given by their number.
    have hbyte : c.toNat.toUInt8.toNat = c.toNat :=
      UInt8.toNat_ofNat_of_lt' (Nat.lt_trans hcontrol (by decide))
    have hnumber := Digits.hexNumber?_hexByte c.toNat.toUInt8
    rw [hbyte] at hnumber
    refine ⟨.unit c.toNat, ?_, ?_⟩
    · intro s
      change pieces (some '\\' :: some 'u' :: some _ :: some _ :: some _ :: some _ :: s) = _
      rw [pieces]
      simp only [Digits.hexByte] at hnumber
      rw [hnumber]
    · intro ps
      rw [assemble?.eq_def]
      dsimp only
      rw [if_neg (by omega), if_neg (by omega), Char.ofNat_toNat]
  · exact ⟨.char c, fun s => pieces_of_char hquote hback hcontrol, hchar⟩

theorem readText_quoted (cs : List Char) (rest : List Symbol) :
    readText ((cs.flatMap quotedChar).map some ++ some '"' :: rest) =
      some (some (String.ofList cs), rest) := by
  have hpieces : ∃ ps, pieces ((cs.flatMap quotedChar).map some ++ some '"' :: rest) =
      some (ps, rest) ∧ assemble? ps = some cs := by
    induction cs with
    | nil => exact ⟨[], rfl, rfl⟩
    | cons c cs ih =>
      obtain ⟨ps, hps, hcs⟩ := ih
      obtain ⟨p, hp, hc⟩ := pieces_quotedChar c
      refine ⟨p :: ps, ?_, by rw [hc, hcs, Option.map_some]⟩
      rw [List.flatMap_cons, List.map_append, List.append_assoc, hp, hps, Option.map_some]
  obtain ⟨ps, hps, hcs⟩ := hpieces
  rw [readText, hps, Option.map_some]
  dsimp only
  rw [hcs, Option.map_some]

/-! ### Numbers -/

/-- What follows a number that it is no part of. -/
def Ends (rest : List Symbol) : Prop :=
  ∀ c r, rest = some c :: r → c.isDigit = false ∧ c ≠ '.' ∧ c ≠ 'e' ∧ c ≠ 'E'

theorem ends_nil : Ends [] := by
  intro c r h
  cases h

theorem ends_cons (h : c.isDigit = false ∧ c ≠ '.' ∧ c ≠ 'e' ∧ c ≠ 'E') :
    Ends (some c :: rest) := by
  intro c' r heq
  cases heq
  exact h

theorem digits_append {ds : List Char} (hds : ∀ c ∈ ds, c.isDigit) (h : Ends rest) :
    digits (ds.map some ++ rest) = (ds, rest) := by
  induction ds with
  | nil =>
    change digits rest = _
    rcases rest with _ | ⟨_ | c, r⟩
    · rfl
    · rfl
    · simp [digits, (h c r rfl).1]
  | cons d ds ih =>
    rw [List.forall_mem_cons] at hds
    simp [digits, hds.1, ih hds.2]

theorem isDigit_of_mem_decimal {n : Nat} (h : c ∈ Digits.decimal n) : c.isDigit :=
  Nat.isDigit_of_mem_toDigits (by decide) (by decide) h

theorem readWhole_decimal (n : Nat) (h : Ends rest) :
    readWhole ((Digits.decimal n).map some ++ rest) = some (n, rest) := by
  rw [readWhole, digits_append (fun _ => isDigit_of_mem_decimal) h]
  split
  · rename_i heq
    exact absurd (congrArg Prod.fst heq) Nat.toDigits_ne_nil
  · -- Only zero itself begins with a zero.
    rename_i heq
    have hzero := congrArg Prod.fst heq
    rcases Nat.eq_zero_or_pos n with rfl | hn
    · cases hzero
    · exact absurd hzero (Digits.decimal_ne_zero_cons hn _)
  · rename_i heq
    cases heq
    rw [Digits.value_decimal]

/-- **A natural number is read from its digits.** -/
theorem readMagnitude_decimal (n : Nat) (h : Ends rest) :
    readMagnitude false ((Digits.decimal n).map some ++ rest) = some (ofNat n, rest) := by
  have hplaces : readPlaces rest = some (none, rest) := by
    rcases rest with _ | ⟨_ | c, r⟩
    · rfl
    · rfl
    · have := (h c r rfl).2.1
      unfold readPlaces
      split <;> simp_all
  have hexponent : readExponent rest = some (none, rest) := by
    rcases rest with _ | ⟨_ | c, r⟩
    · rfl
    · rfl
    · simp [readExponent, h c r rfl]
  rw [readMagnitude, readWhole_decimal n h]
  simp [hplaces, hexponent, ofNat, Numeral.ofNat]

/-! ### Values -/

/-- A value that messages are made of. -/
inductive Plain : Json → Prop
  | null : Plain .null
  | bool (b : Bool) : Plain (.bool b)
  | natural (n : Nat) : Plain (ofNat n)
  | text (s : String) : Plain (ofString s)
  | array {items : List Json} (plain : ∀ v ∈ items, Plain v) : Plain (.array items)
  | object {ms : List (String × Json)} (plain : ∀ m ∈ ms, Plain m.2) : Plain (ofMembers ms)

theorem chars_ofNat (n : Nat) : chars (ofNat n) = Digits.decimal n := by
  simp [ofNat, chars, numeralChars, Numeral.ofNat]

/-- The characters of a value begin with one that is no space and closes nothing. -/
theorem exists_chars_eq {j : Json} (h : Plain j) :
    ∃ c r, chars j = c :: r ∧ isSpace (some c) = false ∧ c ≠ ']' := by
  cases h with
  | null => exact ⟨'n', _, rfl, rfl, by decide⟩
  | bool b => cases b <;> exact ⟨_, _, rfl, rfl, by decide⟩
  | natural n =>
    rw [chars_ofNat]
    obtain ⟨c, r, hcr⟩ := List.exists_cons_of_ne_nil (Nat.toDigits_ne_nil (n := n) (b := 10))
    have hc : c.isDigit := isDigit_of_mem_decimal (hcr ▸ List.mem_cons_self)
    refine ⟨c, r, hcr, ?_, ?_⟩
    · by_contra hspace
      simp only [isSpace, Bool.or_eq_false_iff, not_and_or, beq_eq_false_iff_ne, not_not] at hspace
      rcases hspace with ((rfl | rfl) | rfl) | rfl <;> exact absurd hc (by decide)
    · rintro rfl
      exact absurd hc (by decide)
  | text s => exact ⟨'"', _, rfl, rfl, by decide⟩
  | @array items _ =>
    cases items with
    | nil => exact ⟨'[', _, by rw [chars], rfl, by decide⟩
    | cons v vs => exact ⟨'[', _, by rw [chars, List.cons_append], rfl, by decide⟩
  | @object ms _ =>
    cases ms with
    | nil => exact ⟨'\x7b', _, by rw [ofMembers, List.map, chars], rfl, by decide⟩
    | cons m ms =>
      exact ⟨'\x7b', textChars (some m.1) ++ ':' :: chars m.2 ++ memberChars _,
        by rw [ofMembers, List.map, chars]; rfl, rfl, by decide⟩

theorem skip_cons (h : isSpace (some c) = false) : skip (some c :: rest) = some c :: rest :=
  List.dropWhile_cons_of_neg (by simp [h])

theorem skip_chars {j : Json} (h : Plain j) (rest : List Symbol) :
    skip ((chars j).map some ++ rest) = (chars j).map some ++ rest := by
  obtain ⟨c, r, hcr, hspace, -⟩ := exists_chars_eq h
  rw [hcr, List.map_cons, List.cons_append, skip_cons hspace]

/-! ### Rows -/

variable {value : List Symbol → Option (Json × List Symbol)} {fuel : Nat}

/-- A reader of values reads these, whatever follows them. -/
def Reads (value : List Symbol → Option (Json × List Symbol)) (j : Json) : Prop :=
  ∀ rest, Ends rest → value ((chars j).map some ++ rest) = some (j, rest)

theorem ends_itemChars (items : List Json) (rest : List Symbol) :
    Ends ((itemChars items).map some ++ rest) := by
  cases items <;> rw [itemChars] <;> exact ends_cons (by decide)

theorem ends_memberChars (ms : List (Option String × Json)) (rest : List Symbol) :
    Ends ((memberChars ms).map some ++ rest) := by
  rcases ms with _ | ⟨⟨k, v⟩, ms⟩ <;> rw [memberChars] <;> exact ends_cons (by decide)

theorem readItems_itemChars {items : List Json} (hplain : ∀ v ∈ items, Plain v)
    (h : ∀ v ∈ items, Reads value v) (hfuel : items.length < fuel) (rest : List Symbol) :
    readItems value fuel ((itemChars items).map some ++ rest) = some (items, rest) := by
  induction items generalizing fuel with
  | nil =>
    obtain ⟨fuel, rfl⟩ := Nat.exists_eq_succ_of_ne_zero (Nat.ne_of_gt hfuel)
    rw [itemChars]
    rfl
  | cons v vs ih =>
    obtain ⟨fuel, rfl⟩ := Nat.exists_eq_succ_of_ne_zero (Nat.ne_zero_of_lt hfuel)
    rw [List.forall_mem_cons] at hplain h
    have hvs := ih hplain.2 h.2 (Nat.lt_of_succ_lt_succ hfuel)
    have hv := h.1 _ (ends_itemChars vs rest)
    rw [itemChars, List.cons_append, List.map_cons, List.map_append, List.cons_append,
      List.append_assoc, readItems, skip_cons (by decide)]
    simp [skip_chars hplain.1, hv, hvs]

theorem readMember_textChars {k : String} {v : Json} (hplain : Plain v) (h : Reads value v)
    (hrest : Ends rest) :
    readMember value ((textChars (some k)).map some ++ some ':' :: ((chars v).map some ++ rest)) =
      some ((some k, v), rest) := by
  have htext := readText_quoted k.toList (some ':' :: ((chars v).map some ++ rest))
  rw [String.ofList_toList] at htext
  have hquote (s : List Symbol) : skip (some '"' :: s) = some '"' :: s := skip_cons (by decide)
  have hcolon (s : List Symbol) : skip (some ':' :: s) = some ':' :: s := skip_cons (by decide)
  simp [textChars, quoted, readMember, hquote, htext, hcolon, skip_chars hplain, h rest hrest]

theorem readMembers_memberChars {ms : List (String × Json)} (hplain : ∀ m ∈ ms, Plain m.2)
    (h : ∀ m ∈ ms, Reads value m.2) (hfuel : ms.length < fuel) (rest : List Symbol) :
    readMembers value fuel ((memberChars (ms.map fun m => (some m.1, m.2))).map some ++ rest) =
      some (ms.map fun m => (some m.1, m.2), rest) := by
  induction ms generalizing fuel with
  | nil =>
    obtain ⟨fuel, rfl⟩ := Nat.exists_eq_succ_of_ne_zero (Nat.ne_of_gt hfuel)
    rw [List.map_nil, memberChars]
    rfl
  | cons m ms ih =>
    obtain ⟨fuel, rfl⟩ := Nat.exists_eq_succ_of_ne_zero (Nat.ne_zero_of_lt hfuel)
    obtain ⟨k, v⟩ := m
    rw [List.forall_mem_cons] at hplain h
    have hms := ih hplain.2 h.2 (Nat.lt_of_succ_lt_succ hfuel)
    have hm := readMember_textChars (k := k) hplain.1 h.1
      (ends_memberChars (ms.map fun m => (some m.1, m.2)) rest)
    simp only [List.map_cons, memberChars, List.cons_append, List.map_append, List.append_assoc,
      readMembers]
    rw [skip_cons (by decide)]
    simp [hm, hms]

theorem length_le_length_itemChars (items : List Json) :
    items.length < (itemChars items).length := by
  induction items with
  | nil => rw [itemChars]; exact Nat.zero_lt_one
  | cons v vs ih => simp [itemChars]; omega

theorem length_chars_le_of_mem {v : Json} {items : List Json} (h : v ∈ items) :
    (chars v).length ≤ (itemChars items).length := by
  induction items with
  | nil => cases h
  | cons u us ih =>
    simp only [itemChars, List.cons_append, List.length_cons, List.length_append]
    rcases List.mem_cons.1 h with rfl | h
    · omega
    · have := ih h
      omega

theorem length_le_length_memberChars (ms : List (Option String × Json)) :
    ms.length < (memberChars ms).length := by
  induction ms with
  | nil => rw [memberChars]; exact Nat.zero_lt_one
  | cons m ms ih => simp [memberChars]; omega

theorem length_value_le_of_mem {m : Option String × Json} {ms : List (Option String × Json)}
    (h : m ∈ ms) : (chars m.2).length ≤ (memberChars ms).length := by
  induction ms with
  | nil => cases h
  | cons u us ih =>
    simp only [memberChars, List.cons_append, List.length_cons, List.length_append]
    rcases List.mem_cons.1 h with rfl | h
    · omega
    · have := ih h
      omega

/-! ### Documents -/

theorem readValue_of_isDigit (h : c.isDigit) (fuel : Nat) (s : List Symbol) :
    readValue (fuel + 1) (some c :: s) = readMagnitude false (some c :: s) := by
  rw [readValue]
  -- No digit opens another kind of value.
  all_goals
    rintro r heq
    cases heq
    exact absurd h (by decide)

theorem readValue_string (s : String) (fuel : Nat) (rest : List Symbol) :
    readValue (fuel + 1) ((chars (ofString s)).map some ++ rest) = some (ofString s, rest) := by
  have htext := readText_quoted s.toList rest
  rw [String.ofList_toList] at htext
  simp [ofString, chars, textChars, quoted, readValue, htext]

theorem readValue_bracket (hskip : skip s = s) (hclose : ∀ r, s ≠ some ']' :: r) (fuel : Nat) :
    readValue (fuel + 1) (some '[' :: s) = (readValue fuel s).bind fun x =>
      (readItems (readValue fuel) fuel x.2).bind fun y => some (.array (x.1 :: y.1), y.2) := by
  rw [readValue, hskip]
  split
  · exact absurd rfl (hclose _)
  · rfl

theorem readValue_brace (hskip : skip s = s) (hclose : ∀ r, s ≠ some '\x7d' :: r) (fuel : Nat) :
    readValue (fuel + 1) (some '\x7b' :: s) = (readMember (readValue fuel) s).bind fun x =>
      (readMembers (readValue fuel) fuel x.2).bind fun y => some (.object (x.1 :: y.1), y.2) := by
  rw [readValue, hskip]
  split
  · exact absurd rfl (hclose _)
  · rfl

/-- **A plain value is read from its characters**, whatever follows it. -/
theorem readValue_chars {j : Json} (h : Plain j) (hfuel : (chars j).length < fuel) :
    Reads (readValue fuel) j := by
  induction h generalizing fuel with
  | null =>
    obtain ⟨fuel, rfl⟩ := Nat.exists_eq_succ_of_ne_zero (Nat.ne_zero_of_lt hfuel)
    intro rest _
    simp [chars, readValue, word?]
  | bool b =>
    obtain ⟨fuel, rfl⟩ := Nat.exists_eq_succ_of_ne_zero (Nat.ne_zero_of_lt hfuel)
    intro rest _
    cases b <;> simp [chars, readValue, word?]
  | natural n =>
    obtain ⟨fuel, rfl⟩ := Nat.exists_eq_succ_of_ne_zero (Nat.ne_zero_of_lt hfuel)
    intro rest hrest
    obtain ⟨c, r, hcr⟩ := List.exists_cons_of_ne_nil (Nat.toDigits_ne_nil (n := n) (b := 10))
    have hc : c.isDigit := isDigit_of_mem_decimal (hcr ▸ List.mem_cons_self)
    rw [← readMagnitude_decimal n hrest, chars_ofNat, Digits.decimal, hcr]
    exact readValue_of_isDigit hc fuel _
  | text s =>
    obtain ⟨fuel, rfl⟩ := Nat.exists_eq_succ_of_ne_zero (Nat.ne_zero_of_lt hfuel)
    intro rest _
    exact readValue_string s fuel rest
  | @array items hplain ih =>
    obtain ⟨fuel, rfl⟩ := Nat.exists_eq_succ_of_ne_zero (Nat.ne_zero_of_lt hfuel)
    intro rest _
    cases items with
    | nil => simp [chars, readValue, skip, isSpace]
    | cons v vs =>
      rw [chars, List.cons_append, List.length_cons, List.length_append] at hfuel
      rw [List.forall_mem_cons] at hplain ih
      have hcount := length_le_length_itemChars vs
      have hv : Reads (readValue fuel) v := ih.1 (by omega)
      have hvs : ∀ u ∈ vs, Reads (readValue fuel) u := by
        intro u hu
        have := length_chars_le_of_mem hu
        exact ih.2 u hu (by omega)
      rw [chars, List.cons_append, List.map_cons, List.map_append, List.cons_append,
        List.append_assoc, readValue_bracket (skip_chars hplain.1 _), hv _ (ends_itemChars vs rest),
        Option.bind_some, readItems_itemChars hplain.2 hvs (by omega), Option.bind_some]
      -- A value does not begin with a closing bracket.
      intro r heq
      obtain ⟨c, cs, hc, -, hne⟩ := exists_chars_eq hplain.1
      rw [hc, List.map_cons, List.cons_append] at heq
      exact hne (Option.some.inj (List.cons.inj heq).1)
  | @object ms hplain ih =>
    obtain ⟨fuel, rfl⟩ := Nat.exists_eq_succ_of_ne_zero (Nat.ne_zero_of_lt hfuel)
    intro rest _
    cases ms with
    | nil => simp [ofMembers, chars, readValue, skip, isSpace]
    | cons m ms =>
      obtain ⟨k, v⟩ := m
      rw [ofMembers, List.map_cons, chars] at hfuel ⊢
      simp only [List.cons_append, List.append_assoc, List.length_cons, List.length_append] at hfuel
      rw [List.forall_mem_cons] at hplain ih
      have hcount := length_le_length_memberChars (ms.map fun m => (some m.1, m.2))
      rw [List.length_map] at hcount
      have hv : Reads (readValue fuel) v := ih.1 (by dsimp only; omega)
      have hms : ∀ m ∈ ms, Reads (readValue fuel) m.2 := by
        intro m hm
        have := length_value_le_of_mem (List.mem_map_of_mem (f := fun m => (some m.1, m.2)) hm)
        exact ih.2 m hm (by dsimp only at this; omega)
      have hmember := readMember_textChars (k := k) hplain.1 hv
        (ends_memberChars (ms.map fun m => (some m.1, m.2)) rest)
      simp only [List.cons_append, List.map_cons, List.map_append, List.append_assoc]
      rw [readValue_brace rfl, hmember, Option.bind_some,
        readMembers_memberChars hplain.2 hms (by omega), Option.bind_some]
      -- A name begins with a quote.
      intro r heq
      cases (List.cons.inj heq).1

/-- **A plain value is read from its text.** -/
theorem read?_chars {j : Json} (h : Plain j) : read? ((chars j).map some) = some j := by
  have hskip := skip_chars h []
  have hread := readValue_chars h (Nat.lt_succ_self _) [] ends_nil
  rw [List.append_nil] at hskip hread
  rw [read?, hskip, List.length_map, hread]
  rfl

theorem ofText?_text {j : Json} (h : Plain j) : ofText? j.text = some j := by
  rw [ofText?, text, String.toList_ofList, read?_chars h]

/-- **A plain value is read from its bytes.** -/
theorem ofUtf8?_toUtf8 {j : Json} (h : Plain j) : ofUtf8? j.toUtf8 = some j := by
  rw [ofUtf8?, toUtf8, Utf8.scan_encode, read?_chars h]

end Sluice.Json
