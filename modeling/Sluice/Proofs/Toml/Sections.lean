import Sluice.Proofs.Toml.Number
import Sluice.Proofs.Toml.Text
import Sluice.Toml.Reader

/-!
# Documents of sections are read as they were written

Line by line: every line of `Toml.sectionsText` takes one step of `Toml.readLines?`, which puts what
the line says behind what is there.

* `Toml.readValue?_chars` : a simple value in front of the end of its line;
* `Toml.readLines?_section` : a section;
* `Toml.ofChars?_sectionsText` : a document.
-/

namespace Sluice.Toml

variable {c : Char} {cs r rest s : List Char} {depth fuel : Nat}

/-! ### What simple values stand for -/

/-- The value that is written. -/
def Cell.value : Cell → Toml
  | text s => .string s
  | whole n => .integer n
  | real x => .float x
  | truth b => .bool b
  | texts ss => .array (ss.map .string)

/-- TOML has the value, and it is a number if it ought to be one. -/
def Cell.Readable : Cell → Prop
  | whole n => 0 ≤ n ∧ n < 2 ^ 63
  | real x => ∃ negative m e, Binary64.parts x = .finite negative m e
  | _ => True

/-- The texts of a row, one on a line. -/
def itemLines (ss : List String) : List Char :=
  ss.flatMap fun s => "    ".toList ++ Cell.quotedText s ++ [',', '\n']

/-! ### Texts as values -/

theorem quoted_start (cs : List Char) : ∃ q r, quoted cs = q :: r ∧ (q = '"' ∨ q = '\'') := by
  unfold quoted
  cases quoting cs
  · exact ⟨_, _, rfl, .inl rfl⟩
  · exact ⟨_, _, rfl, .inr rfl⟩
  · exact ⟨_, _, rfl, .inl rfl⟩
  · exact ⟨_, _, rfl, .inr rfl⟩

theorem readValue?_text (t : String) (hrest : Unquoted rest) :
    readValue? depth (Cell.quotedText t ++ rest) = some (.string t, rest) := by
  have hread : readString? (Cell.quotedText t ++ rest) = some (String.ofList t.toList, rest) :=
    readString?_quoted hrest
  obtain ⟨q, r, hq, hcases⟩ := quoted_start t.toList
  rw [String.ofList_toList, Cell.quotedText, hq, List.cons_append] at hread
  rw [Cell.quotedText, hq, List.cons_append]
  rcases hcases with rfl | rfl <;> rw [readValue?, hread] <;> rfl

/-! ### Rows of texts -/

theorem dropGap_text (t : String) :
    dropGap false (Cell.quotedText t ++ rest) = some (Cell.quotedText t ++ rest) := by
  obtain ⟨q, r, hq, rfl | rfl⟩ := quoted_start t.toList <;> rw [Cell.quotedText, hq] <;> rfl

theorem text_ne_bracket (t : String) (r : List Char) : Cell.quotedText t ++ rest ≠ ']' :: r := by
  obtain ⟨q, w, hq, rfl | rfl⟩ := quoted_start t.toList <;> simp [Cell.quotedText, hq]

section Items

variable {value : List Char → Option (Toml × List Char)} {v : Toml} {t : List Char}

/-- An item and the comma behind it. -/
theorem readItems?_comma (hgap : dropGap false s = some t) (ht : ∀ r, t ≠ ']' :: r)
    (hread : value t = some (v, ',' :: r)) : readItems? value (fuel + 1) s =
      (readItems? value fuel r).map fun found => (v :: found.1, found.2) := by
  rw [readItems?, hgap, Option.map_eq_bind]
  -- the item does not begin with the bracket, so it is a value
  simp only [Option.bind_eq_bind, Option.bind_some]
  rw [hread]
  rfl

/-- An item and the bracket behind it. -/
theorem readItems?_last (hgap : dropGap false s = some t) (ht : ∀ r, t ≠ ']' :: r)
    (hread : value t = some (v, ']' :: r)) : readItems? value (fuel + 1) s = some ([v], r) := by
  rw [readItems?, hgap]
  -- the item does not begin with the bracket, so it is a value
  simp only [Option.bind_eq_bind, Option.bind_some]
  rw [hread]
  rfl

theorem readItems?_close (hgap : dropGap false s = some (']' :: r)) :
    readItems? value (fuel + 1) s = some ([], r) := by
  rw [readItems?, hgap]
  rfl

end Items

theorem readItems?_lines {ss : List String} (hfuel : ss.length < fuel) :
    readItems? (readValue? depth) fuel ('\n' :: (itemLines ss ++ ']' :: r)) =
      some (ss.map .string, r) := by
  induction ss generalizing fuel with
  | nil =>
    obtain ⟨fuel, rfl⟩ := Nat.exists_eq_add_one_of_ne_zero hfuel.ne'
    exact readItems?_close rfl
  | cons t ss ih =>
    obtain ⟨fuel, rfl⟩ := Nat.exists_eq_add_one_of_ne_zero (Nat.ne_zero_of_lt hfuel)
    have hlines : '\n' :: (itemLines (t :: ss) ++ ']' :: r) = '\n' :: ' ' :: ' ' :: ' ' :: ' ' ::
        (Cell.quotedText t ++ ',' :: '\n' :: (itemLines ss ++ ']' :: r)) := by
      simp [itemLines]
    have hgap : dropGap false ('\n' :: (itemLines (t :: ss) ++ ']' :: r)) =
        some (Cell.quotedText t ++ ',' :: '\n' :: (itemLines ss ++ ']' :: r)) := by
      rw [hlines]
      exact dropGap_text t
    have hread : readValue? depth (Cell.quotedText t ++ ',' :: '\n' :: (itemLines ss ++ ']' :: r)) =
        some (.string t, ',' :: '\n' :: (itemLines ss ++ ']' :: r)) :=
      readValue?_text t (by simp [Unquoted])
    rw [readItems?_comma hgap (text_ne_bracket t) hread, ih (Nat.lt_of_succ_lt_succ hfuel)]
    rfl

theorem length_itemLines (ss : List String) : ss.length ≤ (itemLines ss).length := by
  induction ss with
  | nil => exact Nat.zero_le _
  | cons t ss ih =>
    simp only [itemLines, List.flatMap_cons, List.length_append, List.length_cons] at ih ⊢
    omega

theorem readValue?_texts (ss : List String) :
    readValue? (depth + 1) ((Cell.texts ss).chars ++ r) = some (.array (ss.map .string), r) := by
  match ss with
  | [] =>
    change readValue? (depth + 1) ('[' :: ']' :: r) = _
    rw [readValue?, readItems?_close rfl]
    rfl
  | [t] =>
    have hread : readValue? depth (Cell.quotedText t ++ ']' :: r) = some (.string t, ']' :: r) :=
      readValue?_text t (by simp [Unquoted])
    rw [Cell.chars, List.append_assoc, List.cons_append, readValue?]
    exact congrArg _ (readItems?_last (dropGap_text t) (text_ne_bracket t) hread)
  | t :: t' :: ss =>
    have hchars : (Cell.texts (t :: t' :: ss)).chars ++ r =
        '[' :: '\n' :: (itemLines (t :: t' :: ss) ++ ']' :: r) := by
      simp [Cell.chars, itemLines]
    rw [hchars, readValue?, readItems?_lines]
    · rfl
    · have hlength := length_itemLines (t :: t' :: ss)
      simp only [List.length_cons, List.length_append] at hlength ⊢
      omega

/-! ### Simple values -/

theorem readValue?_number (h : StartsNumber c) :
    readValue? depth (c :: s) = readNumber? (c :: s) := by
  have hne (d : Char) (hd : d.isDigit = false) (hminus : d ≠ '-') : c ≠ d := by
    rintro rfl
    simp [StartsNumber, hd, hminus] at h
  rw [readValue?]
  all_goals
    intro _ heq
    exact hne _ rfl (by decide) (List.cons.inj heq).1

theorem chars_truth (b : Bool) :
    (Cell.truth b).chars = if b then ['t', 'r', 'u', 'e'] else ['f', 'a', 'l', 's', 'e'] := by
  cases b <;> rfl

/-- **A simple value is read as it was written**, in front of the end of its line. -/
theorem readValue?_chars {cell : Cell} (h : cell.Readable) :
    readValue? (depth + 1) (cell.chars ++ '\n' :: r) = some (cell.value, '\n' :: r) := by
  cases cell with
  | text t => exact readValue?_text t (by simp [Unquoted])
  | whole n =>
    obtain ⟨d, s, hs, hd⟩ := start_whole h.1
    have hread := readNumber?_whole (r := r) h.1 h.2
    rw [hs, List.cons_append] at hread ⊢
    rw [readValue?_number hd, hread]
    rfl
  | real x =>
    obtain ⟨negative, m, e, hparts⟩ := h
    obtain ⟨d, s, hs, hd⟩ := start_real hparts
    have hread := readNumber?_real (r := r) hparts
    rw [hs, List.cons_append] at hread ⊢
    rw [readValue?_number hd, hread]
    rfl
  | truth b =>
    rw [chars_truth]
    cases b <;> simp [readValue?, Cell.value]
  | texts ss => exact readValue?_texts ss

theorem start_chars {cell : Cell} (h : cell.Readable) :
    ∃ d s, cell.chars = d :: s ∧ isBlank d = false := by
  have hnumber {d : Char} (hd : StartsNumber d) : isBlank d = false := by
    rcases hd with rfl | hd
    · rfl
    · cases hblank : isBlank d with
      | false => rfl
      | true =>
        rcases (by simpa [isBlank] using hblank : d = ' ' ∨ d = '\t') with rfl | rfl <;> cases hd
  cases cell with
  | text t =>
    obtain ⟨q, s, hq, rfl | rfl⟩ := quoted_start t.toList
    · exact ⟨_, _, hq, rfl⟩
    · exact ⟨_, _, hq, rfl⟩
  | whole n =>
    obtain ⟨d, s, hs, hd⟩ := start_whole h.1
    exact ⟨d, s, hs, hnumber hd⟩
  | real x =>
    obtain ⟨negative, m, e, hparts⟩ := h
    obtain ⟨d, s, hs, hd⟩ := start_real hparts
    exact ⟨d, s, hs, hnumber hd⟩
  | truth b =>
    rw [chars_truth]
    cases b
    · exact ⟨_, _, rfl, rfl⟩
    · exact ⟨_, _, rfl, rfl⟩
  | texts ss =>
    rcases ss with _ | ⟨t, _ | ⟨t', ss⟩⟩
    · exact ⟨_, _, rfl, rfl⟩
    · exact ⟨_, _, rfl, rfl⟩
    · exact ⟨_, _, rfl, rfl⟩

/-! ### Keys -/

/-- A key that needs no quotes. -/
def Bare (k : String) : Prop := k.toList ≠ [] ∧ ∀ c ∈ k.toList, isBare c = true

theorem ne_of_isBare {d : Char} (hc : isBare c = true) (hd : isBare d = false) : c ≠ d := by
  rintro rfl
  rw [hc] at hd
  cases hd

theorem dropBlanks_of_head (h : ∀ c ∈ s.head?, isBlank c = false) : dropBlanks s = s := by
  cases s with
  | nil => rfl
  | cons c s => rw [dropBlanks, List.dropWhile_cons_of_neg (by simpa using h)]

/-- A bare key begins with a character that nothing else but it begins with. -/
theorem Bare.exists_cons {k : String} (hk : Bare k) :
    ∃ c cs, k.toList = c :: cs ∧ isBare c = true := by
  obtain ⟨c, cs, heq⟩ := List.exists_cons_of_ne_nil hk.1
  exact ⟨c, cs, heq, hk.2 c (heq ▸ List.mem_cons_self)⟩

theorem isBlank_of_isBare (hc : isBare c = true) : isBlank c = false := by
  simp [isBlank, ne_of_isBare hc (d := ' ') rfl, ne_of_isBare hc (d := '\t') rfl]

theorem readPart?_bare {k : String} (hk : Bare k) (hs : ∀ c ∈ s.head?, isBare c = false) :
    readPart? (k.toList ++ s) = some (k, dropBlanks s) := by
  obtain ⟨c, cs, heq, hc⟩ := hk.exists_cons
  have htake : (k.toList ++ s).takeWhile isBare = k.toList := by
    rw [List.takeWhile_append_of_pos hk.2]
    cases s with
    | nil => exact List.append_nil _
    | cons d s => rw [List.takeWhile_cons_of_neg (by simpa using hs), List.append_nil]
  have hdrop : (k.toList ++ s).dropWhile isBare = s := by
    rw [List.dropWhile_append_of_pos hk.2]
    cases s with
    | nil => rfl
    | cons d s => rw [List.dropWhile_cons_of_neg (by simpa using hs)]
  have hblanks : dropBlanks (k.toList ++ s) = k.toList ++ s := by
    refine dropBlanks_of_head ?_
    rw [heq]
    simpa using isBlank_of_isBare hc
  have hne {d : Char} (hd : isBare d = false) (w : List Char) : k.toList ++ s ≠ d :: w := by
    intro hw
    rw [heq] at hw
    exact ne_of_isBare hc hd (List.cons.inj hw).1
  unfold readPart?
  rw [hblanks]
  dsimp only
  split
  · exact absurd ‹_› (hne rfl _)
  · exact absurd ‹_› (hne rfl _)
  · rw [htake, hdrop, heq, if_neg (by simp), ← heq, Option.map_some, String.ofList_toList]

/-- A bare key is read in front of what is neither part of it nor begins another part. -/
theorem readKey?_bare {k : String} (hk : Bare k) (hs : ∀ c ∈ s.head?, isBare c = false)
    (hnext : ∀ r, dropBlanks s ≠ '.' :: r) :
    readKey? (k.toList ++ s) = some (([], k), dropBlanks s) := by
  have hparts : readParts? deepest (k.toList ++ s) = some ([k], dropBlanks s) := by
    change readParts? (78 + 1) (k.toList ++ s) = _
    rw [readParts?, readPart?_bare hk hs]
    simp only [Option.bind_eq_bind, Option.bind_some]
    rfl
  rw [readKey?, hparts]
  rfl

/-! ### Lines -/

/-- A value and its name as they are written. -/
def lineChars (l : String × Cell) : List Char :=
  l.1.toList ++ " = ".toList ++ l.2.chars ++ ['\n']

theorem readEntry?_line {l : String × Cell} (hk : Bare l.1) (hl : l.2.Readable) :
    readEntry? (readValue? (depth + 1)) (lineChars l ++ r) =
      some (([], l.1), l.2.value, '\n' :: r) := by
  obtain ⟨d, s, hs, hd⟩ := start_chars hl
  have hvalue : readValue? (depth + 1) (l.2.chars ++ '\n' :: r) = some (l.2.value, '\n' :: r) :=
    readValue?_chars hl
  have hline : lineChars l ++ r =
      l.1.toList ++ ' ' :: '=' :: ' ' :: (l.2.chars ++ '\n' :: r) := by
    simp [lineChars]
  have hkey : readKey? (lineChars l ++ r) =
      some (([], l.1), '=' :: ' ' :: (l.2.chars ++ '\n' :: r)) := by
    rw [hline]
    exact readKey?_bare hk (by simp [isBare]) (by simp [dropBlanks, isBlank])
  have hblanks : dropBlanks (' ' :: (l.2.chars ++ '\n' :: r)) = l.2.chars ++ '\n' :: r := by
    change dropBlanks (l.2.chars ++ '\n' :: r) = _
    exact dropBlanks_of_head (by simpa [hs] using hd)
  rw [ readEntry?, hkey]
  change (readValue? (depth + 1) (dropBlanks (' ' :: (l.2.chars ++ '\n' :: r)))).bind _ = _
  rw [hblanks, hvalue]
  rfl

/-! ### What lines put where -/

theorem lookup_cons_eq_none {k n : String} {v : Toml} {es : Entries} :
    List.lookup k ((n, v) :: es) = none ↔ k ≠ n ∧ es.lookup k = none := by
  rw [List.lookup_eq_none_iff, List.lookup_eq_none_iff, List.forall_mem_cons, bne_iff_ne]

theorem put_of_lookup_eq_none {k : String} {v : Toml} {es : Entries} (h : es.lookup k = none) :
    put k v es = es ++ [(k, v)] := by
  induction es with
  | nil => rfl
  | cons e es ih =>
    obtain ⟨hne, htail⟩ := lookup_cons_eq_none.1 h
    rw [put, if_neg (Ne.symm hne), ih htail]
    rfl

theorem put_append {k : String} {v w : Toml} {es : Entries} (h : es.lookup k = none) :
    put k w (es ++ [(k, v)]) = es ++ [(k, w)] := by
  induction es with
  | nil => simp [put]
  | cons e es ih =>
    obtain ⟨hne, htail⟩ := lookup_cons_eq_none.1 h
    rw [List.cons_append, put, if_neg (Ne.symm hne), ih htail]
    rfl

theorem lookup_append_self {k : String} {v : Toml} {es : Entries} (h : es.lookup k = none) :
    (es ++ [(k, v)]).lookup k = some v := by
  rw [List.lookup_append, h]
  simp

theorem lookup_append_of_ne {k n : String} {v : Toml} {es : Entries} (h : es.lookup k = none)
    (hne : k ≠ n) : (es ++ [(n, v)]).lookup k = none := by
  rw [List.lookup_append, h, lookup_cons_eq_none.2 ⟨hne, rfl⟩]
  rfl

/-- The header of a section that is not there yet. -/
theorem openTable?_new {k : String} {es : Entries} (h : es.lookup k = none) :
    openTable? [] k es = some (es ++ [(k, .table .header [])]) := by
  rw [openTable?, alter?, h]
  exact congrArg some (put_of_lookup_eq_none h)

theorem put?_new {k : String} {v : Toml} {es : Entries} (h : es.lookup k = none) :
    put? [] k v .header es = some (es ++ [(k, v)]) := by
  rw [put?, alter?, h]
  simp [put_of_lookup_eq_none h]

/-- A line of the section at the end. -/
theorem putBelow?_new {name k : String} {v : Toml} {es inner : Entries}
    (hes : es.lookup name = none) (hinner : inner.lookup k = none) :
    putBelow? [name] [] k v (es ++ [(name, .table .header inner)]) =
      some (es ++ [(name, .table .header (inner ++ [(k, v)]))]) := by
  rw [putBelow?, alter?, lookup_append_self hes]
  simp only [alter?, put?_new hinner]
  exact congrArg some (put_append hes)

/-! ### Line by line -/

/-- The lines of a text lead from one draft to another. -/
def Leads (d : Draft) (s : List Char) (d' : Draft) : Prop :=
  ∀ fuel, s.length < fuel → readLines? fuel d s = some d'

theorem leads_nil (d : Draft) : Leads d [] d := by
  intro fuel hfuel
  obtain ⟨fuel, rfl⟩ := Nat.exists_eq_add_one_of_ne_zero (Nat.ne_zero_of_lt hfuel)
  rfl

variable {d d' : Draft}

/-- One step takes a beginning of the text. -/
theorem Leads.step {d₁ : Draft} (h : Leads d₁ r d') (hlength : r.length < s.length)
    (hstep : ∀ fuel, readLines? (fuel + 1) d s = readLines? fuel d₁ r) : Leads d s d' := by
  intro fuel hfuel
  obtain ⟨fuel, rfl⟩ := Nat.exists_eq_add_one_of_ne_zero (Nat.ne_zero_of_lt hfuel)
  rw [hstep]
  exact h fuel (by omega)

theorem Leads.lineBreak (h : Leads d r d') : Leads d ('\n' :: r) d' :=
  h.step (Nat.lt_succ_self _) fun _ => rfl

theorem Leads.line {l : String × Cell} {es : Entries} (hk : Bare l.1) (hl : l.2.Readable)
    (hput : putBelow? d.header [] l.1 l.2.value d.entries = some es)
    (h : Leads ⟨es, d.header⟩ r d') : Leads d (lineChars l ++ r) d' := by
  refine h.step (by simp [lineChars]; omega) fun fuel => ?_
  have hentry : readEntry? (readValue? deepest) (lineChars l ++ r) =
      some (([], l.1), l.2.value, '\n' :: r) := readEntry?_line hk hl
  have hline : readLine? d (lineChars l ++ r) = some (⟨es, d.header⟩, '\n' :: r) := by
    rw [readLine?, hentry]
    simp only [Option.bind_eq_bind, Option.bind_some, hput]
    rfl
  -- The line begins with a letter of the key, so it is neither a gap nor a header.
  obtain ⟨c, cs, heq, hc⟩ := hk.exists_cons
  have hcons : lineChars l ++ r = c :: (cs ++ " = ".toList ++ l.2.chars ++ ['\n'] ++ r) := by
    rw [lineChars, heq]
    rfl
  rw [hcons] at hline ⊢
  rw [readLines?, dropBlanks_of_head (by simpa using isBlank_of_isBare hc)]
  have hmark : (c == '#' || c == '\n' || c == '\r') = false := by
    simp [ne_of_isBare hc (d := '#') rfl, ne_of_isBare hc (d := '\n') rfl,
      ne_of_isBare hc (d := '\r') rfl]
  split
  · contradiction
  · rename_i heq
    exact absurd (List.cons.inj heq).1 (ne_of_isBare hc rfl)
  · rename_i heq
    obtain ⟨rfl, rfl⟩ := List.cons.inj heq
    rw [hmark, if_neg (by simp), hline]
    rfl

theorem Leads.header {name : String} {es : Entries} (hk : Bare name)
    (hopen : openTable? [] name d.entries = some es) (h : Leads ⟨es, [name]⟩ r d') :
    Leads d ('[' :: name.toList ++ ']' :: '\n' :: r) d' := by
  refine h.step (by simp; omega) fun fuel => ?_
  obtain ⟨c, cs, heq, hc⟩ := hk.exists_cons
  have hkey : readKey? (name.toList ++ ']' :: '\n' :: r) = some (([], name), ']' :: '\n' :: r) :=
    readKey?_bare hk (by simp [isBare]) (by simp [dropBlanks, isBlank])
  have hheader : readHeader? d (name.toList ++ ']' :: '\n' :: r) =
      some (⟨es, [name]⟩, '\n' :: r) := by
    rw [readHeader?, hkey]
    · simp only [Option.bind_eq_bind, Option.bind_some, hopen]
      rfl
    · intro r' hr
      rw [heq] at hr
      exact ne_of_isBare hc (d := '[') rfl (List.cons.inj hr).1
  rw [readLines?]
  change (readHeader? d (name.toList ++ ']' :: '\n' :: r)).bind _ = _
  rw [hheader]
  rfl

/-! ### Sections -/

namespace Section

/-- The table that a section stands for, under its name. -/
def entry (s : Section) : String × Toml :=
  (s.name, .table .header (s.lines.map fun l => (l.1, l.2.value)))

/-- Names need no quotes and differ, and TOML has the values. -/
structure Readable (s : Section) : Prop where
  /-- The header needs no quotes. -/
  name : Bare s.name
  /-- Neither do the names in it. -/
  lines : ∀ l ∈ s.lines, Bare l.1 ∧ l.2.Readable
  /-- They differ. -/
  distinct : (s.lines.map (·.1)).Nodup

end Section

theorem Leads.lines {name : String} {es inner : Entries} {ls : List (String × Cell)}
    (hes : es.lookup name = none) (hls : ∀ l ∈ ls, Bare l.1 ∧ l.2.Readable)
    (hdistinct : (ls.map (·.1)).Nodup) (hinner : ∀ l ∈ ls, inner.lookup l.1 = none)
    (h : Leads ⟨es ++ [(name, .table .header (inner ++ ls.map fun l => (l.1, l.2.value)))], [name]⟩
      r d') :
    Leads ⟨es ++ [(name, .table .header inner)], [name]⟩ (ls.flatMap lineChars ++ r) d' := by
  induction ls generalizing inner with
  | nil => simpa using h
  | cons l ls ih =>
    rw [List.forall_mem_cons] at hls hinner
    rw [List.map_cons, List.nodup_cons] at hdistinct
    rw [List.flatMap_cons, List.append_assoc]
    refine Leads.line hls.1.1 hls.1.2 (putBelow?_new hes hinner.1) ?_
    refine ih hls.2 hdistinct.2 (fun l' hl' => ?_) ?_
    · refine lookup_append_of_ne (hinner.2 l' hl') ?_
      rintro heq
      exact hdistinct.1 (heq ▸ List.mem_map_of_mem hl')
    · rwa [List.append_assoc]

/-- **A section is read as it was written**, behind the sections before it. -/
theorem Leads.section {x : Section} {es : Entries} {header : List String} (hx : x.Readable)
    (hes : es.lookup x.name = none) (h : Leads ⟨es ++ [x.entry], [x.name]⟩ r d') :
    Leads ⟨es, header⟩ (x.chars ++ r) d' := by
  have hchars : x.chars ++ r =
      '[' :: x.name.toList ++ ']' :: '\n' :: (x.lines.flatMap lineChars ++ r) := by
    change '[' :: x.name.toList ++ [']', '\n'] ++ x.lines.flatMap lineChars ++ r = _
    simp
  rw [hchars]
  refine Leads.header hx.name (openTable?_new hes) ?_
  exact Leads.lines hes hx.lines hx.distinct (fun _ _ => rfl) h

/-! ### Documents -/

theorem leads_sections {xs : List Section} {es : Entries} (header : List String)
    (hxs : ∀ x ∈ xs, x.Readable) (hdistinct : (xs.map (·.name)).Nodup)
    (hes : ∀ x ∈ xs, es.lookup x.name = none) : ∃ last,
      Leads ⟨es, header⟩ (['\n'].intercalate (xs.map Section.chars))
        ⟨es ++ xs.map Section.entry, last⟩ := by
  induction xs generalizing es header with
  | nil => exact ⟨header, by simpa using leads_nil _⟩
  | cons x xs ih =>
    rw [List.forall_mem_cons] at hxs hes
    rw [List.map_cons, List.nodup_cons] at hdistinct
    have hes' : ∀ x' ∈ xs, (es ++ [x.entry]).lookup x'.name = none := by
      intro x' hx'
      refine lookup_append_of_ne (hes.2 x' hx') ?_
      rintro heq
      exact hdistinct.1 (heq ▸ List.mem_map_of_mem hx')
    obtain ⟨last, hlast⟩ := ih [x.name] hxs.2 hdistinct.2 hes'
    rw [List.append_assoc] at hlast
    refine ⟨last, ?_⟩
    cases xs with
    | nil => simpa using Leads.section hxs.1 hes.1 hlast
    | cons x' xs =>
      rw [List.map_cons, List.map_cons, List.intercalate_cons_cons, List.append_assoc]
      exact Leads.section hxs.1 hes.1 hlast.lineBreak

theorem toList_sectionsText (xs : List Section) :
    (sectionsText xs).toList = ['\n'].intercalate (xs.map Section.chars) := by
  rw [sectionsText, String.toList_intercalate, List.map_map]
  have hchars : String.toList ∘ Section.text = Section.chars :=
    funext fun _ => String.toList_ofList
  rw [hchars]
  rfl

theorem dropMark_sections (xs : List Section) :
    dropMark (['\n'].intercalate (xs.map Section.chars)) =
      ['\n'].intercalate (xs.map Section.chars) := by
  match xs with
  | [] => rfl
  | [x] => rfl
  | x :: x' :: xs =>
    rw [List.map_cons, List.map_cons, List.intercalate_cons_cons]
    rfl

/-- **A document is read as it was written**: what its sections stand for, in their order. -/
theorem ofChars?_sectionsText {xs : List Section} (hxs : ∀ x ∈ xs, x.Readable)
    (hdistinct : (xs.map (·.name)).Nodup) :
    ofChars? (sectionsText xs).toList = some (.table .header (xs.map Section.entry)) := by
  have hnew : ∀ x ∈ xs, List.lookup x.name ([] : Entries) = none := fun _ _ => rfl
  obtain ⟨last, hlast⟩ := leads_sections [] hxs hdistinct hnew
  rw [ofChars?, toList_sectionsText, dropMark_sections, hlast _ (Nat.lt_succ_self _)]
  rfl

end Sluice.Toml
