import Mathlib.Tactic.IntervalCases
import Sluice.Toml.Printer

/-!
# Texts of TOML are read as they were written

`Toml.quoting` chooses one of four kinds of texts. Whichever it is, `Toml.readString?` finds the end
of the text where `Toml.quoted` has put it, and the text in between (`Toml.readString?_quoted`), if
no quote follows.

In the two long kinds up to two quotes may stand next to each other, also in front of the three that
close the text.
-/

namespace Sluice.Toml

variable {c q : Char} {cs rest s t : List Char} {run : Nat} {long : Bool}

/-! ### Characters -/

theorem isPlain_of_needsCode (h : needsCode c = false) (hbreak : c ≠ '\n') : isPlain c = true := by
  simp only [needsCode, Bool.or_eq_false_iff, Bool.and_eq_false_iff, decide_eq_false_iff_not,
    bne_eq_false_iff_eq, beq_eq_false_iff_ne, not_lt] at h
  simp only [isPlain, Bool.or_eq_true, beq_iff_eq, Bool.and_eq_true, decide_eq_true_eq,
    bne_iff_ne]
  rcases h with ⟨(hle | rfl) | rfl, hne⟩
  · exact .inr ⟨hle, hne⟩
  · exact .inl rfl
  · exact absurd rfl hbreak

theorem ne_return_of_needsCode (h : needsCode c = false) : c ≠ '\r' := by
  rintro rfl
  cases h

/-- What follows a text: no quote. -/
def Unquoted (rest : List Char) : Prop := rest.head? ≠ some '"' ∧ rest.head? ≠ some '\''

theorem numbered?_hexByte : ∀ n : Fin 128,
    numbered? ('0' :: '0' :: (Digits.hexByte n.val.toUInt8).map Char.toUpper) =
      some (Char.ofNat n) := by
  decide

/-- A character that is written by its number. -/
theorem numbered?_needsCode (h : needsCode c = true) : ∃ a b,
    (Digits.hexByte c.toNat.toUInt8).map Char.toUpper = [a, b] ∧
      numbered? ['0', '0', a, b] = some c := by
  have hlt : c.toNat < 128 := by
    simp only [needsCode, Bool.or_eq_true, Bool.and_eq_true, decide_eq_true_eq, beq_iff_eq] at h
    omega
  refine ⟨_, _, rfl, ?_⟩
  have hnumber := numbered?_hexByte ⟨c.toNat, hlt⟩
  rwa [Char.ofNat_toNat] at hnumber

/-- How a character is written between double quotes. -/
inductive Written (long : Bool) (c : Char) : List Char → Prop where
  /-- By a letter. -/
  | letter {d : Char} (hd : escape? d = some c) (hu : d ≠ 'u') (hU : d ≠ 'U')
    (hblank : isBlank d = false) (hbreak : d ≠ '\n') (hreturn : d ≠ '\r') : Written long c ['\\', d]
  /-- By its number. -/
  | number {a b : Char} (h : numbered? ['0', '0', a, b] = some c) :
    Written long c ['\\', 'u', '0', '0', a, b]
  /-- As an end of the line. -/
  | lineBreak (hlong : long = true) (hc : c = '\n') : Written long c ['\n']
  /-- As it is. -/
  | plain (h : isPlain c = true) (hslash : c ≠ '\\') (hquote : c ≠ '"') (hbreak : c ≠ '\n')
    (hreturn : c ≠ '\r') : Written long c [c]

theorem written_escapedChar (hquote : c ≠ '"') : Written long c (escapedChar long c) := by
  unfold escapedChar
  split_ifs with h1 h2 h3 h4 h5 h6 h7 h8
  · exact h1 ▸ .letter (d := 'b') rfl (by decide) (by decide) rfl (by decide) (by decide)
  · exact h2 ▸ .letter (d := 't') rfl (by decide) (by decide) rfl (by decide) (by decide)
  · exact .lineBreak h4 h3
  · exact h3 ▸ .letter (d := 'n') rfl (by decide) (by decide) rfl (by decide) (by decide)
  · exact h5 ▸ .letter (d := 'f') rfl (by decide) (by decide) rfl (by decide) (by decide)
  · exact h6 ▸ .letter (d := 'r') rfl (by decide) (by decide) rfl (by decide) (by decide)
  · subst h7
    exact .letter rfl (by decide) (by decide) rfl (by decide) (by decide)
  · obtain ⟨a, b, hab, hnumber⟩ := numbered?_needsCode h8
    rw [hab]
    exact .number hnumber
  · exact .plain (isPlain_of_needsCode (by simpa using h8) h3) h7 hquote h3 h6

/-- A quote is written as such, or with a backslash before it. -/
theorem written_quote : Written long '"' ['\\', '"'] :=
  .letter rfl (by decide) (by decide) rfl (by decide) (by decide)

theorem Written.head_ne_quote {w : List Char} (h : Written long c w) (s : List Char) :
    (w ++ s).head? ≠ some '"' := by
  cases h with
  | letter | number => simp
  | lineBreak => simp
  | plain _ _ hquote => simpa using hquote

/-! ### Texts on one line -/

theorem basic?_written {w : List Char} (h : Written false c w) :
    basic? (w ++ s) = after c (basic? s) := by
  cases h with
  | letter hd hu hU =>
    change basic? ('\\' :: _ :: s) = _
    rw [basic?, hd]
    · rfl
    · exact fun _ _ _ _ _ heq => absurd heq hu
    · exact fun _ _ _ _ _ _ _ _ _ heq => absurd heq hU
  | number h =>
    change basic? ('\\' :: 'u' :: '0' :: '0' :: _ :: _ :: s) = _
    rw [basic?, h]
    rfl
  | lineBreak hlong => cases hlong
  | plain h hslash hquote =>
    change basic? (c :: s) = _
    rw [basic?, h]
    · simp [hslash]
    · exact hquote
    all_goals
      intros
      exact hslash ‹c = '\\'›

theorem basic?_escaped (cs : List Char) (run : Nat) :
    basic? (escaped false run cs ++ '"' :: rest) = some (cs, rest) := by
  induction cs generalizing run with
  | nil => rfl
  | cons c cs ih =>
    by_cases hquote : c = '"'
    · subst hquote
      change basic? (['\\', '"'] ++ (escaped false 0 cs ++ '"' :: rest)) = _
      rw [basic?_written written_quote, ih]
      rfl
    · rw [escaped, if_neg hquote, List.append_assoc,
        basic?_written (written_escapedChar hquote), ih]
      rfl

theorem literal?_append (hcs : ∀ c ∈ cs, isPlain c = true ∧ c ≠ '\'') :
    literal? (cs ++ '\'' :: rest) = some (cs, rest) := by
  induction cs with
  | nil => rfl
  | cons c cs ih =>
    rw [List.forall_mem_cons] at hcs
    rw [List.cons_append, literal?, ih hcs.2, hcs.1.1]
    simp [hcs.1.2, after]

/-! ### Texts on many lines -/

theorem closing_of_head (h : rest.head? ≠ some q) : closing q rest = ([], rest) := by
  unfold closing
  split
  · rename_i a b r
    have ha : a ≠ q := by simpa using h
    simp [ha]
  · rename_i a
    have ha : a ≠ q := by simpa using h
    simp [ha]
  · rfl

theorem closing_one (h : rest.head? ≠ some q) : closing q (q :: rest) = ([q], rest) := by
  cases rest with
  | nil => simp [closing]
  | cons b r =>
    have hb : b ≠ q := by simpa using h
    simp [closing, hb]

theorem closing_two : closing q (q :: q :: rest) = ([q, q], rest) := by
  simp [closing]

/-- A reader of texts that three quotes close. -/
structure Closes (q : Char) (read : List Char → Option (List Char × List Char)) : Prop where
  /-- A quote that does not begin three of them belongs to the text. -/
  quote {s : List Char} : (∀ r, s ≠ q :: q :: r) → read (q :: s) = after q (read s)
  /-- Three quotes close it, with those that follow them. -/
  close {s : List Char} : read (q :: q :: q :: s) = some (closing q s)

namespace Closes

variable {read : List Char → Option (List Char × List Char)}

/-- Up to two quotes in front of another character belong to the text. -/
theorem quotes (h : Closes q read) (hrun : run ≤ 2) (hs : s.head? ≠ some q) :
    read (List.replicate run q ++ s) =
      (read s).map fun found => (List.replicate run q ++ found.1, found.2) := by
  have hne : ∀ r, s ≠ q :: r := by
    rintro r rfl
    exact hs rfl
  have hone : read (q :: s) = after q (read s) := h.quote fun r => hne _
  interval_cases run
  · simp
  · exact hone
  · have htwo : read (q :: q :: s) = after q (read (q :: s)) := by
      refine h.quote fun r heq => hne r ?_
      exact (List.cons.inj heq).2
    change read (q :: q :: s) = _
    rw [htwo, hone, after, after, Option.map_map]
    rfl

/-- Up to two quotes in front of the three that close the text belong to it. -/
theorem closed (h : Closes q read) (hrun : run ≤ 2) (hrest : rest.head? ≠ some q) :
    read (List.replicate run q ++ q :: q :: q :: rest) = some (List.replicate run q, rest) := by
  interval_cases run
  · exact h.close.trans (congrArg some (closing_of_head hrest))
  · exact h.close.trans (congrArg some (closing_one hrest))
  · exact h.close.trans (congrArg some closing_two)

end Closes

/-! ### Three double quotes -/

/-- One character that is neither a blank nor an end of a line. -/
theorem longBasic?_cons :
    isBlank c = false → c ≠ '\n' → c ≠ '\r' → longBasic? .kept (c :: s) =
      match c, s with
      | '"', '"' :: '"' :: r => some (closing '"' r)
      | '"', r => after '"' (longBasic? .kept r)
      | '\\', 'u' :: a :: b :: c :: d :: r =>
        (numbered? [a, b, c, d]).bind (after · (longBasic? .kept r))
      | '\\', 'U' :: a :: b :: c :: d :: e :: f :: g :: h :: r =>
        (numbered? [a, b, c, d, e, f, g, h]).bind (after · (longBasic? .kept r))
      | '\\', c :: r =>
        if isBlank c || c == '\n' || c == '\r' then longBasic? .joining (c :: r)
        else (escape? c).bind (after · (longBasic? .kept r))
      | c, r => if isPlain c then after c (longBasic? .kept r) else none := by
  intro hblank hbreak hreturn
  rw [longBasic?.eq_def]
  -- Unfolded once, and the cases of blanks and ends of lines are left out.
  split
  · contradiction
  · rename_i heq
    exact absurd (List.cons.inj heq).1 hbreak
  · rename_i heq
    exact absurd (List.cons.inj heq).1 hreturn
  · rename_i heq
    obtain ⟨rfl, rfl⟩ := List.cons.inj heq
    rw [if_neg (by simp [hblank]), if_neg (by simp)]
    rfl

theorem longBasic?_plain (h : isPlain c = true) (hslash : c ≠ '\\') (hquote : c ≠ '"')
    (hbreak : c ≠ '\n') (hreturn : c ≠ '\r') :
    longBasic? .kept (c :: s) = after c (longBasic? .kept s) := by
  cases hblank : isBlank c with
  | true =>
    rcases (by simpa [isBlank] using hblank : c = ' ' ∨ c = '\t') with rfl | rfl <;> rfl
  | false =>
    rw [longBasic?_cons hblank hbreak hreturn]
    split
    all_goals first
      | contradiction
      | exact if_pos h

theorem longBasic?_letter {d : Char} (hd : escape? d = some c) (hu : d ≠ 'u') (hU : d ≠ 'U')
    (hblank : isBlank d = false) (hbreak : d ≠ '\n') (hreturn : d ≠ '\r') :
    longBasic? .kept ('\\' :: d :: s) = after c (longBasic? .kept s) := by
  rw [longBasic?_cons rfl (by decide) (by decide)]
  split
  case h_5 =>
    rename_i heq
    obtain ⟨rfl, rfl⟩ := List.cons.inj heq
    rw [if_neg (by simp [hblank, hbreak, hreturn]), hd]
    rfl
  all_goals simp_all

theorem longBasic?_quote (h : ∀ r, s ≠ '"' :: '"' :: r) :
    longBasic? .kept ('"' :: s) = after '"' (longBasic? .kept s) := by
  rw [longBasic?_cons rfl (by decide) (by decide)]
  split
  case h_2 => rfl
  all_goals simp_all

theorem closes_longBasic? : Closes '"' (longBasic? .kept) := ⟨longBasic?_quote, rfl⟩

theorem longBasic?_written {w : List Char} (h : Written true c w) :
    longBasic? .kept (w ++ s) = after c (longBasic? .kept s) := by
  cases h with
  | letter hd hu hU hblank hbreak hreturn =>
    exact longBasic?_letter hd hu hU hblank hbreak hreturn
  | number h =>
    change longBasic? .kept ('\\' :: 'u' :: '0' :: '0' :: _ :: _ :: s) = _
    rw [longBasic?_cons rfl (by decide) (by decide)]
    exact congrArg (Option.bind · _) h
  | lineBreak hlong hc =>
    subst hc
    rfl
  | plain h hslash hquote hbreak hreturn =>
    exact longBasic?_plain h hslash hquote hbreak hreturn

theorem longBasic?_escaped (hrest : rest.head? ≠ some '"') (hrun : run ≤ 2) :
    longBasic? .kept
        (List.replicate run '"' ++ (escaped true run cs ++ '"' :: '"' :: '"' :: rest)) =
      some (List.replicate run '"' ++ cs, rest) := by
  -- the quotes just before are put in front, since whether they close the text is decided later
  induction cs generalizing run with
  | nil => simpa [escaped] using closes_longBasic?.closed hrun hrest
  | cons c cs ih =>
    have hnext := ih (Nat.zero_le 2)
    rw [List.replicate_zero, List.nil_append, List.nil_append] at hnext
    by_cases hquote : c = '"'
    · subst hquote
      rw [escaped, if_pos rfl, if_pos rfl]
      split_ifs with htwo
      · have hmore := ih htwo
        rwa [List.replicate_succ', List.append_assoc, List.append_assoc] at hmore
      · have hs : ('\\' :: '"' :: (escaped true 0 cs ++ '"' :: '"' :: '"' :: rest)).head? ≠
            some '"' := by simp
        have hstep : longBasic? .kept
            (['\\', '"'] ++ (escaped true 0 cs ++ '"' :: '"' :: '"' :: rest)) = _ :=
          longBasic?_written written_quote
        refine (closes_longBasic?.quotes hrun hs).trans ((congrArg _ hstep).trans ?_)
        rw [hnext]
        rfl
    · have hwritten : Written true c (escapedChar true c) := written_escapedChar hquote
      rw [escaped, if_neg hquote, List.append_assoc,
        closes_longBasic?.quotes hrun (hwritten.head_ne_quote _), longBasic?_written hwritten,
        hnext]
      rfl

/-! ### Three single quotes -/

theorem longLiteral?_quote (h : ∀ r, s ≠ '\'' :: '\'' :: r) :
    longLiteral? ('\'' :: s) = after '\'' (longLiteral? s) := by
  rw [longLiteral?]
  · rfl
  · exact fun r _ => h r
  all_goals
    intros
    contradiction

theorem closes_longLiteral? : Closes '\'' longLiteral? := ⟨longLiteral?_quote, rfl⟩

theorem longLiteral?_cons (hquote : c ≠ '\'') (hcode : needsCode c = false) :
    longLiteral? (c :: s) = after c (longLiteral? s) := by
  by_cases hbreak : c = '\n'
  · subst hbreak
    rfl
  · rw [longLiteral?, isPlain_of_needsCode hcode hbreak, if_pos rfl]
    · intro _ heq
      exact absurd heq hquote
    · exact hbreak
    · intro _ heq
      exact absurd heq (ne_return_of_needsCode hcode)

theorem longLiteral?_append (hrest : rest.head? ≠ some '\'')
    (hcode : ∀ c ∈ cs, needsCode c = false) (hrun : longestRun '\'' run cs ≤ 2) :
    longLiteral? (List.replicate run '\'' ++ (cs ++ '\'' :: '\'' :: '\'' :: rest)) =
      some (List.replicate run '\'' ++ cs, rest) := by
  induction cs generalizing run with
  | nil =>
    have hclosed := closes_longLiteral?.closed hrun hrest
    simpa [longestRun] using hclosed
  | cons c cs ih =>
    rw [List.forall_mem_cons] at hcode
    by_cases hquote : c = '\''
    · subst hquote
      have hlonger : longestRun '\'' (run + 1) cs ≤ 2 := by simpa [longestRun] using hrun
      have hmore := ih hcode.2 hlonger
      rwa [List.replicate_succ', List.append_assoc, List.append_assoc] at hmore
    · obtain ⟨hbefore, hafter⟩ : run ≤ 2 ∧ longestRun '\'' 0 cs ≤ 2 := by
        simpa [longestRun, hquote] using hrun
      have hnext := ih hcode.2 hafter
      rw [List.replicate_zero, List.nil_append, List.nil_append] at hnext
      rw [List.cons_append, closes_longLiteral?.quotes hbefore (by simpa using hquote),
        longLiteral?_cons hquote hcode.1, hnext]
      rfl

/-! ### The kind of a text -/

theorem le_longestRun : run ≤ longestRun q run cs := by
  induction cs generalizing run with
  | nil => exact le_rfl
  | cons c cs ih =>
    rw [longestRun]
    split_ifs
    · exact (Nat.le_succ run).trans ih
    · exact le_max_left _ _

theorem ne_of_longestRun_eq_zero (h : longestRun q 0 cs = 0) : ∀ c ∈ cs, c ≠ q := by
  induction cs with
  | nil => simp
  | cons c cs ih =>
    rw [longestRun] at h
    split_ifs at h with hc
    · exact absurd (le_longestRun.trans_eq h) (by simp)
    · rw [List.forall_mem_cons]
      exact ⟨by simpa using hc, ih (Nat.max_eq_zero_iff.1 h).2⟩

/-- A text in single quotes holds none of them, nor an end of a line, and is not empty. -/
theorem of_quoting_eq_literal (h : quoting cs = .literal) :
    (∀ c ∈ cs, isPlain c = true ∧ c ≠ '\'') ∧ cs ≠ [] := by
  have hne : cs ≠ [] := by
    rintro rfl
    cases h
  simp only [quoting] at h
  split_ifs at h with h1 h2
  simp only [Bool.and_eq_true, Bool.not_eq_true', List.any_eq_false, beq_iff_eq,
    List.contains_eq_mem, decide_eq_false_iff_not] at h2
  obtain ⟨⟨hcode, hsingles⟩, hbroken⟩ := h2
  refine ⟨fun c hc => ⟨?_, ne_of_longestRun_eq_zero hsingles c hc⟩, hne⟩
  refine isPlain_of_needsCode (by simpa using hcode c hc) ?_
  rintro rfl
  exact hbroken hc

theorem of_quoting_eq_longLiteral (h : quoting cs = .longLiteral) :
    (∀ c ∈ cs, needsCode c = false) ∧ longestRun '\'' 0 cs ≤ 2 := by
  simp only [quoting] at h
  split_ifs at h with h1 h2 h3 h4
  simp only [Bool.and_eq_true, Bool.not_eq_true', List.any_eq_false, decide_eq_true_eq] at h4
  exact ⟨fun c hc => by simpa using h4.1 c hc, h4.2⟩

/-! ### Texts -/

theorem dropBreak_of_head (hbreak : s.head? ≠ some '\n') (hreturn : s.head? ≠ some '\r') :
    dropBreak s = s := by
  unfold dropBreak
  split
  · exact absurd rfl hbreak
  · exact absurd rfl hreturn
  · rfl

/-- In front of a text with an end of the line stands another one, which the reader drops. -/
theorem dropBreak_start (hbreak : '\n' ∉ cs → s.head? ≠ some '\n' ∧ s.head? ≠ some '\r') :
    dropBreak ((if cs.contains '\n' then ['\n'] else []) ++ s) = s := by
  by_cases h : '\n' ∈ cs
  · simp [h, dropBreak]
  · simpa [h] using dropBreak_of_head (hbreak h).1 (hbreak h).2

theorem Written.head {w : List Char} (h : Written long c w) (hc : c ≠ '\n') (s : List Char) :
    (w ++ s).head? ≠ some '\n' ∧ (w ++ s).head? ≠ some '\r' := by
  cases h with
  | letter | number => simp
  | lineBreak _ hbreak => exact absurd hbreak hc
  | plain _ _ _ hbreak hreturn => simpa using ⟨hbreak, hreturn⟩

theorem head_escaped (hbreak : '\n' ∉ cs) :
    (escaped true run cs ++ '"' :: s).head? ≠ some '\n' ∧
      (escaped true run cs ++ '"' :: s).head? ≠ some '\r' := by
  cases cs with
  | nil => simp [escaped]
  | cons c cs =>
    rw [List.mem_cons, not_or] at hbreak
    rw [escaped]
    by_cases hquote : c = '"'
    · rw [if_pos hquote]
      split_ifs <;> simp
    · rw [if_neg hquote, List.append_assoc]
      exact (written_escapedChar hquote).head (Ne.symm hbreak.1) _

/-- Between double quotes on one line no quote stands at the start. -/
theorem escaped_ne (hrest : rest.head? ≠ some '"') (r : List Char) :
    escaped false 0 cs ++ '"' :: rest ≠ '"' :: '"' :: r := by
  cases cs with
  | nil =>
    rintro heq
    obtain rfl : rest = '"' :: r := (List.cons.inj heq).2
    exact hrest rfl
  | cons c cs =>
    intro heq
    by_cases hquote : c = '"'
    · rw [escaped, if_pos hquote] at heq
      simp at heq
    · rw [escaped, if_neg hquote, List.append_assoc] at heq
      exact (written_escapedChar hquote).head_ne_quote _ (congrArg List.head? heq)

/-- **A text is read as it was written**, of whichever kind it is. -/
theorem readString?_quoted (hrest : Unquoted rest) :
    readString? (quoted cs ++ rest) = some (String.ofList cs, rest) := by
  unfold quoted
  -- One case for each kind of quotes; which of them stand in the text decides the kind.
  cases hkind : quoting cs with
  | basic =>
    simp only [List.cons_append, List.append_assoc, List.nil_append]
    rw [readString?, basic?_escaped]
    · rfl
    · exact escaped_ne hrest.1
  | literal =>
    obtain ⟨hcs, hne⟩ := of_quoting_eq_literal hkind
    obtain ⟨c, cs, rfl⟩ := List.exists_cons_of_ne_nil hne
    have hc : c ≠ '\'' := (hcs c List.mem_cons_self).2
    simp only [List.cons_append, List.append_assoc, List.nil_append]
    rw [readString?, ← List.cons_append, literal?_append hcs]
    · rfl
    · exact fun r heq => hc (List.cons.inj heq).1
  | longBasic =>
    have hread : longBasic? .kept (escaped true 0 cs ++ '"' :: '"' :: '"' :: rest) =
        some (cs, rest) := longBasic?_escaped hrest.1 (Nat.zero_le 2)
    simp only [List.cons_append, List.append_assoc, List.nil_append]
    rw [readString?, dropBreak_start head_escaped, hread]
    rfl
  | longLiteral =>
    obtain ⟨hcode, hrun⟩ := of_quoting_eq_longLiteral hkind
    have hread := longLiteral?_append hrest.2 hcode hrun
    rw [List.replicate_zero, List.nil_append, List.nil_append] at hread
    simp only [List.cons_append, List.append_assoc, List.nil_append]
    rw [readString?, dropBreak_start, hread]
    · rfl
    · intro hbreak
      cases cs with
      | nil => simp
      | cons c cs =>
        rw [List.forall_mem_cons] at hcode
        rw [List.mem_cons, not_or] at hbreak
        simpa using ⟨Ne.symm hbreak.1, ne_return_of_needsCode hcode.1⟩

/-- A quote of the text stands in front of the three that close it. -/
example : quoted ['\'', '"'] = ['"', '"', '"', '\'', '"', '"', '"', '"'] := by decide

end Sluice.Toml
