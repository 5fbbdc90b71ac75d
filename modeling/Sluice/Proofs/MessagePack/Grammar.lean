import Sluice.MessagePack.Reader
import Mathlib.Data.List.Forall2

/-!
# Where a MessagePack value ends

A value tells itself where it ends. What is read is the value at the start of the bytes, and bytes
that follow it are left alone, whatever they are.

* `MessagePack.Reads` : what a reader takes from the start of the bytes, and that it takes no more;
  `MessagePack.Reads.unique` : then there is only one such start;
* `MessagePack.Reads.map`, `MessagePack.Reads.bind` : readers made of readers; of them are made
  those of the parts of a value, `MessagePack.reads_sized`, `MessagePack.Reads.items` and their
  like;
* `MessagePack.Follows` : what may follow a first byte, and the value of it all;
* `MessagePack.Encodes` : the bytes are those of a value, in any of the forms that it may have;
* `MessagePack.reads_value` : this is what is read.
-/

namespace Sluice.MessagePack

variable {α β : Type} {d n : Nat} {s t rest rest' : Bytes}

/-! ### Readers -/

/-- A reader takes bytes that are some of `G` from the start, and leaves all that follow them. -/
def Reads (read : Bytes → Option (α × Bytes)) (G : α → Bytes → Prop) : Prop :=
  ∀ s a rest, read s = some (a, rest) ↔ ∃ front, G a front ∧ s = front ++ rest

namespace Reads

variable {read : Bytes → Option (α × Bytes)} {G G' : α → Bytes → Prop}

/-- **Bytes start in one way only** with something that can be read. -/
theorem unique (h : Reads read G) {a b : α} (ha : G a s) (hb : G b t)
    (heq : s ++ rest = t ++ rest') : a = b ∧ s = t ∧ rest = rest' := by
  have hreadA : read (s ++ rest) = some (a, rest) := (h _ _ _).2 ⟨s, ha, rfl⟩
  have hreadB : read (s ++ rest) = some (b, rest') := (h _ _ _).2 ⟨t, hb, heq⟩
  rw [hreadA, Option.some.injEq, Prod.mk.injEq] at hreadB
  obtain ⟨rfl, rfl⟩ := hreadB
  exact ⟨rfl, List.append_cancel_right heq, rfl⟩

theorem congr (h : Reads read G) (hG : ∀ a s, G a s ↔ G' a s) : Reads read G' := by
  intro s a rest
  simp only [h s a rest, hG]

/-- Nothing is taken. -/
theorem pure (a : α) : Reads (fun s => some (a, s)) fun b s => b = a ∧ s = [] := by
  intro s b rest
  simp only [Option.some.injEq, Prod.mk.injEq]
  constructor
  · rintro ⟨rfl, rfl⟩
    exact ⟨[], ⟨rfl, rfl⟩, rfl⟩
  · rintro ⟨_, ⟨rfl, rfl⟩, rfl⟩
    exact ⟨rfl, rfl⟩

/-- What is read is made into something else. -/
theorem map (h : Reads read G) (f : α → β) :
    Reads (fun s => (read s).map fun (a, r) => (f a, r)) fun b s => ∃ a, G a s ∧ b = f a := by
  intro s b rest
  simp only [Option.map_eq_some_iff, Prod.exists, Prod.mk.injEq]
  constructor
  · rintro ⟨a, r, hread, rfl, rfl⟩
    obtain ⟨t, ht, rfl⟩ := (h s a r).1 hread
    exact ⟨t, ⟨a, ht, rfl⟩, rfl⟩
  · rintro ⟨t, ⟨a, ht, rfl⟩, rfl⟩
    exact ⟨a, rest, (h _ _ _).2 ⟨t, ht, rfl⟩, rfl, rfl⟩

/-- What is read says how to go on. -/
theorem bind (h : Reads read G) {next : α → Bytes → Option (β × Bytes)}
    {H : α → β → Bytes → Prop} (hnext : ∀ a, Reads (next a) (H a)) :
    Reads (fun s => (read s).bind fun (a, r) => next a r)
      fun b s => ∃ a t u, G a t ∧ H a b u ∧ s = t ++ u := by
  intro s b rest
  simp only [Option.bind_eq_some_iff, Prod.exists]
  constructor
  · rintro ⟨a, r, hread, hrest⟩
    obtain ⟨t, ht, rfl⟩ := (h s a r).1 hread
    obtain ⟨u, hu, rfl⟩ := (hnext a r b rest).1 hrest
    exact ⟨t ++ u, ⟨a, t, u, ht, hu, rfl⟩, (List.append_assoc _ _ _).symm⟩
  · rintro ⟨_, ⟨a, t, u, ht, hu, rfl⟩, rfl⟩
    exact ⟨a, u ++ rest, (h _ _ _).2 ⟨t, ht, List.append_assoc _ _ _⟩,
      (hnext a _ _ _).2 ⟨u, hu, rfl⟩⟩

end Reads

/-! ### Numbers and lengths -/

theorem reads_split (n : Nat) : Reads (split? n) fun t s => t = s ∧ s.length = n := by
  intro s t rest
  simp only [split?, Option.ite_none_right_eq_some, Option.some.injEq, Prod.mk.injEq]
  constructor
  · rintro ⟨hlen, rfl, rfl⟩
    exact ⟨s.take n, ⟨rfl, hlen⟩, (List.take_append_drop n s).symm⟩
  · rintro ⟨_, ⟨rfl, rfl⟩, rfl⟩
    simp

theorem reads_unsigned (width : Nat) :
    Reads (unsigned? width) fun n s => n = bigEndian s ∧ s.length = width := by
  refine ((reads_split width).map bigEndian).congr ?_
  intro n s
  constructor
  · rintro ⟨_, ⟨rfl, hlen⟩, rfl⟩
    exact ⟨rfl, hlen⟩
  · rintro ⟨rfl, hlen⟩
    exact ⟨s, ⟨rfl, hlen⟩, rfl⟩

/-- The number that bytes stand for, whose first bit counts negatively. -/
def twosComplement (s : Bytes) : Int :=
  if 2 * bigEndian s < Nat.pow 256 s.length then bigEndian s
  else (bigEndian s : Int) - Nat.pow 256 s.length

theorem reads_signed (width : Nat) :
    Reads (signed? width) fun n s => n = twosComplement s ∧ s.length = width := by
  refine ((reads_unsigned width).map fun u =>
    if 2 * u < Nat.pow 256 width then (u : Int) else (u : Int) - Nat.pow 256 width).congr ?_
  intro n s
  constructor
  · rintro ⟨_, ⟨rfl, rfl⟩, rfl⟩
    exact ⟨rfl, rfl⟩
  · rintro ⟨rfl, rfl⟩
    exact ⟨_, ⟨rfl, rfl⟩, rfl⟩

/-- Bytes after their number in `width` bytes. -/
def Sized (width : Nat) (t s : Bytes) : Prop :=
  ∃ l, l.length = width ∧ t.length = bigEndian l ∧ s = l ++ t

theorem reads_sized (width : Nat) : Reads (sized? width) (Sized width) := by
  refine ((reads_unsigned width).bind reads_split).congr ?_
  intro t s
  constructor
  · rintro ⟨_, l, _, ⟨rfl, hl⟩, ⟨rfl, ht⟩, rfl⟩
    exact ⟨l, hl, ht, rfl⟩
  · rintro ⟨l, hl, ht, rfl⟩
    exact ⟨_, l, t, ⟨rfl, hl⟩, ⟨rfl, ht⟩, rfl⟩

/-! ### Rows -/

/-- Pieces in a row, each of which is some of `G`. -/
def Row (G : α → Bytes → Prop) (as : List α) (s : Bytes) : Prop :=
  ∃ pieces, List.Forall₂ G as pieces ∧ s = pieces.flatten

theorem row_nil {G : α → Bytes → Prop} : Row G [] s ↔ s = [] := by
  simp [Row]

theorem row_cons {G : α → Bytes → Prop} {a : α} {as : List α} :
    Row G (a :: as) s ↔ ∃ t u, G a t ∧ Row G as u ∧ s = t ++ u := by
  constructor
  · rintro ⟨pieces, hpieces, rfl⟩
    obtain ⟨t, ps, ht, hps, rfl⟩ := List.forall₂_cons_left_iff.1 hpieces
    exact ⟨t, ps.flatten, ht, ⟨ps, hps, rfl⟩, List.flatten_cons⟩
  · rintro ⟨t, u, ht, ⟨ps, hps, rfl⟩, rfl⟩
    exact ⟨t :: ps, .cons ht hps, List.flatten_cons.symm⟩

theorem row_of_length_zero {G : α → Bytes → Prop} {as : List α} :
    as = [] ∧ s = [] ↔ as.length = 0 ∧ Row G as s := by
  constructor
  · rintro ⟨rfl, rfl⟩
    exact ⟨rfl, row_nil.2 rfl⟩
  · rintro ⟨hlen, hrow⟩
    obtain rfl := List.length_eq_zero_iff.1 hlen
    exact ⟨rfl, row_nil.1 hrow⟩

theorem row_of_length_succ {G : α → Bytes → Prop} {as : List α} :
    (∃ a t u, G a t ∧ (∃ bs, (bs.length = n ∧ Row G bs u) ∧ as = a :: bs) ∧ s = t ++ u) ↔
      as.length = n + 1 ∧ Row G as s := by
  constructor
  · rintro ⟨a, t, u, ht, ⟨bs, ⟨rfl, hu⟩, rfl⟩, rfl⟩
    exact ⟨rfl, row_cons.2 ⟨t, u, ht, hu, rfl⟩⟩
  · rintro ⟨hlen, hrow⟩
    obtain ⟨a, bs, rfl⟩ := List.exists_cons_of_length_eq_add_one hlen
    obtain ⟨t, u, ht, hu, rfl⟩ := row_cons.1 hrow
    exact ⟨a, t, u, ht, ⟨bs, ⟨Nat.succ.inj hlen, hu⟩, rfl⟩, rfl⟩

variable {value : Bytes → Option (MessagePack × Bytes)} {G : MessagePack → Bytes → Prop}

theorem readItems_succ (value : Bytes → Option (MessagePack × Bytes)) (n : Nat) :
    readItems value (n + 1) = fun s => (value s).bind fun (v, r) =>
      (readItems value n r).map fun (vs, r) => (v :: vs, r) := by
  funext s
  simp only [readItems, Option.map_eq_bind]
  rfl

theorem readMembers_succ (value : Bytes → Option (MessagePack × Bytes)) (n : Nat) :
    readMembers value (n + 1) = fun s => (value s).bind fun (k, r) => (value r).bind fun (v, r) =>
      (readMembers value n r).map fun (ms, r) => ((k, v) :: ms, r) := by
  funext s
  simp only [readMembers, Option.map_eq_bind]
  rfl

theorem Reads.items (h : Reads value G) (n : Nat) :
    Reads (readItems value n) fun vs s => vs.length = n ∧ Row G vs s := by
  induction n with
  | zero => exact (Reads.pure []).congr fun _ _ => row_of_length_zero
  | succ n ih =>
    rw [readItems_succ]
    exact (h.bind fun v => ih.map (v :: ·)).congr fun _ _ => row_of_length_succ

/-- Two pieces in a row. -/
def Pair (G : MessagePack → Bytes → Prop) (m : MessagePack × MessagePack) (s : Bytes) : Prop :=
  ∃ k v, G m.1 k ∧ G m.2 v ∧ s = k ++ v

theorem Reads.members (h : Reads value G) (n : Nat) :
    Reads (readMembers value n) fun ms s => ms.length = n ∧ Row (Pair G) ms s := by
  induction n with
  | zero => exact (Reads.pure []).congr fun _ _ => row_of_length_zero
  | succ n ih =>
    rw [readMembers_succ]
    refine (h.bind fun k => h.bind fun v => ih.map ((k, v) :: ·)).congr ?_
    intro ms s
    rw [← row_of_length_succ]
    constructor
    · rintro ⟨k, t, _, ht, ⟨v, u, w, hu, hms, rfl⟩, rfl⟩
      exact ⟨(k, v), t ++ u, w, ⟨t, u, ht, hu, rfl⟩, hms, (List.append_assoc _ _ _).symm⟩
    · rintro ⟨⟨k, v⟩, _, w, ⟨t, u, ht, hu, rfl⟩, hms, rfl⟩
      exact ⟨k, t, u ++ w, ht, ⟨v, u, w, hu, hms, rfl⟩, List.append_assoc _ _ _⟩

/-! ### Values -/

/-- What may follow a first byte that announces something, and the value of it all. The values
within it are `G`, if there may be any: `d` is how deep they may be nested. -/
inductive Follows (d : Nat) (G : MessagePack → Bytes → Prop) : Head → MessagePack → Bytes → Prop
  | value (v : MessagePack) : Follows d G (.value v) v []
  | unsigned (s : Bytes) : Follows d G (.unsigned s.length) (.uint (bigEndian s)) s
  | signed (s : Bytes) : Follows d G (.signed s.length) (.int (twosComplement s)) s
  | float (s : Bytes) : Follows d G (.float s.length) .float s
  | text (s : Bytes) : Follows d G (.text s.length) (.str s) s
  | textSized {width : Nat} {t s : Bytes} (h : Sized width t s) :
    Follows d G (.textSized width) (.str t) s
  | bytesSized {width : Nat} {t s : Bytes} (h : Sized width t s) :
    Follows d G (.bytesSized width) (.bin t) s
  | array {vs : List MessagePack} {s : Bytes} (hd : d ≠ 0) (h : Row G vs s) :
    Follows d G (.array vs.length) (.array vs) s
  | arraySized {vs : List MessagePack} {l s : Bytes} (hd : d ≠ 0) (hl : vs.length = bigEndian l)
    (h : Row G vs s) : Follows d G (.arraySized l.length) (.array vs) (l ++ s)
  | map {ms : List (MessagePack × MessagePack)} {s : Bytes} (hd : d ≠ 0) (h : Row (Pair G) ms s) :
    Follows d G (.map ms.length) (.map ms) s
  | mapSized {ms : List (MessagePack × MessagePack)} {l s : Bytes} (hd : d ≠ 0)
    (hl : ms.length = bigEndian l) (h : Row (Pair G) ms s) :
    Follows d G (.mapSized l.length) (.map ms) (l ++ s)
  | ext {n : Nat} {s : Bytes} (hd : d ≠ 0) (h : s.length = n + 1) : Follows d G (.ext n) .ext s
  | extSized {l s : Bytes} (hd : d ≠ 0) (h : s.length = bigEndian l + 1) :
    Follows d G (.extSized l.length) .ext (l ++ s)

/-- The bytes are those of a value that is nested less than some number deep. -/
def Encodes : Nat → MessagePack → Bytes → Prop
  | 0 => fun _ _ => False
  | d + 1 => fun v s => ∃ b t, s = b :: t ∧ Follows d (Encodes d) (head b) v t

/-- What is read after a first byte is what may follow it. -/
theorem follows_of_readValue {b : UInt8} {v : MessagePack} (ih : Reads (readValue d) (Encodes d))
    (h : readValue (d + 1) (b :: s) = some (v, rest)) :
    ∃ t, Follows d (Encodes d) (head b) v t ∧ s = t ++ rest := by
  unfold readValue at h
  cases hb : head b with
  | value u =>
    simp only [hb] at h
    obtain ⟨t, ⟨rfl, rfl⟩, hs⟩ := (Reads.pure u s v rest).1 h
    exact ⟨[], .value v, hs⟩
  | unsigned w =>
    simp only [hb] at h
    obtain ⟨t, ⟨_, ⟨rfl, rfl⟩, rfl⟩, hs⟩ := ((reads_unsigned w).map .uint s v rest).1 h
    exact ⟨t, .unsigned t, hs⟩
  | signed w =>
    simp only [hb] at h
    obtain ⟨t, ⟨_, ⟨rfl, rfl⟩, rfl⟩, hs⟩ := ((reads_signed w).map .int s v rest).1 h
    exact ⟨t, .signed t, hs⟩
  | float w =>
    simp only [hb] at h
    obtain ⟨t, ⟨_, ⟨rfl, rfl⟩, rfl⟩, hs⟩ :=
      ((reads_split w).map (fun _ => .float) s v rest).1 h
    exact ⟨_, .float _, hs⟩
  | text n =>
    simp only [hb] at h
    obtain ⟨t, ⟨_, ⟨rfl, rfl⟩, rfl⟩, hs⟩ := ((reads_split n).map .str s v rest).1 h
    exact ⟨_, .text _, hs⟩
  | textSized w =>
    simp only [hb] at h
    obtain ⟨t, ⟨u, hu, rfl⟩, hs⟩ := ((reads_sized w).map .str s v rest).1 h
    exact ⟨t, .textSized hu, hs⟩
  | bytesSized w =>
    simp only [hb] at h
    obtain ⟨t, ⟨u, hu, rfl⟩, hs⟩ := ((reads_sized w).map .bin s v rest).1 h
    exact ⟨t, .bytesSized hu, hs⟩
  | array n =>
    simp only [hb, Option.ite_none_left_eq_some] at h
    obtain ⟨t, ⟨vs, ⟨rfl, hrow⟩, rfl⟩, hs⟩ := ((ih.items n).map .array s v rest).1 h.2
    exact ⟨t, .array h.1 hrow, hs⟩
  | arraySized w =>
    simp only [hb, Option.ite_none_left_eq_some] at h
    obtain ⟨_, ⟨_, l, t, ⟨rfl, rfl⟩, ⟨vs, ⟨hl, hrow⟩, rfl⟩, rfl⟩, hs⟩ :=
      ((reads_unsigned w).bind (fun n => (ih.items n).map .array) s v rest).1 h.2
    exact ⟨l ++ t, .arraySized h.1 hl hrow, hs⟩
  | map n =>
    simp only [hb, Option.ite_none_left_eq_some] at h
    obtain ⟨t, ⟨ms, ⟨rfl, hrow⟩, rfl⟩, hs⟩ := ((ih.members n).map .map s v rest).1 h.2
    exact ⟨t, .map h.1 hrow, hs⟩
  | mapSized w =>
    simp only [hb, Option.ite_none_left_eq_some] at h
    obtain ⟨_, ⟨_, l, t, ⟨rfl, rfl⟩, ⟨ms, ⟨hl, hrow⟩, rfl⟩, rfl⟩, hs⟩ :=
      ((reads_unsigned w).bind (fun n => (ih.members n).map .map) s v rest).1 h.2
    exact ⟨l ++ t, .mapSized h.1 hl hrow, hs⟩
  | ext n =>
    simp only [hb, Option.ite_none_left_eq_some] at h
    obtain ⟨t, ⟨_, ⟨rfl, hlen⟩, rfl⟩, hs⟩ :=
      ((reads_split (n + 1)).map (fun _ => .ext) s v rest).1 h.2
    exact ⟨_, .ext h.1 hlen, hs⟩
  | extSized w =>
    simp only [hb, Option.ite_none_left_eq_some] at h
    obtain ⟨_, ⟨_, l, t, ⟨rfl, rfl⟩, ⟨_, ⟨rfl, hlen⟩, rfl⟩, rfl⟩, hs⟩ :=
      ((reads_unsigned w).bind (fun n => (reads_split (n + 1)).map fun _ => .ext) s v rest).1 h.2
    exact ⟨l ++ _, .extSized h.1 hlen, hs⟩
  | reserved => simp [hb] at h

/-- What may follow a first byte is read, whatever comes next. -/
theorem readValue_of_follows {b : UInt8} {v : MessagePack} (ih : Reads (readValue d) (Encodes d))
    (h : Follows d (Encodes d) (head b) v t) (rest : Bytes) :
    readValue (d + 1) (b :: (t ++ rest)) = some (v, rest) := by
  unfold readValue
  generalize head b = x at h
  -- One case for each kind of head, as in `follows_of_readValue`.
  cases h with
  | value v => rfl
  | unsigned t => simp [(reads_unsigned _ _ _ _).2 ⟨t, ⟨rfl, rfl⟩, rfl⟩]
  | signed t => simp [(reads_signed _ _ _ _).2 ⟨t, ⟨rfl, rfl⟩, rfl⟩]
  | float t => simp [(reads_split _ _ _ _).2 ⟨t, ⟨rfl, rfl⟩, rfl⟩]
  | text t => simp [(reads_split _ _ _ _).2 ⟨t, ⟨rfl, rfl⟩, rfl⟩]
  | textSized hsized => simp [(reads_sized _ _ _ _).2 ⟨t, hsized, rfl⟩]
  | bytesSized hsized => simp [(reads_sized _ _ _ _).2 ⟨t, hsized, rfl⟩]
  | array hd hrow => simp [hd, (ih.items _ _ _ _).2 ⟨t, ⟨rfl, hrow⟩, rfl⟩]
  | @arraySized vs l t hd hl hrow =>
    simp [hd, (reads_unsigned _ _ _ _).2 ⟨l, ⟨rfl, rfl⟩, rfl⟩,
      (ih.items _ _ _ _).2 ⟨t, ⟨hl, hrow⟩, rfl⟩]
  | map hd hrow => simp [hd, (ih.members _ _ _ _).2 ⟨t, ⟨rfl, hrow⟩, rfl⟩]
  | @mapSized ms l t hd hl hrow =>
    simp [hd, (reads_unsigned _ _ _ _).2 ⟨l, ⟨rfl, rfl⟩, rfl⟩,
      (ih.members _ _ _ _).2 ⟨t, ⟨hl, hrow⟩, rfl⟩]
  | ext hd hlen => simp [hd, (reads_split _ _ _ _).2 ⟨t, ⟨rfl, hlen⟩, rfl⟩]
  | @extSized l t hd hlen =>
    simp [hd, (reads_unsigned _ _ _ _).2 ⟨l, ⟨rfl, rfl⟩, rfl⟩,
      (reads_split _ _ _ _).2 ⟨t, ⟨rfl, hlen⟩, rfl⟩]

/-- **A value is read from its bytes, and from nothing else**; those that follow it are left. -/
theorem reads_value (d : Nat) : Reads (readValue d) (Encodes d) := by
  induction d with
  | zero =>
    intro s v rest
    simp [readValue, Encodes]
  | succ d ih =>
    intro s v rest
    constructor
    · intro h
      cases s with
      | nil => simp [readValue] at h
      | cons b s =>
        obtain ⟨t, hfollows, rfl⟩ := follows_of_readValue ih h
        exact ⟨b :: t, ⟨b, t, rfl, hfollows⟩, rfl⟩
    · rintro ⟨_, ⟨b, t, rfl, hfollows⟩, rfl⟩
      exact readValue_of_follows ih hfollows rest

end Sluice.MessagePack
