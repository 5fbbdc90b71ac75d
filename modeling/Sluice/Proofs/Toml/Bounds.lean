import Mathlib.Algebra.Ring.Int.Defs
import Mathlib.Algebra.Ring.Nat
import Sluice.Toml.Reader

/-!
# The whole numbers of TOML have 64 bits with a sign

`Toml.Bounded` says so of a value and of everything within it. Every reader keeps to it
(`Toml.ofChars?_bounded`), and so does whoever asks a value for its fields and numbers
(`Toml.Bounded.record?`, `Toml.Bounded.uint64?`).
-/

namespace Sluice.Toml

/-- No whole number of a value exceeds 64 bits with a sign. -/
inductive Bounded : Toml → Prop where
  | string (s : String) : Bounded (.string s)
  | integer {n : Int} (h : n < 2 ^ 63) : Bounded (.integer n)
  | float (x : Float) : Bounded (.float x)
  | bool (b : Bool) : Bounded (.bool b)
  | moment (s : String) : Bounded (.moment s)
  | array {items : List Toml} (h : ∀ v ∈ items, Bounded v) : Bounded (.array items)
  | table (o : Origin) {es : Entries} (h : ∀ e ∈ es, Bounded e.2) : Bounded (.table o es)
  | rows {tables : List Entries} (h : ∀ es ∈ tables, ∀ e ∈ es, Bounded e.2) :
    Bounded (.rows tables)

/-- Named values within the bounds. -/
def AllBounded (es : Entries) : Prop := ∀ e ∈ es, Bounded e.2

/-- A reader yields values within the bounds. -/
def Bounds (read : List Char → Option (Toml × List Char)) : Prop :=
  ∀ {s v r}, read s = some (v, r) → Bounded v

variable {s r : List Char} {v w : Toml} {es es' : Entries} {k : String} {path : List String}

/-! ### Numbers, dates and times -/

theorem whole?_bounded {negative : Bool} {n : Nat} (h : whole? negative n = some v) :
    Bounded v := by
  rw [whole?, Option.ite_none_right_eq_some] at h
  obtain ⟨hle, h⟩ := h
  cases h
  refine .integer ?_
  cases negative <;> simp at hle ⊢ <;> omega

theorem based?_bounded (base : Nat) (isDigit : Char → Bool) : Bounds (based? base isDigit) := by
  intro s v r h
  simp only [based?, Option.bind_eq_bind, Option.bind_eq_some_iff] at h
  obtain ⟨⟨ds, t⟩, -, w, hw, h⟩ := h
  cases h
  exact whole?_bounded hw

theorem real?_bounded {negative : Bool} {ds : List Char} {e : Int}
    (h : real? negative ds e = some v) : Bounded v := by
  simp only [real?] at h
  split_ifs at h
  all_goals
    cases h
    exact .float _

theorem decimal?_bounded (negative : Bool) : Bounds (decimal? negative) := by
  intro s v r h
  simp only [decimal?, Option.bind_eq_bind, Option.bind_eq_some_iff] at h
  obtain ⟨⟨ds, t⟩, -, ⟨places, t'⟩, -, ⟨exponent, t''⟩, -, h⟩ := h
  split at h
  · obtain ⟨w, hw, h⟩ := Option.bind_eq_some_iff.1 h
    cases h
    exact whole?_bounded hw
  · obtain ⟨w, hw, h⟩ := Option.bind_eq_some_iff.1 h
    cases h
    exact real?_bounded hw

theorem signed?_bounded (negative : Bool) : Bounds (signed? negative) := by
  intro s v r h
  unfold signed? at h
  split at h
  · cases h
    exact .float _
  · cases h
    exact .float _
  · exact decimal?_bounded negative h

theorem readNumber?_bounded : Bounds readNumber? := by
  intro s v r h
  have hmoment {found : Option (List Char)} (h : found.map (upTo s) = some (v, r)) : Bounded v := by
    obtain ⟨t, -, ht⟩ := Option.map_eq_some_iff.1 h
    cases ht
    exact .moment _
  unfold readNumber? at h
  split_ifs at h
  · exact hmoment h
  · exact hmoment h
  · split at h
    · exact based?_bounded _ _ h
    · exact based?_bounded _ _ h
    · exact based?_bounded _ _ h
    · exact signed?_bounded _ h
    · exact signed?_bounded _ h
    · exact signed?_bounded _ h

/-! ### Tables -/

theorem allBounded_nil : AllBounded [] := fun _ he => absurd he List.not_mem_nil

theorem AllBounded.lookup (hes : AllBounded es) (h : es.lookup k = some v) : Bounded v := by
  obtain ⟨before, after, rfl, -⟩ := List.lookup_eq_some_iff.1 h
  exact hes (k, v) (by simp)

theorem AllBounded.put (hes : AllBounded es) (hv : Bounded v) : AllBounded (put k v es) := by
  induction es with
  | nil => exact List.forall_mem_singleton.2 hv
  | cons e es ih =>
    obtain ⟨he, htail⟩ := List.forall_mem_cons.1 hes
    rw [Toml.put]
    split_ifs
    · exact List.forall_mem_cons.2 ⟨hv, htail⟩
    · exact List.forall_mem_cons.2 ⟨he, ih htail⟩

/-- A row with another table at its end. -/
theorem rows_append {tables : List Entries} (htables : ∀ es ∈ tables, AllBounded es)
    (hes : AllBounded es) : Bounded (.rows (tables ++ [es])) := by
  refine .rows fun es' hes' => ?_
  rcases List.mem_append.1 hes' with hmem | hmem
  · exact htables es' hmem
  · rwa [List.mem_singleton.1 hmem]

/-- A change of a table keeps to the bounds. -/
def Keeps (f : Origin → Entries → Option (Origin × Entries)) : Prop :=
  ∀ {o o' es es'}, AllBounded es → f o es = some (o', es') → AllBounded es'

theorem alter?_bounded {f : Origin → Entries → Option (Origin × Entries)} (hf : Keeps f)
    (isKey : Bool) (path : List String) : Keeps (alter? isKey f path) := by
  induction path with
  | nil => exact hf
  | cons k path ih =>
    intro o o' es es' hes h
    -- whatever table the path enters, its entries keep to the bounds
    have henter {o₁ : Origin} {inner : Entries} (hinner : AllBounded inner)
        (h : (alter? isKey f path o₁ inner).bind (fun x =>
          some (o, Toml.put k (.table x.1 x.2) es)) = some (o', es')) : AllBounded es' := by
      obtain ⟨⟨o₂, inner'⟩, hinner', h⟩ := Option.bind_eq_some_iff.1 h
      cases h
      exact hes.put (.table _ (ih hinner hinner'))
    rw [alter?] at h
    split at h
    · exact henter allBounded_nil h
    · contradiction
    · rename_i inner hlookup
      cases isKey with
      | true => contradiction
      | false =>
        cases hes.lookup hlookup with
        | table _ hinner => exact henter hinner h
    · rename_i inner _ _ hlookup
      cases hes.lookup hlookup with
      | table _ hinner => exact henter hinner h
    · rename_i tables hlookup
      cases hes.lookup hlookup with
      | rows htables =>
        simp only [Option.bind_eq_bind, Option.bind_eq_some_iff] at h
        obtain ⟨⟨o₂, inner'⟩, hinner', h⟩ := h
        cases h
        have hlast : AllBounded (tables.getLast?.getD []) := by
          cases hlast : tables.getLast? with
          | none => exact allBounded_nil
          | some es₁ => exact htables es₁ (List.mem_of_getLast? hlast)
        refine hes.put (rows_append (fun es₁ hes₁ => ?_) (ih hlast hinner'))
        exact htables es₁ (List.dropLast_subset _ hes₁)
    · contradiction

theorem changed_bounded {f : Origin → Entries → Option (Origin × Entries)} {isKey : Bool}
    {o : Origin} (hf : Keeps f) (hes : AllBounded es)
    (h : (alter? isKey f path o es).map (·.2) = some es') : AllBounded es' := by
  obtain ⟨⟨o', inner⟩, hchange, rfl⟩ := Option.map_eq_some_iff.1 h
  exact alter?_bounded hf isKey path hes hchange

theorem put?_bounded {o : Origin} (hes : AllBounded es) (hv : Bounded v)
    (h : put? path k v o es = some es') : AllBounded es' := by
  refine changed_bounded (fun hes h => ?_) hes h
  rw [Option.ite_none_left_eq_some] at h
  cases h.2
  exact hes.put hv

theorem openTable?_bounded (hes : AllBounded es) (h : openTable? path k es = some es') :
    AllBounded es' := by
  refine changed_bounded (fun hes h => ?_) hes h
  split at h
  · cases h
    exact hes.put (.table _ allBounded_nil)
  · rename_i inner hlookup
    cases h
    cases hes.lookup hlookup with
    | table _ hinner => exact hes.put (.table _ hinner)
  · contradiction

theorem openRow?_bounded (hes : AllBounded es) (h : openRow? path k es = some es') :
    AllBounded es' := by
  refine changed_bounded (fun hes h => ?_) hes h
  split at h
  · cases h
    exact hes.put (.rows (List.forall_mem_singleton.2 allBounded_nil))
  · rename_i tables hlookup
    cases h
    cases hes.lookup hlookup with
    | rows htables => exact hes.put (rows_append htables allBounded_nil)
  · contradiction

theorem putBelow?_bounded {header : List String} (hes : AllBounded es) (hv : Bounded v)
    (h : putBelow? header path k v es = some es') : AllBounded es' := by
  refine changed_bounded (fun hes h => ?_) hes h
  obtain ⟨inner, hput, h⟩ := Option.map_eq_some_iff.1 h
  cases h
  exact put?_bounded hes hv hput

/-! ### Values -/

variable {value : List Char → Option (Toml × List Char)} {fuel : Nat}

theorem readItems?_bounded (hvalue : Bounds value) {vs : List Toml}
    (h : readItems? value fuel s = some (vs, r)) : ∀ v ∈ vs, Bounded v := by
  induction fuel generalizing s vs with
  | zero => contradiction
  | succ fuel ih =>
    simp only [readItems?, Option.bind_eq_bind, Option.bind_eq_some_iff] at h
    obtain ⟨t, -, h⟩ := h
    split at h
    · cases h
      simp
    · obtain ⟨⟨v, t₁⟩, hv, h⟩ := Option.bind_eq_some_iff.1 h
      obtain ⟨t₂, -, h⟩ := Option.bind_eq_some_iff.1 h
      split at h
      · obtain ⟨⟨vs', t₃⟩, hvs, h⟩ := Option.bind_eq_some_iff.1 h
        cases h
        exact List.forall_mem_cons.2 ⟨hvalue hv, ih hvs⟩
      · cases h
        exact List.forall_mem_singleton.2 (hvalue hv)
      · contradiction

theorem readEntry?_bounded (hvalue : Bounds value) {key : List String × String}
    (h : readEntry? value s = some (key, v, r)) : Bounded v := by
  simp only [ readEntry?, Option.bind_eq_bind, Option.bind_eq_some_iff] at h
  obtain ⟨⟨key', t⟩, -, t₁, -, ⟨w, t₂⟩, hw, h⟩ := h
  cases h
  exact hvalue hw

theorem readEntries?_bounded (hvalue : Bounds value) (hes : AllBounded es)
    (h : readEntries? value fuel es s = some (es', r)) : AllBounded es' := by
  induction fuel generalizing s es with
  | zero => contradiction
  | succ fuel ih =>
    simp only [readEntries?, Option.bind_eq_bind, Option.bind_eq_some_iff] at h
    obtain ⟨⟨⟨path, key⟩, v, t⟩, hentry, es₁, hput, h⟩ := h
    have hes₁ := put?_bounded hes ( readEntry?_bounded hvalue hentry) hput
    split at h
    · exact ih hes₁ h
    · cases h
      exact hes₁
    · contradiction

/-- A value, if those within it keep to the bounds. -/
theorem readValue?_step {depth : Nat} (hinner : ∀ d, depth = d + 1 → Bounds (readValue? d)) :
    Bounds (readValue? depth) := by
  intro s v r h
  have hstring (s : List Char) {v : Toml} {r : List Char}
      (h : ((readString? s).map fun found => (Toml.string found.1, found.2)) = some (v, r)) :
      Bounded v := by
    obtain ⟨t, -, h⟩ := Option.map_eq_some_iff.1 h
    cases h
    exact .string _
  rw [readValue?.eq_def] at h
  split at h
  · split at h
    · contradiction
    · obtain ⟨⟨vs, t⟩, hvs, h⟩ := Option.map_eq_some_iff.1 h
      cases h
      exact .array (readItems?_bounded (hinner _ rfl) hvs)
  · split at h
    · contradiction
    · split at h
      · cases h
        exact .table _ allBounded_nil
      · obtain ⟨⟨es, t⟩, hes, h⟩ := Option.map_eq_some_iff.1 h
        cases h
        exact .table _ (readEntries?_bounded (hinner _ rfl) allBounded_nil hes)
  · exact hstring _ h
  · exact hstring _ h
  · cases h
    exact .bool _
  · cases h
    exact .bool _
  · exact readNumber?_bounded h

theorem readValue?_bounded (depth : Nat) : Bounds (readValue? depth) := by
  induction depth with
  | zero => exact readValue?_step fun d hd => absurd hd (Nat.succ_ne_zero d).symm
  | succ depth ih =>
    refine readValue?_step fun d hd => ?_
    rwa [← Nat.succ_inj.1 hd]

/-! ### Documents -/

variable {d d' : Draft}

theorem readHeader?_bounded (hd : AllBounded d.entries) (h : readHeader? d s = some (d', r)) :
    AllBounded d'.entries := by
  unfold readHeader? at h
  split at h
  · simp only [Option.bind_eq_bind, Option.bind_eq_some_iff] at h
    obtain ⟨⟨⟨path, key⟩, t⟩, -, t₁, -, t₂, -, es, hes, h⟩ := h
    cases h
    exact openRow?_bounded hd hes
  · simp only [Option.bind_eq_bind, Option.bind_eq_some_iff] at h
    obtain ⟨⟨⟨path, key⟩, t⟩, -, t₁, -, es, hes, h⟩ := h
    cases h
    exact openTable?_bounded hd hes

theorem readLine?_bounded (hd : AllBounded d.entries) (h : readLine? d s = some (d', r)) :
    AllBounded d'.entries := by
  simp only [readLine?, Option.bind_eq_bind, Option.bind_eq_some_iff] at h
  obtain ⟨⟨⟨path, key⟩, v, t⟩, hentry, es, hes, h⟩ := h
  cases h
  exact putBelow?_bounded hd ( readEntry?_bounded (readValue?_bounded deepest) hentry) hes

theorem readLines?_bounded (hd : AllBounded d.entries) (h : readLines? fuel d s = some d') :
    AllBounded d'.entries := by
  induction fuel generalizing d s with
  | zero => contradiction
  | succ fuel ih =>
    rw [readLines?] at h
    split at h
    · cases h
      exact hd
    · simp only [Option.bind_eq_bind, Option.bind_eq_some_iff] at h
      obtain ⟨⟨d₁, t⟩, hheader, t₁, -, h⟩ := h
      exact ih (readHeader?_bounded hd hheader) h
    · split_ifs at h
      · obtain ⟨t, -, h⟩ := Option.bind_eq_some_iff.1 h
        exact ih hd h
      · simp only [Option.bind_eq_bind, Option.bind_eq_some_iff] at h
        obtain ⟨⟨d₁, t⟩, hline, t₁, -, h⟩ := h
        exact ih (readLine?_bounded hd hline) h

/-- **The whole numbers of a document have 64 bits with a sign.** -/
theorem ofChars?_bounded (h : ofChars? s = some v) : Bounded v := by
  obtain ⟨d, hd, rfl⟩ := Option.map_eq_some_iff.1 h
  exact .table _ (readLines?_bounded allBounded_nil hd)

/-! ### Fields -/

theorem Bounded.items? {vs : List Toml} (hv : Bounded v) (h : v.items? = some vs) :
    ∀ w ∈ vs, Bounded w := by
  cases hv with
  | array hitems =>
    cases h
    exact hitems
  | rows htables =>
    cases h
    simpa using fun es hes => Bounded.table .header (htables es hes)
  | _ => contradiction

/-- The fields of a record keep to the bounds of the record. -/
theorem Bounded.record? {names : List String} {fields : Record Toml} (hv : Bounded v)
    (h : Document.record? names v = some fields) : AllBounded fields := by
  change Toml.record? names v = some fields at h
  unfold Toml.record? at h
  split at h
  · cases hv with
    | table _ hes =>
      rw [Record.ofMembers?, Option.ite_none_right_eq_some] at h
      cases h.2
      exact fun e he => hes e (List.mem_filter.1 he).1
  · cases h
    exact allBounded_nil
  · obtain ⟨vs, hvs, rfl⟩ := Option.map_eq_some_iff.1 h
    exact fun e he => hv.items? hvs e.2 (List.of_mem_zip he).2

/-- A field has a property that the values within the bounds and the usual value have. -/
theorem AllBounded.field {β : Type} {P : β → Prop} {fields : Record Toml} {name : String}
    {read : Toml → Option β} {d b : β} (hfields : AllBounded fields)
    (hread : ∀ {v b}, Bounded v → read v = some b → P b) (hd : P d)
    (h : Document.field fields name read d = some b) : P b := by
  unfold Document.field at h
  split at h
  · rename_i v hv
    exact hread (hfields.lookup hv) h
  · cases h
    exact hd

theorem Bounded.uint64? {n : UInt64} (hv : Bounded v) (h : Document.uint64? v = some n) :
    n.toNat < 2 ^ 63 := by
  obtain ⟨m, hm, rfl⟩ := Option.map_eq_some_iff.1 h
  cases hv with
  | @integer i hi =>
    change (if 0 ≤ i ∧ i ≤ (18446744073709551615 : Nat) then some i.toNat else none) = some m at hm
    rw [Option.ite_none_right_eq_some] at hm
    obtain ⟨⟨h0, -⟩, hm⟩ := hm
    cases hm
    rw [Nat.toUInt64, UInt64.toNat_ofNat']
    omega
  | _ => contradiction

end Sluice.Toml
