/-!
# Catalogs

Values by name, one for each name, in the order of the names. Names are compared character by
character, which is also the order of their bytes in UTF-8.

* `Catalog.find?` looks a name up, `Catalog.insert` adds or replaces, `Catalog.erase` removes;
* `Catalog.find?_insert` and `Catalog.find?_erase` say what these do to every name;
* `Catalog.toList` lists names and values in order.
-/

namespace Sluice

/-- Values by name in the order of the names. -/
structure Catalog (α : Type) where
  /-- Names and values. -/
  entries : List (String × α)
  /-- Each name comes before the ones after it. -/
  sorted : entries.Pairwise fun a b => a.1 < b.1

namespace Catalog

variable {α : Type}

/-- No names. -/
def empty : Catalog α := ⟨[], .nil⟩

instance : Inhabited (Catalog α) := ⟨empty⟩

/-- Names and values in order. -/
def toList (c : Catalog α) : List (String × α) := c.entries

/-- The number of names. -/
def size (c : Catalog α) : Nat := c.entries.length

/-- The value of a name. -/
def find? (c : Catalog α) (name : String) : Option α := c.entries.lookup name

/-- Adds or replaces a value in a sorted list. -/
def put (name : String) (a : α) : List (String × α) → List (String × α)
  | [] => [(name, a)]
  | (n, b) :: r =>
    if name < n then (name, a) :: (n, b) :: r
    else if name = n then (name, a) :: r
    else (n, b) :: put name a r

theorem mem_put {name : String} {a : α} {es : List (String × α)} {x : String × α}
    (h : x ∈ put name a es) : x = (name, a) ∨ x ∈ es := by
  induction es with
  | nil => simpa [put] using h
  | cons e r ih =>
    unfold put at h
    grind

theorem sorted_put {name : String} {a : α} {es : List (String × α)}
    (h : es.Pairwise fun a b => a.1 < b.1) : (put name a es).Pairwise fun a b => a.1 < b.1 := by
  induction es with
  | nil => simp [put]
  | cons e r ih =>
    obtain ⟨n, b⟩ := e
    rw [List.pairwise_cons] at h
    unfold put
    split
    · rename_i hn
      refine List.pairwise_cons.2 ⟨fun x hx => ?_, List.pairwise_cons.2 h⟩
      rcases List.mem_cons.1 hx with rfl | hx
      · exact hn
      · exact String.lt_trans hn (h.1 x hx)
    · split
      · rename_i hn
        subst hn
        exact List.pairwise_cons.2 h
      · rename_i hlt hne
        refine List.pairwise_cons.2 ⟨fun x hx => ?_, ih h.2⟩
        rcases mem_put hx with rfl | hx
        · exact Std.lt_of_le_of_ne hlt (Ne.symm hne)
        · exact h.1 x hx

/-- Adds a value, or replaces the one there is. -/
def insert (c : Catalog α) (name : String) (a : α) : Catalog α :=
  ⟨put name a c.entries, sorted_put c.sorted⟩

/-- Removes a name. -/
def erase (c : Catalog α) (name : String) : Catalog α :=
  ⟨c.entries.filter (·.1 != name), c.sorted.filter _⟩

/-- The value of a name changed by `f`, or a first value. -/
def update (c : Catalog α) (name : String) (f : Option α → α) : Catalog α :=
  c.insert name (f (c.find? name))

theorem lookup_eq_none {name : String} {es : List (String × α)}
    (h : ∀ x ∈ es, name < x.1) : es.lookup name = none := by
  induction es with
  | nil => rfl
  | cons e r ih =>
    obtain ⟨n, b⟩ := e
    have hne : name ≠ n := by
      rintro rfl
      exact String.lt_irrefl _ (h (name, b) (by simp))
    simp only [List.lookup_cons, beq_eq_false_iff_ne.2 hne]
    exact ih fun x hx => h x (by simp [hx])

theorem lookup_put {name m : String} {a : α} {es : List (String × α)}
    (h : es.Pairwise fun a b => a.1 < b.1) :
    (put name a es).lookup m = if m = name then some a else es.lookup m := by
  induction es with
  | nil =>
    simp only [put, List.lookup_cons, List.lookup_nil]
    grind
  | cons e r ih =>
    obtain ⟨n, b⟩ := e
    rw [List.pairwise_cons] at h
    unfold put
    split
    · simp only [List.lookup_cons]
      grind
    · split
      · simp only [List.lookup_cons]
        grind
      · simp only [List.lookup_cons, ih h.2]
        grind

theorem find?_insert (c : Catalog α) (name m : String) (a : α) :
    (c.insert name a).find? m = if m = name then some a else c.find? m := lookup_put c.sorted

theorem find?_erase (c : Catalog α) (name m : String) :
    (c.erase name).find? m = if m = name then none else c.find? m := by
  change (c.entries.filter (·.1 != name)).lookup m = _
  unfold find?
  induction c.entries with
  | nil => simp
  | cons e r ih =>
    obtain ⟨n, b⟩ := e
    simp only [List.filter_cons, List.lookup_cons]
    grind

end Catalog

end Sluice
