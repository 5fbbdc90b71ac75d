/-!
# Headers

Named texts without a second value for a name, in the order in which the names came first.

* `Headers.insert` adds a value or replaces the one there is;
* `Headers.find?` looks a name up in any letter case (of the ASCII letters).
-/

namespace Sluice

/-- Named texts, one for each name. -/
structure Headers where
  /-- Names and values. -/
  entries : List (String × String)
  /-- No name occurs twice. -/
  nodup : (entries.map (·.1)).Nodup
  deriving DecidableEq, Repr

namespace Headers

/-- No headers. -/
def empty : Headers := ⟨[], by simp⟩

instance : Inhabited Headers := ⟨empty⟩

/-- Replaces the value of a name, or adds name and value at the end. -/
def put (name value : String) : List (String × String) → List (String × String)
  | [] => [(name, value)]
  | (n, v) :: r => if n = name then (name, value) :: r else (n, v) :: put name value r

theorem mem_put_fst {name value x : String} {es : List (String × String)} :
    x ∈ (put name value es).map (·.1) ↔ x = name ∨ x ∈ es.map (·.1) := by
  induction es with
  | nil => simp [put]
  | cons e r ih =>
    obtain ⟨n, v⟩ := e
    unfold put
    split
    · rename_i h; subst h; simp
    · simp only [List.map_cons, List.mem_cons, ih]; grind

theorem nodup_put {name value : String} {es : List (String × String)}
    (h : (es.map (·.1)).Nodup) : ((put name value es).map (·.1)).Nodup := by
  induction es with
  | nil => simp [put]
  | cons e r ih =>
    obtain ⟨n, v⟩ := e
    simp only [List.map_cons, List.nodup_cons] at h
    unfold put
    split
    · rename_i hn; subst hn; simpa using h
    · rename_i hn
      simp only [List.map_cons, List.nodup_cons]
      refine ⟨fun hm => ?_, ih h.2⟩
      rcases mem_put_fst.1 hm with hm | hm
      · exact hn hm
      · exact h.1 hm

/-- Replaces the value of a name, or adds name and value at the end. -/
def insert (h : Headers) (name value : String) : Headers :=
  ⟨put name value h.entries, nodup_put h.nodup⟩

/-- Named texts one after the other; a later value of a name replaces the earlier one. -/
def ofList (es : List (String × String)) : Headers :=
  es.foldl (fun h e => h.insert e.1 e.2) empty

/-- Two names are the same up to the case of ASCII letters. -/
def sameName (a b : String) : Bool := a.map Char.toLower == b.map Char.toLower

theorem sameName_eq (a b : String) :
    sameName a b = (a.toList.map Char.toLower == b.toList.map Char.toLower) := by
  rw [sameName, Bool.eq_iff_iff, beq_iff_eq, beq_iff_eq, ← String.toList_inj, String.toList_map,
    String.toList_map]

/-- The value of a name in any letter case. -/
def find? (h : Headers) (name : String) : Option String :=
  (h.entries.find? fun e => sameName e.1 name).map (·.2)

end Headers

end Sluice
