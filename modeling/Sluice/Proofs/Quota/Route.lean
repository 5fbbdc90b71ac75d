import Sluice.Quota.Target
import Sluice.Proofs.Text.Letters
import Mathlib.Data.List.Basic

/-!
# What a route merges

The template of a path has the segments of the path, with a placeholder for each minor id. Slashes
in a row and a slash at the end leave no trace. All the rest does: of two paths that do not write
the placeholder themselves the templates are equal only if the paths differ in minor ids alone.

* `Route.segments_eq` : the segments are what stands between slashes, if anything does;
* `Route.segments_path` : what the segments of a template are;
* `Route.Minor` : the segment at a place is a minor id; `Route.Alike` : two rows of segments differ
  in minor ids alone;
* `Route.collapse_eq_iff` : such rows, and no others, are written in the same way;
* `Route.key_eq_iff` : what the key of a request tells apart;
* `Route.merges_minor_ids` : all of this about paths and about the buckets of requests.
-/

namespace Sluice

theorem append_cons_inj {α : Type} [DecidableEq α] {x : α} {a b c d : List α} (ha : x ∉ a)
    (hb : x ∉ b) : a ++ x :: c = b ++ x :: d ↔ a = b ∧ c = d := by
  constructor
  · intro h
    have hplace := congrArg (List.idxOf x) h
    rw [List.idxOf_append_of_notMem ha, List.idxOf_append_of_notMem hb, List.idxOf_cons_self,
      List.idxOf_cons_self] at hplace
    obtain ⟨hab, hcd⟩ := List.append_inj h hplace
    exact ⟨hab, (List.cons.inj hcd).2⟩
  · rintro ⟨rfl, rfl⟩
    rfl

namespace Route

variable {r : Route} {cs piece s : List Char} {ss ts : List (List Char)} {i : Nat}

/-! ### Segments -/

theorem pieces_eq (piece cs : List Char) :
    pieces piece cs = cs.splitOnPPrepend (· == '/') piece := by
  fun_induction pieces piece cs with
  | case1 piece => rw [List.splitOnPPrepend_nil]
  | case2 piece rest ih =>
    rw [List.splitOnPPrepend_cons_eq_if, if_pos (by rfl), ih, List.splitOnPPrepend_nil_right]
  | case3 piece c rest hc ih =>
    rw [List.splitOnPPrepend_cons_eq_if, if_neg (by simpa using hc), ih]

/-- **The segments** are what stands between slashes, if anything does. -/
theorem segments_eq (cs : List Char) : segments cs = (cs.splitOn '/').filter (!·.isEmpty) := by
  rw [segments, pieces_eq, List.splitOnPPrepend_nil_right]
  rfl

theorem slash_notMem_of_mem_pieces (hpiece : '/' ∉ piece) (h : s ∈ pieces piece cs) : '/' ∉ s := by
  fun_induction pieces piece cs with
  | case1 piece =>
    rw [List.mem_singleton.1 h]
    simpa using hpiece
  | case2 piece rest ih =>
    rcases List.mem_cons.1 h with rfl | h
    · simpa using hpiece
    · exact ih (by simp) h
  | case3 piece c rest hc ih =>
    refine ih ?_ h
    simp only [List.mem_cons, not_or]
    exact ⟨fun hslash => hc hslash.symm, hpiece⟩

/-- What can be a segment. -/
def Proper (s : List Char) : Prop := s ≠ [] ∧ '/' ∉ s

theorem proper_of_mem_segments (h : s ∈ segments cs) : Proper s := by
  obtain ⟨hmem, hne⟩ := List.mem_filter.1 h
  exact ⟨by simpa using hne, slash_notMem_of_mem_pieces (by simp) hmem⟩

theorem flatMap_slash_eq (ss : List (List Char)) :
    ss.flatMap ('/' :: ·) = ['/'].intercalate ([] :: ss) := by
  induction ss with
  | nil => simp
  | cons s ss ih =>
    rw [List.flatMap_cons, ih, List.intercalate_cons_cons]
    cases ss with
    | nil => simp
    | cons t ts => simp [List.intercalate_cons_cons]

/-- Between the slashes that `join` writes stand the segments, and nothing before the first. -/
theorem splitOn_join (hss : ∀ s ∈ ss, Proper s) (hne : ss ≠ []) :
    (join ss).splitOn '/' = [] :: ss := by
  obtain ⟨s, rest, rfl⟩ := List.exists_cons_of_ne_nil hne
  change ((s :: rest).flatMap ('/' :: ·)).splitOn '/' = _
  rw [flatMap_slash_eq]
  refine List.splitOn_intercalate _ ?_ (List.cons_ne_nil _ _)
  intro t ht
  rcases List.mem_cons.1 ht with rfl | ht
  · simp
  · exact (hss t ht).2

theorem segments_join (hss : ∀ s ∈ ss, Proper s) : segments (join ss) = ss := by
  by_cases hne : ss = []
  · subst hne
    rfl
  · rw [segments_eq, splitOn_join hss hne]
    refine (List.filter_cons_of_neg (by simp)).trans (List.filter_eq_self.2 ?_)
    intro s hs
    simpa using (hss s hs).1

/-! ### Minor ids -/

/-- The segment at a place is a minor id: digits, and no major parameter stands before it. -/
def Minor (r : Route) (ss : List (List Char)) (i : Nat) : Prop :=
  (∃ s, ss[i]? = some s ∧ ∀ c ∈ s, c.isDigit = true) ∧
    ∀ m ∈ (ss.take i).getLast?, String.ofList m ∉ r.majors

/-- Two rows of segments that differ in minor ids alone. -/
structure Alike (r : Route) (ss ts : List (List Char)) : Prop where
  /-- There are as many segments. -/
  length_eq : ss.length = ts.length
  /-- At each place both have a minor id, or neither has and they have the same segment. -/
  segment : ∀ i < ss.length, r.Minor ss i ∧ r.Minor ts i ∨
    ¬ r.Minor ss i ∧ ¬ r.Minor ts i ∧ ss[i]? = ts[i]?

@[simp] theorem length_collapse (previous : Option (List Char)) (ss : List (List Char)) :
    (r.collapse previous ss).length = ss.length := by
  induction ss generalizing previous with
  | nil => rfl
  | cons s ss ih => rw [collapse, List.length_cons, List.length_cons, ih]

theorem isMajor_iff : r.isMajor s = true ↔ String.ofList s ∈ r.majors := by
  simp only [isMajor, List.any_eq_true, beq_iff_eq]
  constructor
  · rintro ⟨m, hm, rfl⟩
    rwa [String.ofList_toList]
  · intro h
    exact ⟨_, h, String.toList_ofList⟩

/-- What is written at a place depends on the segment there and the one before it. -/
theorem getElem?_collapse (previous : Option (List Char)) (ss : List (List Char)) (i : Nat) :
    (r.collapse previous ss)[i]? = ss[i]?.map fun s =>
      if r.isMinorId ((ss.take i).getLast?.or previous) s then placeholder else s := by
  induction ss generalizing previous i with
  | nil => rfl
  | cons s ss ih =>
    cases i with
    | zero => rfl
    | succ i =>
      rw [collapse, List.getElem?_cons_succ, List.getElem?_cons_succ, ih, List.take_succ_cons,
        List.getLast?_cons]
      cases (ss.take i).getLast? <;> rfl

theorem isMinorId_iff (hss : ∀ s ∈ ss, Proper s) (hs : ss[i]? = some s) :
    r.isMinorId ((ss.take i).getLast?.or none) s = true ↔ r.Minor ss i := by
  have hne : s ≠ [] := (hss s (List.mem_of_getElem? hs)).1
  simp only [isMinorId, isId, Minor, hs, Option.some.injEq, exists_eq_left', Option.or_none,
    Bool.and_eq_true, Bool.not_eq_true', List.isEmpty_eq_false_iff, List.all_eq_true]
  refine and_congr (and_iff_right hne) ?_
  cases (ss.take i).getLast? with
  | none => simp
  | some m => simp [← isMajor_iff]

theorem getElem?_collapse_of_minor (hss : ∀ s ∈ ss, Proper s) (h : r.Minor ss i) :
    (r.collapse none ss)[i]? = some placeholder := by
  obtain ⟨s, hs, -⟩ := h.1
  rw [getElem?_collapse, hs, Option.map_some, if_pos ((isMinorId_iff hss hs).2 h)]

theorem getElem?_collapse_of_not_minor (hss : ∀ s ∈ ss, Proper s) (h : ¬ r.Minor ss i) :
    (r.collapse none ss)[i]? = ss[i]? := by
  rw [getElem?_collapse]
  cases hs : ss[i]? with
  | none => rfl
  | some s => rw [Option.map_some, if_neg fun hminor => h ((isMinorId_iff hss hs).1 hminor)]

/-- **Rows that differ in minor ids alone, and no others, are written in the same way.** -/
theorem collapse_eq_iff (hss : ∀ s ∈ ss, Proper s) (hts : ∀ s ∈ ts, Proper s)
    (hs : placeholder ∉ ss) (ht : placeholder ∉ ts) :
    r.collapse none ss = r.collapse none ts ↔ r.Alike ss ts := by
  constructor
  · intro h
    refine ⟨by simpa using congrArg List.length h, ?_⟩
    intro i _
    have hi := congrArg (·[i]?) h
    by_cases hminor : r.Minor ss i <;> by_cases hminor' : r.Minor ts i
    · exact .inl ⟨hminor, hminor'⟩
    · -- A segment of the second row would have to read like the placeholder.
      rw [getElem?_collapse_of_minor hss hminor, getElem?_collapse_of_not_minor hts hminor'] at hi
      exact absurd (List.mem_of_getElem? hi.symm) ht
    · rw [getElem?_collapse_of_not_minor hss hminor, getElem?_collapse_of_minor hts hminor'] at hi
      exact absurd (List.mem_of_getElem? hi) hs
    · rw [getElem?_collapse_of_not_minor hss hminor,
        getElem?_collapse_of_not_minor hts hminor'] at hi
      exact .inr ⟨hminor, hminor', hi⟩
  · intro h
    apply List.ext_getElem?
    intro i
    by_cases hi : i < ss.length
    · rcases h.segment i hi with ⟨hminor, hminor'⟩ | ⟨hminor, hminor', heq⟩
      · rw [getElem?_collapse_of_minor hss hminor, getElem?_collapse_of_minor hts hminor']
      · rw [getElem?_collapse_of_not_minor hss hminor,
          getElem?_collapse_of_not_minor hts hminor', heq]
    · have hlength := h.length_eq
      rw [List.getElem?_eq_none (by simp; omega), List.getElem?_eq_none (by simp; omega)]

theorem proper_of_mem_collapse {previous : Option (List Char)} (hss : ∀ s ∈ ss, Proper s)
    (h : s ∈ r.collapse previous ss) : Proper s := by
  obtain ⟨i, hi⟩ := List.mem_iff_getElem?.1 h
  rw [getElem?_collapse] at hi
  obtain ⟨t, ht, rfl⟩ := Option.map_eq_some_iff.1 hi
  split
  · exact ⟨by decide, by decide⟩
  · exact hss t (List.mem_of_getElem? ht)

theorem kept_of_getElem?_collapse (hss : ∀ s ∈ ss, Proper s)
    (hs : (r.collapse none ss)[i]? = some s) (hdigits : ∀ c ∈ s, c.isDigit = true) :
    ss[i]? = some s ∧ ∃ m ∈ (ss.take i).getLast?, String.ofList m ∈ r.majors := by
  have hminor : ¬ r.Minor ss i := by
    intro h
    rw [getElem?_collapse_of_minor hss h, Option.some.injEq] at hs
    subst hs
    have hbrace : Char.isDigit '\x7b' = true := hdigits _ (by decide)
    exact absurd hbrace (by decide)
  rw [getElem?_collapse_of_not_minor hss hminor] at hs
  refine ⟨hs, ?_⟩
  by_contra hmajor
  exact hminor ⟨⟨s, hs, hdigits⟩, fun m hm hmem => hmajor ⟨m, hm, hmem⟩⟩

/-! ### Templates and keys -/

variable {m m' p q : String}

theorem toList_path (p : String) :
    (r.path p).toList = join (r.collapse none (segments p.toList)) := by
  rw [path, String.toList_ofList]

/-- **The segments of a template** are those of the path with the minor ids collapsed. -/
theorem segments_path (p : String) :
    segments (r.path p).toList = r.collapse none (segments p.toList) := by
  rw [toList_path]
  exact segments_join fun s => proper_of_mem_collapse fun t => proper_of_mem_segments

theorem path_eq_iff (hp : placeholder ∉ segments p.toList) (hq : placeholder ∉ segments q.toList) :
    r.path p = r.path q ↔ r.Alike (segments p.toList) (segments q.toList) := by
  rw [← collapse_eq_iff (fun _ => proper_of_mem_segments) (fun _ => proper_of_mem_segments) hp hq]
  constructor
  · intro h
    rw [← segments_path, ← segments_path, h]
  · intro h
    rw [path, path, h]

/-- **A key tells apart** methods, but for the case of their letters, and templates. -/
theorem key_eq_iff (hm : ' ' ∉ m.toList) (hm' : ' ' ∉ m'.toList) :
    r.key m p = r.key m' q ↔ m.map Char.toLower = m'.map Char.toLower ∧ r.path p = r.path q := by
  have hlist (m p : String) : (r.key m p).toList =
      (m.map Char.toUpper).toList ++ ' ' :: (r.path p).toList := by
    simp [key]
  rw [← String.toList_inj, hlist, hlist, append_cons_inj (Text.space_notMem_map_toUpper hm)
    (Text.space_notMem_map_toUpper hm'), String.toList_inj, String.toList_inj,
    Text.map_toUpper_eq_iff]

/-- A route merges exactly what differs in minor ids. -/
structure Merges (r : Route) : Prop where
  /-- Two paths have one template just if their segments differ in minor ids alone. -/
  path : ∀ p q, placeholder ∉ segments p.toList → placeholder ∉ segments q.toList →
    (r.path p = r.path q ↔ r.Alike (segments p.toList) (segments q.toList))
  /-- A template is a slash, or segments that are not empty with a slash before each. -/
  shape : ∀ p, (∃ cs, (r.path p).toList = '/' :: cs) ∧ (r.path p = "/" ∨
    ∃ ss, ss ≠ [] ∧ [] ∉ ss ∧ (r.path p).toList.splitOn '/' = [] :: ss)
  /-- Digits that fill a segment of a template do so in the path, behind a major parameter. -/
  kept : ∀ p i s, (segments (r.path p).toList)[i]? = some s → (∀ c ∈ s, c.isDigit = true) →
    (segments p.toList)[i]? = some s ∧
      ∃ m ∈ ((segments p.toList).take i).getLast?, String.ofList m ∈ r.majors
  /-- Two requests have one bucket just if the methods are the same but for the case of letters
  and the templates are the same. -/
  bucket : ∀ m m' u u' url url', ' ' ∉ m.toList → ' ' ∉ m'.toList →
    Url.parse u = .ok url → Url.parse u' = .ok url' →
      ∃ k k', r.bucketOf m u = .ok k ∧ r.bucketOf m' u' = .ok k' ∧
        (k = k' ↔ m.map Char.toLower = m'.map Char.toLower ∧ r.path url.path = r.path url'.path)

/-- **Routes merge exactly what differs in minor ids**, whatever the major parameters are. -/
theorem merges_minor_ids (r : Route) : r.Merges where
  path p q hp hq := path_eq_iff hp hq
  shape p := by
    have hss : ∀ s ∈ r.collapse none (segments p.toList), Proper s :=
      fun s => proper_of_mem_collapse fun t => proper_of_mem_segments
    rw [← String.toList_inj, toList_path]
    generalize r.collapse none (segments p.toList) = ss at hss
    cases ss with
    | nil => exact ⟨⟨[], rfl⟩, .inl rfl⟩
    | cons s rest =>
      refine ⟨⟨s ++ rest.flatMap ('/' :: ·), rfl⟩, .inr ⟨s :: rest, List.cons_ne_nil _ _, ?_, ?_⟩⟩
      · exact fun hnil => (hss [] hnil).1 rfl
      · exact splitOn_join hss (List.cons_ne_nil _ _)
  kept p i s hs hdigits := by
    rw [segments_path] at hs
    exact kept_of_getElem?_collapse (fun _ => proper_of_mem_segments) hs hdigits
  bucket m m' u u' url url' hm hm' hu hu' := by
    refine ⟨r.key m url.path, r.key m' url'.path, ?_, ?_, key_eq_iff hm hm'⟩
    · rw [bucketOf, hu]
    · rw [bucketOf, hu']

/-- An id behind an id that is a major parameter is kept, but the first one is not. -/
example : (Route.mk ["42"]).path "//42/7/7/" = "/\x7bid\x7d/7/\x7bid\x7d" := by decide +kernel

end Route

end Sluice
