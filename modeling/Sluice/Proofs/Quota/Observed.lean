import Sluice.Quota.Observed
import Mathlib.Data.List.Perm.Basic
import Mathlib.Data.List.TakeWhile
import Mathlib.Logic.Relation

/-!
# Headers written in other ways

Headers are looked up in any letter case, and their values lose the white space around them. As long
as no two names are the same up to letter case, it does not matter either in which order the headers
come, or which other headers stand among them.

* `Headers.values` : all values of a name, of which a look-up takes the first;
* `Headers.Rewrite` : one way to write headers differently; `Headers.values_rewrite` : it keeps the
  values of the names that limits are reported under, up to their order;
* `Headers.Rewritten`, `Headers.values_rewritten` : and so do any number of them;
* `Headers.SameBut` : headers that differ in one name at most;
* `Headers.tells_alike` : headers written in another way report the same limits, and a time until
  the window ends hides the time at which it ends.
-/

namespace Sluice

/-! ### White space around a text -/

namespace Text

variable {left right : List Char}

theorem trimEnd_append (hright : ∀ c ∈ right, isBlank c) (cs : List Char) :
    trimEnd (cs ++ right) = trimEnd cs := by
  rw [trimEnd, List.reverse_append,
    List.dropWhile_append_of_pos fun c hc => hright c (List.mem_reverse.1 hc), trimEnd]

/-- **White space around a text is no part of it.** -/
theorem trimChars_surrounded (hleft : ∀ c ∈ left, isBlank c) (hright : ∀ c ∈ right, isBlank c)
    (cs : List Char) : trimChars (left ++ cs ++ right) = trimChars cs := by
  rw [trimChars, List.append_assoc, List.dropWhile_append_of_pos hleft, List.dropWhile_append]
  split_ifs with hempty
  · -- Nothing but white space is left of either.
    have hnil : right.dropWhile isBlank = [] := List.dropWhile_eq_nil_iff.2 hright
    rw [trimChars, List.isEmpty_iff.1 hempty, hnil]
  · rw [trimEnd_append hright, trimChars]

end Text

namespace Headers

variable {h h' : Headers} {name : String}

/-! ### Names up to letter case -/

theorem sameName_iff {a b : String} :
    sameName a b = true ↔ a.map Char.toLower = b.map Char.toLower := beq_iff_eq

theorem sameName_congr {a b : String} (hab : sameName a b) (c : String) :
    sameName a c = sameName b c := by
  rw [sameName, sameName, sameName_iff.1 hab]

theorem sameName_comm (a b : String) : sameName a b = sameName b a := by
  rw [sameName, sameName, Bool.eq_iff_iff, beq_iff_eq, beq_iff_eq, eq_comm]

/-- No two names are the same up to letter case. -/
def Distinct (h : Headers) : Prop := h.entries.Pairwise fun a b => sameName a.1 b.1 = false

/-! ### The values of a name -/

/-- The values of a name in any letter case, without white space around them. -/
def values (h : Headers) (name : String) : List String :=
  (h.entries.filter fun e => sameName e.1 name).map (Text.trim ·.2)

theorem value?_eq_head? (h : Headers) (name : String) : h.value? name = (h.values name).head? := by
  rw [value?, find?, values, List.head?_map, List.head?_filter, Option.map_map]
  rfl

theorem length_values_le_one (hdistinct : h.Distinct) (name : String) :
    (h.values name).length ≤ 1 := by
  have hpairwise := hdistinct.filter fun e => sameName e.1 name
  have hname : ∀ e ∈ h.entries.filter fun e => sameName e.1 name, sameName e.1 name :=
    fun e he => (List.mem_filter.1 he).2
  rw [values, List.length_map]
  revert hpairwise hname
  generalize h.entries.filter (fun e => sameName e.1 name) = found
  intro hpairwise hname
  match found with
  | [] | [_] => simp
  | a :: b :: r =>
    -- The first two of three or more have this name, and are therefore the same.
    have hab := List.rel_of_pairwise_cons hpairwise List.mem_cons_self
    rw [sameName_congr (hname a (by simp)), sameName_comm, hname b (by simp)] at hab
    cases hab

theorem value?_congr (hdistinct : h.Distinct) (hperm : (h.values name).Perm (h'.values name)) :
    h'.value? name = h.value? name := by
  have hle := length_values_le_one hdistinct name
  rw [value?_eq_head?, value?_eq_head?]
  match hvalues : h.values name with
  | [] => rw [hvalues] at hperm; rw [List.nil_perm.1 hperm]
  | [v] => rw [hvalues] at hperm; rw [List.singleton_perm.1 hperm]
  | _ :: _ :: _ => rw [hvalues] at hle; simp at hle

/-! ### Other ways to write headers -/

/-- The names that limits and hints are reported under. -/
def limitNames : List String :=
  ["x-ratelimit-limit", "x-ratelimit-remaining", "x-ratelimit-reset", "x-ratelimit-reset-after",
    "retry-after"]

/-- One way to write headers differently. -/
inductive Rewrite (h h' : Headers) : Prop where
  /-- The headers come in another order. -/
  | reorder (perm : h.entries.Perm h'.entries)
  /-- The letters of a name are in another case. -/
  | recase (before after : List (String × String)) (name name' value : String)
      (entries_eq : h.entries = before ++ (name, value) :: after)
      (entries_eq' : h'.entries = before ++ (name', value) :: after)
      (same : sameName name' name)
  /-- White space stands around a value. -/
  | surround (before after : List (String × String)) (name value : String) (left right : List Char)
      (entries_eq : h.entries = before ++ (name, value) :: after)
      (entries_eq' : h'.entries =
        before ++ (name, String.ofList (left ++ value.toList ++ right)) :: after)
      (blank_left : ∀ c ∈ left, Text.isBlank c) (blank_right : ∀ c ∈ right, Text.isBlank c)
  /-- There is another header, whose name has nothing to do with limits. -/
  | add (name value : String) (entries_eq' : h'.entries = (name, value) :: h.entries)
      (unrelated : ∀ n ∈ limitNames, sameName name n = false)

/-- The headers are written differently in any number of ways. -/
def Rewritten : Headers → Headers → Prop := Relation.ReflTransGen Rewrite

theorem values_of_entries_eq {before after : List (String × String)} {e e' : String × String}
    (heq : h.entries = before ++ e :: after) (heq' : h'.entries = before ++ e' :: after)
    (hname : sameName e'.1 name = sameName e.1 name) (hvalue : Text.trim e'.2 = Text.trim e.2) :
    h'.values name = h.values name := by
  rw [values, values, heq, heq']
  simp only [List.filter_append, List.filter_cons, hname, List.map_append]
  split_ifs
  · rw [List.map_cons, List.map_cons, hvalue]
  · rfl

/-- **Another way to write headers** keeps the values of the names that matter. -/
theorem values_rewrite (hrewrite : h.Rewrite h') (hname : name ∈ limitNames) :
    (h.values name).Perm (h'.values name) := by
  cases hrewrite with
  | reorder perm => exact (perm.filter _).map _
  | recase before after name₁ name₂ value heq heq' hsame =>
    exact .of_eq (values_of_entries_eq heq heq' (sameName_congr hsame name) rfl).symm
  | surround before after name₁ value left right heq heq' hleft hright =>
    refine .of_eq (values_of_entries_eq heq heq' rfl ?_).symm
    rw [Text.trim, String.toList_ofList, Text.trimChars_surrounded hleft hright, Text.trim]
  | add name₁ value heq' hunrelated =>
    refine .of_eq ?_
    rw [values, values, heq', List.filter_cons_of_neg]
    rw [hunrelated name hname]
    exact Bool.false_ne_true

/-- Any number of them do. -/
theorem values_rewritten (hrewritten : h.Rewritten h') (hname : name ∈ limitNames) :
    (h.values name).Perm (h'.values name) := by
  induction hrewritten with
  | refl => exact .refl _
  | tail _ hstep ih => exact ih.trans (values_rewrite hstep hname)

/-! ### Headers that differ in one name -/

/-- The headers are the same, in any order, but for those of a name. -/
def SameBut (name : String) (h h' : Headers) : Prop :=
  (h.entries.filter fun e => !sameName e.1 name).Perm
    (h'.entries.filter fun e => !sameName e.1 name)

theorem values_of_sameBut {other : String} (hsame : SameBut other h h')
    (hother : sameName name other = false) : (h.values name).Perm (h'.values name) := by
  have hvalues (h : Headers) : h.values name =
      ((h.entries.filter fun e => !sameName e.1 other).filter
        fun e => sameName e.1 name).map (Text.trim ·.2) := by
    rw [values, List.filter_filter]
    congr 1
    refine List.filter_congr fun e _ => ?_
    -- What has the one name has not the other.
    cases hname : sameName e.1 name with
    | false => rfl
    | true => rw [sameName_congr hname, hother]; rfl
  rw [hvalues h, hvalues h']
  exact (hsame.filter _).map _

/-! ### What headers report -/

theorem ofHeaders?_congr (now : Timestamp) (hlimit : h'.value? "x-ratelimit-limit" =
      h.value? "x-ratelimit-limit")
    (hremaining : h'.value? "x-ratelimit-remaining" = h.value? "x-ratelimit-remaining")
    (hresetAt : resetAt? h' now = resetAt? h now) :
    Snapshot.ofHeaders? h' now = Snapshot.ofHeaders? h now := by
  rw [Snapshot.ofHeaders?, Snapshot.ofHeaders?, hlimit, hremaining, hresetAt]

/-- **Headers report the same limits and the same hint in whatever way they are written**: in other
letter cases, in another order, among unrelated headers, with white space around the values. If the
time until the window ends can be read, then headers report the same with any other time at which it
ends, or without one. -/
theorem tells_alike (hdistinct : h.Distinct) (now : Timestamp) :
    (h.Rewritten h' → Snapshot.ofHeaders? h' now = Snapshot.ofHeaders? h now ∧
      retryAfter? h' = retryAfter? h) ∧
    ∀ after, (h.value? "x-ratelimit-reset-after").bind seconds? = some after →
      SameBut "x-ratelimit-reset" h h' → Snapshot.ofHeaders? h' now = Snapshot.ofHeaders? h now ∧
        retryAfter? h' = retryAfter? h := by
  constructor
  · intro hrewritten
    have hvalue (name : String) (hname : name ∈ limitNames) : h'.value? name = h.value? name :=
      value?_congr hdistinct (values_rewritten hrewritten hname)
    refine ⟨ofHeaders?_congr now (hvalue _ (by simp [limitNames])) (hvalue _ (by simp [limitNames]))
      ?_, ?_⟩
    · rw [resetAt?, resetAt?, hvalue "x-ratelimit-reset-after" (by simp [limitNames]),
        hvalue "x-ratelimit-reset" (by simp [limitNames])]
    · rw [retryAfter?, retryAfter?, hvalue _ (by simp [limitNames])]
  · intro after hafter hsame
    have hvalue (name : String) (hname : sameName name "x-ratelimit-reset" = false) :
        h'.value? name = h.value? name := value?_congr hdistinct (values_of_sameBut hsame hname)
    have hothers : sameName "x-ratelimit-limit" "x-ratelimit-reset" = false ∧
        sameName "x-ratelimit-remaining" "x-ratelimit-reset" = false ∧
        sameName "x-ratelimit-reset-after" "x-ratelimit-reset" = false ∧
        sameName "retry-after" "x-ratelimit-reset" = false := by
      simp only [sameName_eq]
      decide
    refine ⟨ofHeaders?_congr now (hvalue _ hothers.1) (hvalue _ hothers.2.1) ?_, ?_⟩
    · -- The time at which the window ends is not looked at.
      rw [resetAt?, resetAt?, hvalue _ hothers.2.2.1, hafter]
    · rw [retryAfter?, retryAfter?, hvalue _ hothers.2.2.2]

/-- Limits with a time until the window ends and a time at which it ends. -/
def reported : Headers where
  entries := [("X-RateLimit-Limit", "5"), ("X-RateLimit-Remaining", "4"),
    ("X-RateLimit-Reset-After", "1.5"), ("X-RateLimit-Reset", "1"), ("Retry-After", "2")]
  nodup := by decide

/-- The same limits in another order beside two headers of one name, one of them in small letters
and with white space around its value. -/
def disguised : Headers where
  entries := [("Retry-After", "2"), ("Server", "a"), ("X-RateLimit-Reset", "1"), ("server", "b"),
    ("X-RateLimit-Reset-After", "1.5"), ("x-ratelimit-limit", "\t5\u2003"),
    ("X-RateLimit-Remaining", "4")]
  nodup := by decide

/-- The same limits with an end of the window that nobody can read. -/
def vague : Headers where
  entries := [("x-RATElimit-reset", "soon"), ("X-RateLimit-Limit", "5"), ("Retry-After", "2"),
    ("X-RateLimit-Remaining", "4"), ("X-RateLimit-Reset-After", "1.5")]
  nodup := by decide

theorem rewritten_disguised : reported.Rewritten disguised := by
  have hrecase : Rewrite reported ⟨("x-ratelimit-limit", "5") :: reported.entries.tail, by decide⟩ :=
    .recase [] _ _ _ _ rfl rfl (by simp only [sameName_eq]; decide)
  have hsurround : Rewrite ⟨("x-ratelimit-limit", "5") :: reported.entries.tail, by decide⟩
      ⟨("x-ratelimit-limit", "\t5\u2003") :: reported.entries.tail, by decide⟩ :=
    .surround [] _ _ _ ['\t'] ['\u2003'] rfl rfl (List.forall_mem_singleton.2 (by decide))
      (List.forall_mem_singleton.2 (by decide))
  have hadd (name value : String) (h : Headers) (hnodup : _) (hname : sameName "server" name) :
      Rewrite h ⟨(name, value) :: h.entries, hnodup⟩ := by
    refine .add _ _ rfl fun n hn => ?_
    rw [← sameName_congr hname]
    revert n
    simp only [sameName_eq]
    decide
  have hserver : sameName "server" "server" ∧ sameName "server" "Server" := by
    simp only [sameName_eq]
    decide
  refine .tail (.tail (.tail (.tail (.single hrecase) hsurround)
    (hadd "server" "b" _ (by decide) hserver.1)) (hadd "Server" "a" _ (by decide) hserver.2)) ?_
  exact .reorder (by decide)

/-- Five requests in a window that ends in one and a half seconds are reported three times. -/
theorem tells_alike_disguised :
    reported.Distinct ∧ reported.Rewritten disguised ∧ SameBut "x-ratelimit-reset" reported vague ∧
      Snapshot.ofHeaders? reported .epoch = some ⟨5, 4, windowEnd .epoch (.ofMillis 1500)⟩ ∧
      Snapshot.ofHeaders? disguised .epoch = Snapshot.ofHeaders? reported .epoch ∧
      Snapshot.ofHeaders? vague .epoch = Snapshot.ofHeaders? reported .epoch := by
  have hdistinct : reported.Distinct := by
    simp only [Distinct, sameName_eq]
    decide
  have hsame : SameBut "x-ratelimit-reset" reported vague := by
    simp only [SameBut, sameName_eq]
    decide
  have hvalue : reported.value? "x-ratelimit-limit" = some "5" ∧
      reported.value? "x-ratelimit-remaining" = some "4" ∧
      reported.value? "x-ratelimit-reset-after" = some "1.5" := by
    simp only [value?, find?, sameName_eq]
    decide +kernel
  have hseconds : seconds? "1.5" = some (.ofMillis 1500) := by decide +kernel
  have hafter : (reported.value? "x-ratelimit-reset-after").bind seconds? =
      some (.ofMillis 1500) := by
    rw [hvalue.2.2, Option.bind_some, hseconds]
  have halike (h' : Headers) := @tells_alike reported h' hdistinct .epoch
  refine ⟨hdistinct, rewritten_disguised, hsame, ?_, ((halike _).1 rewritten_disguised).1,
    ((halike _).2 _ hafter hsame).1⟩
  rw [Snapshot.ofHeaders?, resetAt?, hafter, hvalue.1, hvalue.2.1]
  rfl

end Headers

end Sluice
