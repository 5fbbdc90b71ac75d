import Sluice.Message.Request
import Sluice.Proofs.Json.RoundTrip
import Sluice.Proofs.Time.Rfc3339

/-!
# The queue loses nothing

A request is what its message on the queue is read as, and a call is what its document is read as.

* `Json.record?_ofMembers` : members of known names are the record;
* `Headers.ofList_entries` : headers are put together from their own entries, in any order these
  have;
* `Request.ofJson?_toJson`, `Call.ofJson?_toJson` : a request or call is read from its form, field
  by field;
* `Request.plain_toJson`, `Call.plain_toJson` : these forms are documents that are read again;
* `Request.read_written` : both together, as bytes and as text.
-/

namespace Sluice

namespace Json

/-! ### Values read as what they were made of -/

@[simp] theorem text?_ofString (s : String) : (ofString s).text? = some s := rfl

theorem uint8?_ofNat (b : UInt8) : (ofNat b.toNat).uint8? = some b := by
  have hnatural : (ofNat b.toNat).natural? 255 = some b.toNat := by
    simpa [natural?, ofNat, Numeral.ofNat, Numeral.natural?, Numeral.isWhole] using
      Nat.le_of_lt_succ b.toNat_lt
  rw [uint8?, hnatural, Option.map_some, Nat.toUInt8, UInt8.ofNat_toNat]

theorem bytes?_ofBytes (s : Bytes) : (ofBytes s).bytes? = some s := by
  change (s.map fun b => ofNat b.toNat).mapM uint8? = some s
  induction s with
  | nil => rfl
  | cons b s ih => simp [uint8?_ofNat, ih]

theorem members?_ofMembers (ms : List (String × Json)) : (ofMembers ms).members? = some ms := by
  change (ms.map fun m => (some m.1, m.2)).mapM _ = some ms
  induction ms with
  | nil => rfl
  | cons m ms ih => simp [ih]

theorem record?_ofMembers {names : List String} {ms : List (String × Json)} (written : List String)
    (hms : ms.map (·.1) = written) (hnames : ∀ n ∈ written, n ∈ names) (hnodup : written.Nodup) :
    record? names (ofMembers ms) = some ms := by
  have hknown : ms.filter (fun m => names.contains m.1) = ms := by
    rw [List.filter_eq_self]
    intro m hm
    exact List.contains_iff_mem.2 (hnames _ (hms ▸ List.mem_map_of_mem hm))
  change (do Record.ofMembers? names (← (ofMembers ms).members?)) = some ms
  rw [members?_ofMembers]
  simp only [Option.bind_eq_bind, Option.bind_some, Record.ofMembers?, hknown, hms, if_pos hnodup]

/-- A step of a reader that succeeds. -/
theorem bind_of_eq_some {α β : Type} {x : Option α} {a : α} {f : α → Option β} (h : x = some a) :
    (x >>= f) = f a := by
  rw [h]
  rfl

theorem plain_ofBytes (s : Bytes) : Plain (ofBytes s) := by
  refine .array ?_
  intro v hv
  obtain ⟨b, -, rfl⟩ := List.mem_map.1 hv
  exact .natural _

end Json

open Json

/-! ### Headers -/

namespace Headers

theorem put_of_forall_ne {name value : String} {es : List (String × String)}
    (h : ∀ e ∈ es, e.1 ≠ name) : put name value es = es ++ [(name, value)] := by
  induction es with
  | nil => rfl
  | cons e es ih =>
    rw [List.forall_mem_cons] at h
    rw [put, if_neg h.1, ih h.2, List.cons_append]

/-- **Headers are what their entries make**: each has a name of its own. -/
theorem ofList_entries (h : Headers) : ofList h.entries = h := by
  have hfold (es : List (String × String)) (g : Headers)
      (hnodup : ((g.entries ++ es).map (·.1)).Nodup) :
      (es.foldl (fun h e => h.insert e.1 e.2) g).entries = g.entries ++ es := by
    induction es generalizing g with
    | nil => simp
    | cons e es ih =>
      have hput : (g.insert e.1 e.2).entries = g.entries ++ [e] := by
        refine put_of_forall_ne ?_
        intro x hx hname
        rw [List.map_append] at hnodup
        exact (List.nodup_append.1 hnodup).2.2 _ (List.mem_map_of_mem hx) _
          (List.mem_map_of_mem List.mem_cons_self) hname
      rw [List.foldl_cons, ih, hput, List.append_assoc, List.singleton_append]
      rwa [hput, List.append_assoc]
  have hentries := hfold h.entries empty h.nodup
  unfold ofList
  generalize h.entries.foldl (fun h e => h.insert e.1 e.2) empty = g at hentries
  cases g
  cases h
  cases hentries
  rfl

theorem ofJson?_toJson (h : Headers) : ofJson? h.toJson = some h := by
  have hentries : (h.entries.map fun e => (e.1, ofString e.2)).mapM
      (fun m => m.2.text?.map (m.1, ·)) = some h.entries := by
    induction h.entries with
    | nil => rfl
    | cons e es ih => simp [ih]
  rw [ofJson?, toJson, members?_ofMembers]
  simp only [Option.bind_eq_bind, Option.bind_some, hentries, ofList_entries, Option.pure_def]

theorem plain_toJson (h : Headers) : Plain h.toJson := by
  refine .object ?_
  intro m hm
  obtain ⟨e, -, rfl⟩ := List.mem_map.1 hm
  exact .text _

end Headers

theorem Timestamp.ofJson?_toJson (t : Timestamp) : Timestamp.ofJson? t.toJson = some t := by
  rw [ofJson?, toJson, text?_ofString, Option.bind_some, ofText?_text]

/-! ### Calls -/

namespace Call

/-- The fields of a call, as they travel; an absent bucket is left out. -/
def members (c : Call) : Record Json :=
  [("method", ofString c.method), ("target_url", ofString c.targetUrl),
    ("headers", c.headers.toJson), ("body", ofBytes c.body)] ++
    (c.bucketId.map fun b => ("bucket_id", ofString b)).toList

theorem ofJson?_toJson (c : Call) : ofJson? c.toJson = some c := by
  have hrecord : record? fields c.toJson = some c.members := by
    cases hbucket : c.bucketId with
    | none =>
      refine record?_ofMembers (fields.take 4) ?_ (by decide) (by decide)
      simp [hbucket, fields]
    | some b =>
      refine record?_ofMembers fields ?_ (by decide) (by decide)
      simp [hbucket, fields]
  have hget : c.members.get? "method" = some (ofString c.method) ∧
      c.members.get? "target_url" = some (ofString c.targetUrl) ∧
      c.members.get? "headers" = some c.headers.toJson ∧
      c.members.get? "body" = some (ofBytes c.body) ∧
      c.members.get? "bucket_id" = c.bucketId.map ofString := by
    cases hbucket : c.bucketId <;> simp [members, hbucket, Record.get?, List.lookup_cons]
  obtain ⟨hget₁, hget₂, hget₃, hget₄, hget₅⟩ := hget
  have hbucket : (c.bucketId.map ofString).elim (some none) (nullable? text?) =
      some c.bucketId := by
    cases c.bucketId <;> rfl
  rw [ofJson?, bind_of_eq_some hrecord, bind_of_eq_some hget₁, bind_of_eq_some (text?_ofString _),
    bind_of_eq_some hget₂, bind_of_eq_some (text?_ofString _), hget₃, hget₄, hget₅, hbucket,
    Option.elim_some, bind_of_eq_some c.headers.ofJson?_toJson, Option.elim_some,
    bind_of_eq_some (bytes?_ofBytes _)]
  rfl

theorem plain_toJson (c : Call) : Plain c.toJson := by
  refine .object ?_
  simp only [List.forall_mem_append, List.forall_mem_cons, List.not_mem_nil, false_implies,
    implies_true, and_true]
  refine ⟨⟨.text _, .text _, c.headers.plain_toJson, plain_ofBytes _⟩, ?_⟩
  intro m hm
  obtain ⟨b, -, rfl⟩ := Option.map_eq_some_iff.1 (Option.mem_toList.1 hm)
  exact .text _

end Call

/-! ### Requests -/

namespace Request

/-- The fields of a request, as they travel. -/
def members (r : Request) : Record Json :=
  [("correlation_id", ofString r.id.text), ("bucket_id", ofString r.bucketId),
    ("method", ofString r.method), ("target_url", ofString r.targetUrl),
    ("headers", r.headers.toJson), ("body", ofBytes r.body),
    ("return_address", ofString r.returnAddress), ("enqueued_at", r.enqueuedAt.toJson)]

theorem ofJson?_toJson (r : Request) : ofJson? r.toJson = some r := by
  have hrecord : record? fields r.toJson = some r.members :=
    record?_ofMembers fields rfl (fun _ h => h) (by decide)
  have hget : r.members.get? "correlation_id" = some (ofString r.id.text) ∧
      r.members.get? "bucket_id" = some (ofString r.bucketId) ∧
      r.members.get? "method" = some (ofString r.method) ∧
      r.members.get? "target_url" = some (ofString r.targetUrl) ∧
      r.members.get? "headers" = some r.headers.toJson ∧
      r.members.get? "body" = some (ofBytes r.body) ∧
      r.members.get? "return_address" = some (ofString r.returnAddress) ∧
      r.members.get? "enqueued_at" = some r.enqueuedAt.toJson :=
    ⟨rfl, rfl, rfl, rfl, rfl, rfl, rfl, rfl⟩
  obtain ⟨hget₁, hget₂, hget₃, hget₄, hget₅, hget₆, hget₇, hget₈⟩ := hget
  rw [ofJson?, bind_of_eq_some hrecord, bind_of_eq_some hget₁, bind_of_eq_some (text?_ofString _),
    bind_of_eq_some r.id.ofText?_text, bind_of_eq_some hget₂, bind_of_eq_some (text?_ofString _),
    bind_of_eq_some hget₃, bind_of_eq_some (text?_ofString _), bind_of_eq_some hget₄,
    bind_of_eq_some (text?_ofString _), bind_of_eq_some hget₅,
    bind_of_eq_some r.headers.ofJson?_toJson, bind_of_eq_some hget₆,
    bind_of_eq_some (bytes?_ofBytes _), bind_of_eq_some hget₇, bind_of_eq_some (text?_ofString _),
    bind_of_eq_some hget₈, bind_of_eq_some r.enqueuedAt.ofJson?_toJson]
  rfl

theorem plain_toJson (r : Request) : Plain r.toJson := by
  refine .object ?_
  simp only [List.forall_mem_cons, List.not_mem_nil, false_implies, implies_true, and_true]
  exact ⟨.text _, .text _, .text _, .text _, r.headers.plain_toJson, plain_ofBytes _, .text _,
    .text _⟩

theorem ofUtf8?_toUtf8 (r : Request) : ofUtf8? r.toUtf8 = some r := by
  rw [ofUtf8?, toUtf8, Json.ofUtf8?_toUtf8 r.plain_toJson, Option.bind_some, ofJson?_toJson]

/-- **What is put on the queue is what is taken from it.** Every request is read again from its
message, and every call from its document, whether it names a bucket or not, as bytes and as text.
Headers are in any order: it is the one in which they are written. -/
theorem read_written :
    (∀ r : Request, ofUtf8? r.toUtf8 = some r) ∧
      ∀ c : Call, (Json.ofUtf8? c.toJson.toUtf8).bind Call.ofJson? = some c ∧
        (Json.ofText? c.toJson.text).bind Call.ofJson? = some c := by
  refine ⟨ofUtf8?_toUtf8, fun c => ?_⟩
  rw [Json.ofUtf8?_toUtf8 c.plain_toJson, Json.ofText?_text c.plain_toJson, Option.bind_some,
    Call.ofJson?_toJson]
  exact ⟨rfl, rfl⟩

end Request

end Sluice
