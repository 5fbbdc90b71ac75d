import Sluice.Proofs.Message.Framing
import Sluice.Proofs.MessagePack.RoundTrip
import Sluice.Proofs.Text.Utf8
import Sluice.Proofs.Time.Rfc3339

/-!
# The wire loses nothing

A response that fits into a frame is what its frame is read as.

* `MessagePack.record?_ofMembers` : named values in the order of the names are the record;
* `Response.ofMessagePack?_toMessagePack` : a response is read from its form, field by field;
* `Response.plain_toMessagePack` : that form has three levels, so that its bytes are read again;
* `Frame.isFrame_encode` : what frames a response is its frame, if the bound is large enough;
* `Frame.decode_encode` : a frame is the length of its body and a body that is the response.
-/

namespace Sluice

namespace MessagePack

/-! ### Values read as what they were made of -/

theorem natural?_ofNat {bound n : Nat} (h : n ≤ bound) : (ofNat n).natural? bound = some n :=
  if_pos h

theorem uint8?_ofNat (b : UInt8) : (ofNat b.toNat).uint8? = some b := by
  rw [uint8?, natural?_ofNat (Nat.le_of_lt_succ b.toNat_lt), Option.map_some, Nat.toUInt8,
    UInt8.ofNat_toNat]

theorem uint16?_ofNat (n : UInt16) : (ofNat n.toNat).uint16? = some n := by
  rw [uint16?, natural?_ofNat (Nat.le_of_lt_succ n.toNat_lt), Option.map_some, Nat.toUInt16,
    UInt16.ofNat_toNat]

theorem uint32?_ofNat (n : UInt32) : (ofNat n.toNat).uint32? = some n := by
  rw [uint32?, natural?_ofNat (Nat.le_of_lt_succ n.toNat_lt), Option.map_some, Nat.toUInt32,
    UInt32.ofNat_toNat]

theorem uint64?_ofNat (n : UInt64) : (ofNat n.toNat).uint64? = some n := by
  rw [uint64?, natural?_ofNat (Nat.le_of_lt_succ n.toNat_lt), Option.map_some, Nat.toUInt64,
    UInt64.ofNat_toNat]

theorem text?_ofString (s : String) : (ofString s).text? = some s := Utf8.toString?_ofString s

theorem textOrBytes?_ofString (s : String) : (ofString s).textOrBytes? = some s :=
  Utf8.toString?_ofString s

theorem octets?_ofOctets (s : Bytes) : (ofOctets s).octets? = some s := by
  rw [ofOctets, octets?]
  induction s with
  | nil => rfl
  | cons b s ih =>
    rw [List.map_cons, List.mapM_cons, uint8?_ofNat, ih]
    rfl

/-- A value that is not nil itself is told from nil. -/
theorem nullable?_ofOption {α : Type} (write : α → MessagePack) {read : MessagePack → Option α}
    (hread : ∀ a, read (write a) = some a) (hnil : ∀ a, write a ≠ .nil) (a : Option α) :
    nullable? read (ofOption write a) = some a := by
  cases a with
  | none => rfl
  | some a =>
    unfold nullable?
    split
    · rename_i heq
      exact absurd heq (hnil a)
    · rw [ofOption, hread]
      rfl

theorem name?_ofString (names : List String) (s : String) :
    name? names (ofString s) = some s := by
  rw [ofString, name?, Utf8.toString?_ofString]
  rfl

theorem record?_ofMembers {names : List String} {ms : List (String × MessagePack)}
    (hnames : ms.map (·.1) = names) (hnodup : names.Nodup) :
    record? names (ofMembers ms) = some ms := by
  have hread : (ms.map fun m => (ofString m.1, m.2)).mapM
      (fun m => (name? names m.1).map (·, m.2)) = some ms := by
    clear hnames
    induction ms with
    | nil => rfl
    | cons m ms ih =>
      rw [List.map_cons, List.mapM_cons, ih, name?_ofString]
      rfl
  have hknown : ms.filter (fun m => names.contains m.1) = ms := by
    rw [List.filter_eq_self]
    intro m hm
    rw [List.contains_iff_mem, ← hnames]
    exact List.mem_map_of_mem hm
  rw [ofMembers, record?]
  simp only [hread, Option.bind_eq_bind, Option.bind_some, Record.ofMembers?, hknown, hnames,
    if_pos hnodup]

end MessagePack

open MessagePack

/-! ### Responses -/

theorem Status.ofPlace?_choice? (s : Status) :
    ((ofString s.name).choice? Status.names).bind Status.ofPlace? = some s := by
  have hchoice : (ofString s.name).choice? Status.names =
      (ofString s.name).textOrBytes?.bind fun name => Status.names.findIdx? (· == name) := rfl
  rw [hchoice, textOrBytes?_ofString]
  cases s <;> rfl

theorem Timestamp.ofMessagePack?_ofString (t : Timestamp) :
    Timestamp.ofMessagePack? (ofString t.text) = some t := by
  rw [Timestamp.ofMessagePack?, text?_ofString, Option.bind_some, Timestamp.ofText?_text]

theorem Snapshot.ofMessagePack?_toMessagePack (s : Snapshot) :
    Snapshot.ofMessagePack? s.toMessagePack = some s := by
  have hrecord : record? Snapshot.fields s.toMessagePack = some [("limit", ofNat s.limit.toNat),
      ("remaining", ofNat s.remaining.toNat), ("reset_at", ofString s.resetAt.text)] :=
    record?_ofMembers rfl (by decide)
  have hlimit := uint32?_ofNat s.limit
  have hremaining := uint32?_ofNat s.remaining
  have hreset := Timestamp.ofMessagePack?_ofString s.resetAt
  rw [Snapshot.ofMessagePack?, hrecord]
  simp [Record.get?, List.lookup_cons, hlimit, hremaining, hreset]

namespace Response

/-- The fields of a response, as they travel. -/
def members (r : Response) : Record MessagePack :=
  [("correlation_id", .bin r.id.bytes), ("status", ofString r.status.name),
    ("http_status", ofOption (fun n => ofNat n.toNat) r.httpStatus),
    ("payload", ofOption ofOctets r.payload),
    ("error_detail", ofOption ofString r.detail),
    ("retry_after_ms", ofOption (fun n => ofNat n.toNat) r.retryAfterMs),
    ("rate_limit_snapshot", ofOption Snapshot.toMessagePack r.snapshot)]

theorem ofMessagePack?_toMessagePack (r : Response) :
    Response.ofMessagePack? r.toMessagePack = some r := by
  have hrecord : record? fields r.toMessagePack = some r.members :=
    record?_ofMembers rfl (by decide)
  have hid : Uuid.ofBytes? r.id.bytes = some r.id := dif_pos r.id.length_bytes
  obtain ⟨place, hplace, hstatus⟩ := Option.bind_eq_some_iff.1 (Status.ofPlace?_choice? r.status)
  have hhttp := nullable?_ofOption (fun n : UInt16 => ofNat n.toNat) uint16?_ofNat
    (fun _ => nofun) r.httpStatus
  have hpayload := nullable?_ofOption ofOctets octets?_ofOctets (fun _ => nofun) r.payload
  have hdetail := nullable?_ofOption ofString textOrBytes?_ofString (fun _ => nofun) r.detail
  have hretry := nullable?_ofOption (fun n : UInt64 => ofNat n.toNat) uint64?_ofNat
    (fun _ => nofun) r.retryAfterMs
  have hsnapshot := nullable?_ofOption Snapshot.toMessagePack
    Snapshot.ofMessagePack?_toMessagePack (fun _ => nofun) r.snapshot
  have hget : r.members.get? "correlation_id" = some (.bin r.id.bytes) ∧
      r.members.get? "status" = some (ofString r.status.name) ∧
      r.members.get? "http_status" = some (ofOption (fun n => ofNat n.toNat) r.httpStatus) ∧
      r.members.get? "payload" = some (ofOption ofOctets r.payload) ∧
      r.members.get? "error_detail" = some (ofOption ofString r.detail) ∧
      r.members.get? "retry_after_ms" = some (ofOption (fun n => ofNat n.toNat) r.retryAfterMs) ∧
      r.members.get? "rate_limit_snapshot" = some (ofOption Snapshot.toMessagePack r.snapshot) :=
    ⟨rfl, rfl, rfl, rfl, rfl, rfl, rfl⟩
  obtain ⟨hget₁, hget₂, hget₃, hget₄, hget₅, hget₆, hget₇⟩ := hget
  rw [ofMessagePack?, hrecord]
  simp only [hget₁, hget₂, hget₃, hget₄, hget₅, hget₆, hget₇, Option.bind_eq_bind,
    Option.bind_some, Option.elim_some, rawBytes?, hid, hplace, hstatus, hhttp, hpayload, hdetail,
    hretry, hsnapshot, Option.pure_def]

/-- The form of a response has three levels: the map of its fields, a row of bytes or the map of a
snapshot, and what these hold. -/
theorem plain_toMessagePack (d : Nat) (r : Response) : Plain (d + 3) r.toMessagePack := by
  have hnat {d n : Nat} (h : n < 18446744073709551616) : Plain (d + 1) (ofNat n) := .uint h
  have hoption {α : Type} {d : Nat} {write : α → MessagePack} (o : Option α)
      (h : ∀ a, Plain (d + 1) (write a)) : Plain (d + 1) (ofOption write o) := by
    cases o with
    | none => exact .nil
    | some a => exact h a
  have hmembers {d : Nat} {ms : List (String × MessagePack)} (h : ∀ m ∈ ms, Plain (d + 1) m.2) :
      Plain (d + 2) (ofMembers ms) := by
    refine .map ?_ ?_
    · intro m hm
      obtain ⟨field, -, rfl⟩ := List.mem_map.1 hm
      exact .str _
    · intro m hm
      obtain ⟨field, hfield, rfl⟩ := List.mem_map.1 hm
      exact h field hfield
  have hoctets (s : Bytes) : Plain (d + 2) (ofOctets s) := by
    refine .array ?_
    intro v hv
    obtain ⟨b, -, rfl⟩ := List.mem_map.1 hv
    exact hnat (Nat.lt_trans b.toNat_lt (by decide))
  have hsnapshot (s : Snapshot) : Plain (d + 2) s.toMessagePack := by
    refine hmembers ?_
    simp only [List.forall_mem_cons, List.not_mem_nil, false_implies, implies_true, and_true]
    exact ⟨hnat (Nat.lt_trans s.limit.toNat_lt (by decide)),
      hnat (Nat.lt_trans s.remaining.toNat_lt (by decide)), .str _⟩
  -- Two levels for the record and its members, and one for the numbers within a value.
  refine hmembers ?_
  simp only [List.forall_mem_cons, List.not_mem_nil, false_implies, implies_true, and_true]
  exact ⟨.bin _, .str _, hoption _ fun n => hnat (Nat.lt_trans n.toNat_lt (by decide)),
    hoption _ hoctets, hoption _ fun s => .str _, hoption _ fun n => hnat n.toNat_lt,
    hoption _ hsnapshot⟩

theorem ofBytes?_toBytes {r : Response} (h : r.toBytes.length < 4294967296) :
    ofBytes? r.toBytes = some r := by
  have hread := readValue_toBytes (plain_toMessagePack 1021 r) h []
  rw [List.append_nil] at hread
  have hread : read? r.toBytes = some (r.toMessagePack, []) := hread
  rw [ofBytes?, hread, Option.bind_some, ofMessagePack?_toMessagePack]

end Response

namespace Frame

/-- Four bytes that tell the length of a body, and a body that is read as a response. -/
theorem isFrame_of_decode {body : Bytes} {r : Response} {bound : Nat} (h : decode body = .ok r)
    (hsize : body.length < 4294967296) (hbound : body.length ≤ bound) :
    IsFrame bound (bigEndianBytes 4 body.length ++ body) r := by
  have hheader : (bigEndianBytes 4 body.length).length = headerSize := length_bigEndianBytes 4 _
  have hne : body ≠ [] := by
    rintro rfl
    cases h
  refine ⟨?_, ?_, ?_, ?_, ?_⟩
  · rw [List.length_append, hheader]
    exact Nat.le_add_right _ _
  · rw [List.take_left' hheader, List.drop_left' hheader]
    exact bigEndian_bigEndianBytes hsize
  · rw [List.drop_left' hheader]
    exact List.length_pos_iff.2 hne
  · rwa [List.drop_left' hheader]
  · rwa [List.drop_left' hheader]

/-- The frame of a response is one for every bound that is large enough. -/
theorem isFrame_encode {r : Response} {bound : Nat} (hsize : r.toBytes.length < 4294967296)
    (hbound : r.toBytes.length ≤ bound) :
    IsFrame bound (bigEndianBytes 4 r.toBytes.length ++ r.toBytes) r := by
  refine isFrame_of_decode ?_ hsize hbound
  rw [decode, Response.ofBytes?_toBytes hsize]

/-- **The wire loses nothing.** A response shorter than 2^32 bytes has a frame; its first four bytes
are the length of the rest, most significant first, and the rest is read as the response. -/
theorem decode_encode (r : Response) (h : r.toBytes.length < 4294967296) :
    ∃ frame, encode? r = .ok frame ∧
      (frame.take headerSize).length = headerSize ∧
      bigEndian (frame.take headerSize) = (frame.drop headerSize).length ∧
      decode (frame.drop headerSize) = .ok r := by
  have hheader : (bigEndianBytes 4 r.toBytes.length).length = headerSize :=
    length_bigEndianBytes 4 _
  refine ⟨bigEndianBytes 4 r.toBytes.length ++ r.toBytes, if_pos h, ?_⟩
  rw [List.take_left' hheader, List.drop_left' hheader]
  refine ⟨hheader, bigEndian_bigEndianBytes h, ?_⟩
  rw [decode, Response.ofBytes?_toBytes h]

/-- A response with every field: text beyond ASCII, bytes that are no text, the largest numbers, and
limits that end within a leap second of the year 12018. -/
def leapYearResponse : Response where
  id := Uuid.ofNat 1
  status := .rateLimited
  httpStatus := some 429
  payload := some [0, 127, 128, 255]
  detail := some "слишком many 😀"
  retryAfterMs := some 18446744073709551615
  snapshot := some ⟨4294967295, 65536, ⟨317094825599, 1999999999, by decide, by decide, by decide,
    by decide⟩⟩

theorem decode_encode_leapYear : leapYearResponse.toBytes.length < 4294967296 ∧
    ∃ frame, encode? leapYearResponse = .ok frame ∧
      (frame.take headerSize).length = headerSize ∧
      bigEndian (frame.take headerSize) = (frame.drop headerSize).length ∧
      decode (frame.drop headerSize) = .ok leapYearResponse := by
  have h : leapYearResponse.toBytes.length < 4294967296 := by decide +kernel
  exact ⟨h, decode_encode leapYearResponse h⟩

end Frame

end Sluice
