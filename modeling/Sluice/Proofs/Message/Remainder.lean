import Sluice.Proofs.MessagePack.Grammar
import Sluice.Proofs.Message.Lossless

/-!
# What follows a response in its frame

The body of a frame is read from its start. It needs to begin with a response, whose bytes tell
themselves where they end, and what follows these bytes is lost.

* `Response.Encoded` : the bytes are those of a response, in any of the forms that it may have;
  `Response.Encoded.unique` : bytes begin with at most one;
* `Frame.decode_eq_ok_iff` : a body is accepted exactly if it begins with a response;
* `Frame.Begins` : how such a body is read, and the stream that its frame comes in;
* `Frame.reads_start` : every body is read in this way.
-/

namespace Sluice

open MessagePack

variable {r r' : Response} {s s' rest rest' body : Bytes}

namespace Response

/-- The bytes are those of a response. -/
def Encoded (r : Response) (s : Bytes) : Prop :=
  ∃ v, Encodes deepest v s ∧ ofMessagePack? v = some r

theorem Encoded.unique (h : r.Encoded s) (h' : r'.Encoded s') (heq : s ++ rest = s' ++ rest') :
    r = r' ∧ s = s' ∧ rest = rest' := by
  obtain ⟨v, hv, hr⟩ := h
  obtain ⟨v', hv', hr'⟩ := h'
  obtain ⟨rfl, rfl, rfl⟩ := (reads_value deepest).unique hv hv' heq
  rw [hr, Option.some.injEq] at hr'
  exact ⟨hr', rfl, rfl⟩

theorem ofBytes?_eq_some_iff :
    ofBytes? body = some r ↔ ∃ s rest, r.Encoded s ∧ body = s ++ rest := by
  simp only [ofBytes?, read?, Option.bind_eq_some_iff, Prod.exists]
  constructor
  · rintro ⟨v, rest, hread, hr⟩
    obtain ⟨s, hs, rfl⟩ := (reads_value deepest body v rest).1 hread
    exact ⟨s, rest, ⟨v, hs, hr⟩, rfl⟩
  · rintro ⟨s, rest, ⟨v, hs, hr⟩, rfl⟩
    exact ⟨v, rest, (reads_value deepest _ v rest).2 ⟨s, hs, rfl⟩, hr⟩

theorem encoded_toBytes (h : r.toBytes.length < 4294967296) : r.Encoded r.toBytes := by
  have hread := readValue_toBytes (plain_toMessagePack 1021 r) h []
  obtain ⟨s, hs, heq⟩ := (reads_value deepest _ r.toMessagePack []).1 hread
  rw [List.append_nil, List.append_nil] at heq
  subst heq
  exact ⟨r.toMessagePack, hs, ofMessagePack?_toMessagePack r⟩

end Response

namespace Frame

theorem decode_eq_ok_iff : decode body = .ok r ↔ ∃ s rest, r.Encoded s ∧ body = s ++ rest := by
  rw [← Response.ofBytes?_eq_some_iff, decode]
  cases Response.ofBytes? body <;> simp

/-- How a body is read that begins with the bytes `s` of a response and goes on with `rest`. -/
structure Begins (r : Response) (s rest : Bytes) : Prop where
  /-- It begins with no other response. -/
  unique : ∀ r' s' rest', Response.Encoded r' s' → s ++ rest = s' ++ rest' →
    r' = r ∧ s' = s ∧ rest' = rest
  /-- All of it is the bytes of a response exactly if nothing follows. -/
  whole_iff : (∃ r', Response.Encoded r' (s ++ rest)) ↔ rest = []
  /-- Its frame is read as the response. What follows within the frame is lost, and what comes after
  the frame is read next. -/
  next : ∀ bound src left, (s ++ rest).length < 4294967296 → (s ++ rest).length ≤ bound →
    Source.bytes src = bigEndianBytes 4 (s ++ rest).length ++ (s ++ rest) ++ left →
    ∃ src', next bound src = (.response r, src') ∧ src'.bytes = left

theorem begins (h : r.Encoded s) (rest : Bytes) : Begins r s rest where
  unique r' s' rest' h' heq := by
    obtain ⟨hr, hs, hrest⟩ := h.unique h' heq
    exact ⟨hr.symm, hs.symm, hrest.symm⟩
  whole_iff := by
    constructor
    · rintro ⟨r', h'⟩
      obtain ⟨-, -, hrest⟩ := h'.unique h (List.append_nil _)
      exact hrest.symm
    · rintro rfl
      exact ⟨r, by rwa [List.append_nil]⟩
  next bound src left hsize hbound hsrc := by
    have hdecode : decode (s ++ rest) = .ok r := decode_eq_ok_iff.2 ⟨s, rest, h, rfl⟩
    obtain ⟨src', hnext, hleft, -⟩ := next_of_isFrame (isFrame_of_decode hdecode hsize hbound) hsrc
    exact ⟨src', hnext, hleft⟩

/-- **The body of a frame is read from its start.** It is accepted exactly if it begins with the
bytes of a response, such as those that the response is written as. They are all of the body only if
nothing follows them; what follows is neither read nor noticed. -/
theorem reads_start (body : Bytes) (r : Response) :
    (decode body = .ok r ↔ ∃ s rest, r.Encoded s ∧ body = s ++ rest) ∧
      (r.toBytes.length < 4294967296 → r.Encoded r.toBytes) ∧
      ∀ s rest, r.Encoded s → Begins r s rest :=
  ⟨decode_eq_ok_iff, Response.encoded_toBytes, fun _ rest h => begins h rest⟩

/-- A response twice in one frame: the second one is lost. -/
theorem reads_start_leapYear : leapYearResponse.toBytes.length < 4294967296 ∧
    leapYearResponse.Encoded leapYearResponse.toBytes ∧
    Begins leapYearResponse leapYearResponse.toBytes leapYearResponse.toBytes := by
  have hsize : leapYearResponse.toBytes.length < 4294967296 := by decide +kernel
  obtain ⟨-, hencoded, hbegins⟩ :=
    reads_start (leapYearResponse.toBytes ++ leapYearResponse.toBytes) leapYearResponse
  exact ⟨hsize, hencoded hsize, hbegins _ _ (hencoded hsize)⟩

/-- A body that is accepted need not be the bytes of a response: one that is followed by another
one, or by a byte that begins nothing, is read as the first one alone. -/
theorem accepts_more : decode (leapYearResponse.toBytes ++ leapYearResponse.toBytes) =
      .ok leapYearResponse ∧
    decode (leapYearResponse.toBytes ++ [0xc1]) = .ok leapYearResponse ∧
    ∀ r, ¬Response.Encoded r (leapYearResponse.toBytes ++ leapYearResponse.toBytes) := by
  have hencoded : leapYearResponse.Encoded leapYearResponse.toBytes :=
    Response.encoded_toBytes (by decide +kernel)
  refine ⟨decode_eq_ok_iff.2 ⟨_, _, hencoded, rfl⟩, decode_eq_ok_iff.2 ⟨_, _, hencoded, rfl⟩, ?_⟩
  intro r hr
  obtain ⟨-, -, hrest⟩ := hr.unique hencoded (List.append_nil _)
  have hne : leapYearResponse.toBytes ≠ [] := by decide +kernel
  exact hne hrest.symm

end Frame

end Sluice
