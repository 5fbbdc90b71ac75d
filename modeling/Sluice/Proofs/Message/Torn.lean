import Sluice.Proofs.Message.Lossless

/-!
# Torn streams

A stream of frames may end anywhere: where the sender stops, or where it fails. Whole frames are
read, and nothing is made of what is left of another one.

* `Frame.found_take` : what is found in the beginning of a frame;
* `Frame.boundary` : where the frames of a stream begin and end;
* `Frame.readAll_take` : what is read from the beginning of a stream, by how far it goes beyond the
  last boundary;
* `Frame.Torn` : the same in terms of all boundaries; `Frame.readAll_torn` shows it for the frames
  of any responses.
-/

namespace Sluice

namespace Frame

variable {bound c n k : Nat} {frame : Bytes} {frames : List Bytes} {r : Response}
  {rs : List Response} {src : Source}

/-! ### The beginning of a frame -/

/-- How a source ends that goes a number of bytes into a frame. -/
def tornAt (m : Nat) : Ending :=
  if m = 0 then .done else if m < headerSize then .fault .endInHeader else .fault .endInBody

theorem tornAt_eq_done (m : Nat) : tornAt m = .done ↔ m = 0 := by
  unfold tornAt
  split_ifs <;> simp_all

theorem tornAt_eq_endInHeader (m : Nat) :
    tornAt m = .fault .endInHeader ↔ 0 < m ∧ m < headerSize := by
  unfold tornAt
  split_ifs <;> simp_all [Nat.pos_iff_ne_zero]

theorem tornAt_eq_endInBody (m : Nat) :
    tornAt m = .fault .endInBody ↔ headerSize ≤ m := by
  unfold tornAt
  split_ifs <;> simp_all [headerSize]

theorem IsFrame.headerSize_lt (h : IsFrame bound frame r) : headerSize < frame.length := by
  have hpos := h.pos
  rw [List.length_drop] at hpos
  omega

/-- **The beginning of a frame is no response.** -/
theorem found_take (h : IsFrame bound frame r) (hc : c < frame.length) :
    (found bound (frame.take c) none).ending? = some (tornAt c) := by
  have hlen : (frame.take c).length = c := List.length_take_of_le (Nat.le_of_lt hc)
  by_cases hheader : c < headerSize
  · by_cases hzero : c = 0
    · subst hzero
      rfl
    · have hne : (frame.take c).isEmpty = false := by
        rw [List.isEmpty_eq_false_iff, ← List.length_pos_iff, hlen]
        exact Nat.pos_of_ne_zero hzero
      simp [found, tornAt, hlen, hheader, hzero, hne, Found.ending?]
  · -- The length is there, and it tells of more bytes than there are.
    have hle : headerSize ≤ c := Nat.le_of_not_lt hheader
    have hzero : c ≠ 0 := fun hc => hheader (hc ▸ by decide)
    have hsize : MessagePack.bigEndian ((frame.take c).take headerSize) =
        (frame.drop headerSize).length := by
      rw [List.take_take, Nat.min_eq_left hle, h.size]
    have hshort : ((frame.take c).drop headerSize).length < (frame.drop headerSize).length := by
      rw [List.length_drop, List.length_drop, hlen]
      omega
    have hpos : (frame.drop headerSize).length ≠ 0 := Nat.pos_iff_ne_zero.1 h.pos
    have hbound : ¬bound < (frame.drop headerSize).length := Nat.not_lt.2 h.le_bound
    unfold found tornAt
    rw [hlen, if_neg hheader, hsize]
    simp only [if_neg hpos, if_neg hbound, if_pos hshort, if_neg hzero, if_neg hheader]
    rfl

/-! ### The beginning of a stream -/

/-- Where a stream of frames can be cut between two of them: the length of the first `k`. -/
def boundary (frames : List Bytes) (k : Nat) : Nat := (frames.take k).flatten.length

theorem boundary_zero (frames : List Bytes) : boundary frames 0 = 0 := rfl

theorem boundary_cons (frame : Bytes) (frames : List Bytes) (k : Nat) :
    boundary (frame :: frames) (k + 1) = frame.length + boundary frames k := by
  simp [boundary]

theorem boundary_mono (frames : List Bytes) {j k : Nat} (h : j ≤ k) :
    boundary frames j ≤ boundary frames k := by
  obtain ⟨more, hmore⟩ : frames.take j <+: frames.take k := List.take_prefix_take_left h
  rw [boundary, boundary, ← hmore, List.flatten_append, List.length_append]
  exact Nat.le_add_right _ _

/-- Two boundaries have a length and a response between them. -/
theorem boundary_add_headerSize_lt (h : List.Forall₂ (IsFrame bound) frames rs)
    (hk : k < frames.length) : boundary frames k + headerSize < boundary frames (k + 1) := by
  obtain ⟨r, hr⟩ : ∃ r, IsFrame bound frames[k] r :=
    ⟨_, List.forall₂_iff_get.1 h |>.2 k hk (h.length_eq ▸ hk)⟩
  have hframe := hr.headerSize_lt
  rw [boundary, boundary, List.take_succ_eq_append_getElem hk, List.flatten_append,
    List.length_append, List.flatten_singleton]
  omega

/-- **Whole frames are read from the beginning of a stream**, and how it ends depends on how far it
goes beyond the last of them. -/
theorem readAll_take (h : List.Forall₂ (IsFrame bound) frames rs)
    (hc : c ≤ frames.flatten.length) (hbytes : src.bytes = frames.flatten.take c)
    (hfailure : src.failure? = none) :
    ∃ n ≤ frames.length, (∀ k ≤ frames.length, boundary frames k ≤ c ↔ k ≤ n) ∧
      readAll bound src = (rs.take n, tornAt (c - boundary frames n)) := by
  induction h generalizing c src with
  | nil =>
    obtain rfl : c = 0 := Nat.le_zero.1 hc
    have hdone : (next bound src).1.ending? = some .done := by
      rw [fst_next, hbytes, hfailure]
      rfl
    refine ⟨0, Nat.le_refl 0, ?_, ?_⟩
    · intro k hk
      simp [Nat.le_zero.1 hk, boundary_zero]
    · rw [readAll_of_ending hdone]
      rfl
  | @cons frame r frames rs hframe hframes ih =>
    rw [List.flatten_cons] at hbytes hc
    by_cases hle : frame.length ≤ c
    · -- The first frame is whole, and the others follow it.
      rw [List.take_append, List.take_of_length_le hle] at hbytes
      obtain ⟨rest, hnext, hrest, hrestFailure⟩ := next_of_isFrame hframe hbytes
      rw [List.length_append] at hc
      obtain ⟨n, hn, hwhole, hread⟩ := ih (by omega) hrest (hrestFailure.trans hfailure)
      refine ⟨n + 1, Nat.succ_le_succ hn, ?_, ?_⟩
      · rintro (_ | k) hk
        · simp [boundary_zero]
        · have hiff := hwhole k (Nat.le_of_succ_le_succ hk)
          rw [boundary_cons, Nat.add_one_le_add_one_iff, ← hiff]
          omega
      · rw [readAll_of_response hnext, hread, boundary_cons, List.take_succ_cons, Nat.sub_add_eq]
    · -- The first frame is not whole.
      have hlt : c < frame.length := Nat.lt_of_not_le hle
      rw [List.take_append_of_le_length (Nat.le_of_lt hlt)] at hbytes
      have hending : (next bound src).1.ending? = some (tornAt c) := by
        rw [fst_next, hbytes, hfailure]
        exact found_take hframe hlt
      refine ⟨0, Nat.zero_le _, ?_, readAll_of_ending hending⟩
      rintro (_ | k) hk
      · simp [boundary_zero]
      · rw [boundary_cons]
        omega

/-! ### Torn streams -/

/-- What is read from the first `c` bytes of a stream of frames of some responses. -/
structure Torn (rs : List Response) (frames : List Bytes) (c : Nat)
    (out : List Response × Ending) : Prop where
  /-- The responses of the frames that lie wholly within these bytes, and no others. -/
  responses : ∃ n, (∀ k ≤ frames.length, boundary frames k ≤ c ↔ k ≤ n) ∧ out.1 = rs.take n
  done : out.2 = .done ↔ ∃ k ≤ frames.length, c = boundary frames k
  endInHeader : out.2 = .fault .endInHeader ↔
    ∃ k ≤ frames.length, boundary frames k < c ∧ c < boundary frames k + headerSize
  endInBody : out.2 = .fault .endInBody ↔
    ∀ k ≤ frames.length, c < boundary frames k ∨ boundary frames k + headerSize ≤ c

theorem exists_frame (h : r.toBytes.length < 4294967296) : ∃ frame, encode? r = .ok frame :=
  ⟨_, if_pos h⟩

theorem isFrame_of_encode? (h : encode? r = .ok frame) (hbound : r.toBytes.length ≤ bound) :
    IsFrame bound frame r := by
  unfold encode? at h
  dsimp only at h
  split_ifs at h with hsize
  cases h
  exact isFrame_encode hsize hbound

theorem forall₂_isFrame (hframes : List.Forall₂ (fun r frame => encode? r = .ok frame) rs frames)
    (hbound : ∀ r ∈ rs, r.toBytes.length ≤ bound) : List.Forall₂ (IsFrame bound) frames rs := by
  refine List.Forall₂.flip (((List.forall₂_and_left rs frames).2 ⟨hbound, hframes⟩).imp ?_)
  rintro r frame ⟨hr, hencode⟩
  exact isFrame_of_encode? hencode hr

/-- **A torn stream yields no wrong response.** Of the frames of any responses, none of them longer
than the bound, cut anywhere and delivered in any pieces, those are read that are whole; that the
stream is torn is noticed, unless it ends between two frames. -/
theorem readAll_torn (hframes : List.Forall₂ (fun r frame => encode? r = .ok frame) rs frames)
    (hbound : ∀ r ∈ rs, r.toBytes.length ≤ bound) (hc : c ≤ frames.flatten.length)
    (cut : Source.Cut (frames.flatten.take c)) : Torn rs frames c (readAll bound cut.source) := by
  have hall := forall₂_isFrame hframes hbound
  obtain ⟨n, hn, hwhole, hread⟩ :=
    readAll_take hall hc cut.bytes_source cut.whole.failure?
  have hlast : boundary frames n ≤ c := (hwhole n hn).2 (Nat.le_refl n)
  -- What comes after the last whole frame is shorter than the next one.
  have hnext {k : Nat} (hk : k ≤ frames.length) (hkc : boundary frames k ≤ c) (hkn : k ≠ n) :
      boundary frames k + headerSize < boundary frames n := by
    have hlt : k < n := Nat.lt_of_le_of_ne ((hwhole k hk).1 hkc) hkn
    exact Nat.lt_of_lt_of_le (boundary_add_headerSize_lt hall (Nat.lt_of_lt_of_le hlt hn))
      (boundary_mono frames hlt)
  rw [hread]
  refine ⟨⟨n, hwhole, rfl⟩, ?_, ?_, ?_⟩
  · rw [tornAt_eq_done]
    constructor
    · intro hzero
      exact ⟨n, hn, by omega⟩
    · rintro ⟨k, hk, hck⟩
      by_cases hkn : k = n
      · subst hkn
        omega
      · have := hnext hk (Nat.le_of_eq hck.symm) hkn
        omega
  · rw [tornAt_eq_endInHeader]
    constructor
    · rintro ⟨hpos, hlt⟩
      exact ⟨n, hn, by omega, by omega⟩
    · rintro ⟨k, hk, hpos, hlt⟩
      by_cases hkn : k = n
      · subst hkn
        omega
      · have := hnext hk (Nat.le_of_lt hpos) hkn
        omega
  · rw [tornAt_eq_endInBody]
    constructor
    · intro hle k hk
      by_cases hkc : boundary frames k ≤ c
      · by_cases hkn : k = n
        · subst hkn
          omega
        · have := hnext hk hkc hkn
          omega
      · exact Or.inl (Nat.lt_of_not_le hkc)
    · intro hall
      rcases hall n hn with hlt | hle <;> omega

/-- Two frames of a response, of which the second one lacks the last byte of its length. -/
theorem readAll_torn_leapYear : ∃ frame, encode? leapYearResponse = .ok frame ∧
    leapYearResponse.toBytes.length ≤ standardBound ∧
    ∃ cut : Source.Cut ([frame, frame].flatten.take (frame.length + 3)),
      Torn [leapYearResponse, leapYearResponse] [frame, frame] (frame.length + 3)
        (readAll standardBound cut.source) := by
  have hsize : leapYearResponse.toBytes.length ≤ standardBound := by decide +kernel
  obtain ⟨frame, hencode⟩ := exists_frame (Nat.lt_of_le_of_lt hsize (by decide))
  have hlen := (isFrame_of_encode? hencode hsize).headerSize_lt
  have hhalf : [frame, frame].flatten.take (frame.length + 3) ≠ [] := by
    simpa using List.ne_nil_of_length_pos (Nat.zero_lt_of_lt hlen)
  refine ⟨frame, hencode, hsize, ⟨[[frame, frame].flatten.take (frame.length + 3)], ?_,
    List.flatten_singleton⟩, ?_⟩
  · simpa using hhalf
  refine readAll_torn (.cons hencode (.cons hencode .nil)) ?_ ?_ _
  · simpa using hsize
  · simp [headerSize] at hlen ⊢
    omega

end Frame

end Sluice
