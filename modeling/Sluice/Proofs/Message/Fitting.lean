import Sluice.Proofs.Message.Size
import Sluice.Proofs.Message.Torn

/-!
# Frames that fit

A reader refuses a frame for its length alone: when the length is zero, or above the bound of the
reader. How long a frame is can be told from the body and the text of its response, so that a bound
can be chosen which no frame exceeds.

* `FrameFault.refusesLength` : the faults that are found in the length of a frame;
* `Frame.refusesLength_next` : they are not found in a frame within the bound, whatever part of it
  arrives;
* `Frame.refusesLength_readAll` : nor are they in a whole stream of such frames;
* `Frame.encode_fits` : twice the bytes of the body, those of the text, and 256 are enough for one
  frame; `Frame.readAll_encode_fits` shows what that means for a connection.
-/

namespace Sluice

/-- Whether a frame is refused for its length, before anything of its body is read. -/
def FrameFault.refusesLength : FrameFault → Bool
  | zeroLength | oversized .. => true
  | endInHeader | endInBody | undecodable | tooLarge _ => false

namespace Frame

variable {bound : Nat} {frame body s left : Bytes} {frames : List Bytes} {r : Response}
  {rs : List Response} {src : Source} {f : FrameFault}

/-! ### Frames within the bound -/

theorem eq_undecodable_of_decode (h : decode body = .error f) : f = .undecodable := by
  unfold decode at h
  split at h
  · cases h
  · exact (Except.error.inj h).symm

theorem refusesLength_found {failure? : Option String} (h : IsFrame bound frame r)
    (hs : s <+: frame ++ left) (hf : found bound s failure? = .fault f) :
    f.refusesLength = false := by
  unfold found at hf
  by_cases hheader : s.length < headerSize
  · rw [if_pos hheader] at hf
    split at hf
    · cases hf
    · split_ifs at hf
      cases hf
      rfl
  -- The length is there, and it is that of the frame.
  have htake : s.take headerSize = frame.take headerSize := by
    obtain ⟨more, hmore⟩ := hs
    rw [← List.take_append_of_le_length (Nat.le_of_not_lt hheader), hmore,
      List.take_append_of_le_length h.header]
  rw [if_neg hheader, htake, h.size] at hf
  simp only [if_neg (Nat.pos_iff_ne_zero.1 h.pos), if_neg (Nat.not_lt.2 h.le_bound)] at hf
  split_ifs at hf
  · split at hf
    · cases hf
    · cases hf
      rfl
  · split at hf
    · cases hf
    · rename_i hdecode
      cases hf
      rw [eq_undecodable_of_decode hdecode]
      rfl

theorem refusesLength_next (h : IsFrame bound frame r) (hs : src.bytes <+: frame ++ left)
    (hf : (next bound src).1 = .fault f) : f.refusesLength = false := by
  rw [fst_next] at hf
  exact refusesLength_found h hs hf

/-! ### Streams within the bound -/

theorem fst_next_of_ending {e : Ending} (h : (next bound src).1.ending? = some e)
    (hf : (readAll bound src).2 = .fault f) : (next bound src).1 = .fault f := by
  rw [readAll_of_ending h] at hf
  obtain rfl : e = .fault f := hf
  cases hfound : (next bound src).1 with
  | fault f' =>
    rw [hfound] at h
    cases h
    rfl
  | response _ | done | broken _ =>
    rw [hfound] at h
    cases h

/-- **No length is refused in a stream of frames within the bound**, wherever it ends or fails. -/
theorem refusesLength_readAll (hframes : List.Forall₂ (IsFrame bound) frames rs)
    (hs : src.bytes <+: frames.flatten) (hf : (readAll bound src).2 = .fault f) :
    f.refusesLength = false := by
  induction src using next_induction bound generalizing frames rs with
  | response src r rest h ih =>
    obtain ⟨frame, hframe, hbytes, -⟩ := isFrame_of_next h
    obtain ⟨more, hmore⟩ := hs
    rw [hbytes, List.append_assoc] at hmore
    rw [readAll_of_response h] at hf
    cases hframes with
    | nil =>
      have hnil : frame = [] := (List.append_eq_nil_iff.1 hmore).1
      have hheader := hframe.header
      rw [hnil] at hheader
      exact absurd hheader (by decide)
    | cons hframe' hframes =>
      -- What is read is the first frame, and the others follow it.
      rw [List.flatten_cons] at hmore
      obtain ⟨-, -, hrest⟩ := hframe.unique hframe' hmore
      exact ih hframes ⟨more, hrest⟩ hf
  | ending src e h =>
    have hnext := fst_next_of_ending h hf
    cases hframes with
    | nil =>
      rw [fst_next, List.prefix_nil.1 hs] at hnext
      cases hfailure : src.failure? <;> rw [hfailure] at hnext <;> cases hnext
    | cons hframe _ => exact refusesLength_next hframe hs hnext

/-! ### Bounds that are large enough -/

/-- The frame of a response has a body of at most `most` bytes, and a reader with this bound or a
larger one does not refuse its length. -/
structure Fits (most : Nat) (r : Response) (frame : Bytes) : Prop where
  /-- The body is not empty. -/
  pos : 0 < (frame.drop headerSize).length
  /-- It is not longer than `most`. -/
  le_most : (frame.drop headerSize).length ≤ most
  /-- Of a stream that begins with the frame any part may arrive, in any pieces, before it ends or
  fails: the length is not refused. -/
  not_refused : ∀ bound src left f, most ≤ bound → Source.bytes src <+: frame ++ left →
    (next bound src).1 = .fault f → f.refusesLength = false
  /-- If all of the frame arrives, the response is read, and the rest of the stream is left. -/
  read : ∀ bound src left, most ≤ bound → Source.bytes src = frame ++ left →
    ∃ rest, next bound src = (.response r, rest) ∧ rest.bytes = left

theorem fits_of_encode? {most : Nat} (h : encode? r = .ok frame) (hmost : r.toBytes.length ≤ most) :
    Fits most r frame where
  pos := (isFrame_of_encode? h hmost).pos
  le_most := (isFrame_of_encode? h hmost).le_bound
  not_refused bound src left f hbound hs hf :=
    refusesLength_next (isFrame_of_encode? h (hmost.trans hbound)) hs hf
  read bound src left hbound heq := by
    obtain ⟨rest, hnext, hleft, -⟩ :=
      next_of_isFrame (isFrame_of_encode? h (hmost.trans hbound)) heq
    exact ⟨rest, hnext, hleft⟩

/-- **Twice the bytes of the body, those of the text, and 256 are enough for a frame.** Its body is
never empty and never longer, and no reader whose bound is that large refuses its length. -/
theorem encode_fits (r : Response) :
    (2 * r.payloadSize + r.detailSize + 256 < 4294967296 → ∃ frame, encode? r = .ok frame) ∧
      ∀ frame, encode? r = .ok frame →
        Fits (2 * r.payloadSize + r.detailSize + 256) r frame := by
  have hle := r.length_toBytes_le
  constructor
  · intro hshort
    exact exists_frame (Nat.lt_of_le_of_lt hle hshort)
  · intro frame hencode
    exact fits_of_encode? hencode hle

/-- A frame with every field, in two pieces that are cut within the length, for a reader whose bound
is just large enough. -/
theorem encode_fits_leapYear :
    2 * leapYearResponse.payloadSize + leapYearResponse.detailSize + 256 = 288 ∧
      ∃ frame, encode? leapYearResponse = .ok frame ∧ Fits 288 leapYearResponse frame ∧
        ∃ rest, next 288 [.bytes (frame.take 2), .bytes (frame.drop 2)] =
          (.response leapYearResponse, rest) ∧ rest.bytes = [] := by
  have hsize : 2 * leapYearResponse.payloadSize + leapYearResponse.detailSize + 256 = 288 := by
    decide +kernel
  obtain ⟨hencode, hfits⟩ := encode_fits leapYearResponse
  rw [hsize] at hencode hfits
  obtain ⟨frame, hframe⟩ := hencode (by decide)
  have hfit := hfits frame hframe
  have hlen := hfit.pos
  rw [List.length_drop, headerSize] at hlen
  have hbytes : Source.bytes [.bytes (frame.take 2), .bytes (frame.drop 2)] = frame ++ [] := by
    have htake : frame.take 2 ≠ [] := List.ne_nil_of_length_pos (by rw [List.length_take]; omega)
    have hdrop : frame.drop 2 ≠ [] := List.ne_nil_of_length_pos (by rw [List.length_drop]; omega)
    simp [Source.bytes, htake, hdrop]
  exact ⟨hsize, frame, hframe, hfit, hfit.read 288 _ [] (Nat.le_refl _) hbytes⟩

/-- **No length is refused on a connection** that carries responses for which the bound of the
reader is large enough, however its stream is cut, and wherever it ends or fails. -/
theorem readAll_encode_fits
    (hframes : List.Forall₂ (fun r frame => encode? r = .ok frame) rs frames)
    (hbound : ∀ r ∈ rs, 2 * r.payloadSize + r.detailSize + 256 ≤ bound)
    (hs : src.bytes <+: frames.flatten) (hf : (readAll bound src).2 = .fault f) :
    f.refusesLength = false := by
  have hall := forall₂_isFrame hframes fun r hr => r.length_toBytes_le.trans (hbound r hr)
  exact refusesLength_readAll hall hs hf

end Frame

end Sluice
