import Sluice.Message.Frame
import Mathlib.Data.List.Forall2
import Mathlib.Data.List.Basic

/-!
# Frames and the pieces of a stream

A source delivers its bytes in pieces, and a piece may end anywhere within a frame. What is read
from it depends on the bytes alone.

* `Source.bytes`, `Source.failure?` : what is to be had from a source, however it is cut;
* `Source.take_of_le`, `Source.take_of_lt` : what a number of bytes taken from it are;
* `Frame.IsFrame` : the bytes of one frame and their response; no frame is a beginning of another
  one (`Frame.IsFrame.unique`);
* `Frame.next_of_isFrame`, `Frame.isFrame_of_next` : a response is read exactly if its frame comes
  first, and what is left is what comes after this frame;
* `Frame.readAll_congr` : sources of the same bytes yield the same responses and the same ending;
* `Frame.Longest` : the responses of the longest row of frames that a stream begins with, which is
  what is read from a source (`Frame.longest_readAll`);
* `Frame.readAll_cut` : the same for every way to cut a stream, together with what each call leaves.
-/

namespace Sluice

namespace Source

/-! ### What is to be had from a source -/

/-- The bytes before a failure or the end; an empty piece looks like the end. -/
def bytes : Source → Bytes
  | [] => []
  | .bytes s :: r => if s.isEmpty then [] else s ++ bytes r
  | .broken _ :: _ => []

/-- The failure after these bytes, unless the source ends there. -/
def failure? : Source → Option String
  | [] => none
  | .bytes s :: r => if s.isEmpty then none else failure? r
  | .broken text :: _ => some text

/-- What comes of an attempt to take more bytes than there are. -/
def Taken.missing (got : Bytes) : Option String → Taken
  | some text => .broken text
  | none => .short got

theorem take_zero (got : Bytes) (src : Source) : take got 0 src = (.all got, src) := by
  rcases src with _ | ⟨_ | _, r⟩ <;> simp [take]

theorem take_of_le {src : Source} {need : Nat} (h : need ≤ src.bytes.length) (got : Bytes) :
    ∃ rest, take got need src = (.all (got ++ src.bytes.take need), rest) ∧
      rest.bytes = src.bytes.drop need ∧ rest.failure? = src.failure? := by
  by_cases hneed : need = 0
  · subst hneed
    exact ⟨src, by simp [take_zero]⟩
  induction src generalizing got need with
  | nil => simp [bytes, hneed] at h
  | cons a r ih =>
    cases a with
    | broken text => simp [bytes, hneed] at h
    | bytes s =>
      by_cases hs : s.isEmpty
      · simp [bytes, hs, hneed] at h
      have hne : s ≠ [] := by simpa using hs
      simp only [take, bytes, failure?, hneed, hs, if_false, Bool.false_eq_true] at h ⊢
      rw [List.length_append] at h
      by_cases hle : s.length ≤ need
      · -- The piece is used up.
        rw [if_pos hle, List.take_append, List.drop_append, List.take_of_length_le hle,
          List.drop_of_length_le hle, List.nil_append, ← List.append_assoc]
        by_cases hrest : need - s.length = 0
        · rw [hrest]
          exact ⟨r, by simp [take_zero]⟩
        · exact ih (by omega) (got ++ s) hrest
      · -- The piece is cut, and its second part comes next.
        have hlt : need < s.length := Nat.lt_of_not_le hle
        have hdrop : (s.drop need).isEmpty = false := by simp [hlt]
        rw [if_neg hle, List.take_append_of_le_length (Nat.le_of_lt hlt),
          List.drop_append_of_le_length (Nat.le_of_lt hlt)]
        exact ⟨_, rfl, by simp [bytes, hdrop], by simp [failure?, hdrop]⟩

theorem take_of_lt {src : Source} {need : Nat} (h : src.bytes.length < need) (got : Bytes) :
    (take got need src).1 = .missing (got ++ src.bytes) src.failure? := by
  have hneed : need ≠ 0 := by omega
  induction src generalizing got need with
  | nil => simp [take, bytes, failure?, hneed, Taken.missing]
  | cons a r ih =>
    cases a with
    | broken text => simp [take, failure?, hneed, Taken.missing]
    | bytes s =>
      by_cases hs : s.isEmpty
      · simp [take, bytes, failure?, hs, hneed, Taken.missing]
      simp only [take, bytes, failure?, hneed, hs, if_false, Bool.false_eq_true] at h ⊢
      rw [List.length_append] at h
      rw [if_pos (by omega), ← List.append_assoc]
      exact ih (by omega) (got ++ s) (by omega)

end Source

namespace Frame

variable {bound : Nat} {src src' rest : Source} {frame frame' s s' : Bytes} {r r' : Response}

/-! ### Frames -/

/-- The bytes of one frame: four that tell the length of the others, of which there are some and at
most `bound`, and which are a response. -/
structure IsFrame (bound : Nat) (frame : Bytes) (r : Response) : Prop where
  header : headerSize ≤ frame.length
  size : MessagePack.bigEndian (frame.take headerSize) = (frame.drop headerSize).length
  pos : 0 < (frame.drop headerSize).length
  le_bound : (frame.drop headerSize).length ≤ bound
  decode : decode (frame.drop headerSize) = .ok r

theorem IsFrame.length (h : IsFrame bound frame r) (s : Bytes) :
    frame.length = headerSize + MessagePack.bigEndian ((frame ++ s).take headerSize) := by
  rw [List.take_append_of_le_length h.header, h.size, List.length_drop]
  have := h.header
  omega

/-- **A stream begins with at most one frame.** -/
theorem IsFrame.unique (h : IsFrame bound frame r) (h' : IsFrame bound frame' r')
    (heq : frame ++ s = frame' ++ s') : frame = frame' ∧ r = r' ∧ s = s' := by
  have hlen : frame.length = frame'.length := by rw [h.length s, heq, ← h'.length s']
  obtain ⟨rfl, rfl⟩ := List.append_inj heq hlen
  have hdecode := h.decode
  rw [h'.decode] at hdecode
  cases hdecode
  exact ⟨rfl, rfl, rfl⟩

/-- What is found in bytes after which a source fails or ends. -/
def found (bound : Nat) (s : Bytes) (failure? : Option String) : Found :=
  if s.length < headerSize then
    match failure? with
    | some text => .broken text
    | none => if s.isEmpty then .done else .fault .endInHeader
  else
    let size := MessagePack.bigEndian (s.take headerSize)
    if size = 0 then .fault .zeroLength
    else if bound < size then .fault (.oversized size bound)
    else if (s.drop headerSize).length < size then
      match failure? with
      | some text => .broken text
      | none => .fault .endInBody
    else
      match decode ((s.drop headerSize).take size) with
      | .ok r => .response r
      | .error f => .fault f

theorem fst_next (bound : Nat) (src : Source) :
    (next bound src).1 = found bound src.bytes src.failure? := by
  by_cases hheader : src.bytes.length < headerSize
  · -- The bytes end within the length.
    have htake := Source.take_of_lt hheader []
    unfold next found
    rw [if_pos hheader]
    generalize Source.take [] headerSize src = x at htake
    obtain ⟨taken, rest⟩ := x
    subst htake
    cases src.failure? with
    | some text => rfl
    | none => cases src.bytes <;> rfl
  · obtain ⟨rest, htake, hbytes, hfailure⟩ := Source.take_of_le (Nat.le_of_not_lt hheader) []
    unfold next found
    rw [htake, if_neg hheader]
    simp only [List.nil_append]
    generalize MessagePack.bigEndian (src.bytes.take headerSize) = size
    by_cases hzero : size = 0
    · rw [if_pos hzero, if_pos hzero]
    by_cases hover : bound < size
    · rw [if_neg hzero, if_neg hzero, if_pos hover, if_pos hover]
    rw [if_neg hzero, if_neg hzero, if_neg hover, if_neg hover, ← hbytes, ← hfailure]
    by_cases hbody : rest.bytes.length < size
    · -- The bytes end within the response.
      have htake := Source.take_of_lt hbody []
      rw [if_pos hbody]
      generalize Source.take [] size rest = x at htake
      obtain ⟨taken, rest'⟩ := x
      subst htake
      cases rest.failure? <;> rfl
    · obtain ⟨rest', htake, -, -⟩ := Source.take_of_le (Nat.le_of_not_lt hbody) []
      rw [if_neg hbody, htake, List.nil_append]
      cases hdecode : decode (rest.bytes.take size) <;> simp only [hdecode]

/-! ### Frames that are read -/

theorem isFrame_of_found {failure? : Option String} (h : found bound s failure? = .response r) :
    ∃ frame left, IsFrame bound frame r ∧ s = frame ++ left := by
  unfold found at h
  by_cases hheader : s.length < headerSize
  · rw [if_pos hheader] at h
    split at h
    · cases h
    · split at h <;> cases h
  rw [if_neg hheader] at h
  -- The frame is as long as its first bytes tell.
  obtain ⟨size, hsize⟩ : ∃ size, MessagePack.bigEndian (s.take headerSize) = size := ⟨_, rfl⟩
  simp only [hsize] at h
  split_ifs at h with hzero hover hbody
  · split at h <;> cases h
  have hlen : headerSize + size ≤ s.length := by
    rw [List.length_drop] at hbody
    omega
  have hdrop : (s.take (headerSize + size)).drop headerSize = (s.drop headerSize).take size := by
    rw [List.drop_take, Nat.add_sub_cancel_left]
  have hdropLen : ((s.take (headerSize + size)).drop headerSize).length = size := by
    rw [List.length_drop, List.length_take_of_le hlen, Nat.add_sub_cancel_left]
  refine ⟨s.take (headerSize + size), s.drop (headerSize + size), ⟨?_, ?_, ?_, ?_, ?_⟩,
    (List.take_append_drop _ _).symm⟩
  · rw [List.length_take_of_le hlen]
    exact Nat.le_add_right _ _
  · rw [List.take_take, Nat.min_eq_left (Nat.le_add_right _ _), hsize, hdropLen]
  · rw [hdropLen]
    exact Nat.pos_of_ne_zero hzero
  · rw [hdropLen]
    exact Nat.le_of_not_lt hover
  · rw [hdrop]
    split at h
    · rename_i hdecode
      cases h
      exact hdecode
    · cases h

/-- **The frame that comes first is read**, and what is left is what comes after it. -/
theorem next_of_isFrame (h : IsFrame bound frame r) (heq : src.bytes = frame ++ s) :
    ∃ rest, next bound src = (.response r, rest) ∧ rest.bytes = s ∧
      rest.failure? = src.failure? := by
  have hlen := h.length s
  have hheader := h.header
  have hle : headerSize ≤ src.bytes.length := by
    rw [heq, List.length_append]
    omega
  obtain ⟨mid, htake, hbytes, hfailure⟩ := Source.take_of_le hle []
  have hmid : mid.bytes = frame.drop headerSize ++ s := by
    rw [hbytes, heq, List.drop_append_of_le_length hheader]
  have hbody : (frame.drop headerSize).length ≤ mid.bytes.length := by
    rw [hmid, List.length_append]
    exact Nat.le_add_right _ _
  obtain ⟨rest, htake', hbytes', hfailure'⟩ := Source.take_of_le hbody []
  refine ⟨rest, ?_, ?_, hfailure'.trans hfailure⟩
  · unfold next
    rw [htake, List.nil_append, heq, List.take_append_of_le_length hheader]
    simp only [h.size]
    rw [if_neg (Nat.pos_iff_ne_zero.1 h.pos), if_neg (Nat.not_lt.2 h.le_bound), htake',
      List.nil_append, hmid, List.take_left]
    simp only [h.decode]
  · rw [hbytes', hmid, List.drop_left]

theorem isFrame_of_next (h : next bound src = (.response r, rest)) :
    ∃ frame, IsFrame bound frame r ∧ src.bytes = frame ++ rest.bytes ∧
      rest.failure? = src.failure? := by
  have hfound : found bound src.bytes src.failure? = .response r := by rw [← fst_next, h]
  obtain ⟨frame, left, hframe, hbytes⟩ := isFrame_of_found hfound
  obtain ⟨rest', hnext, hleft, hfailure⟩ := next_of_isFrame hframe hbytes
  rw [hnext] at h
  cases h
  exact ⟨frame, hframe, by rw [hleft, hbytes], hfailure⟩

/-! ### All responses -/

/-- What ends a source, if it is not a response. -/
def Found.ending? : Found → Option Ending
  | .response _ => none
  | .done => some .done
  | .fault f => some (.fault f)
  | .broken text => some (.broken text)

theorem readAll_of_response (h : next bound src = (.response r, rest)) :
    readAll bound src = (r :: (readAll bound rest).1, (readAll bound rest).2) := by
  rw [readAll]
  split <;> simp_all

theorem readAll_of_ending {e : Ending} (h : (next bound src).1.ending? = some e) :
    readAll bound src = ([], e) := by
  rw [readAll]
  split <;> simp_all [Found.ending?]

/-- Induction over what is read from a source: a response and then the rest, or an ending. -/
theorem next_induction (bound : Nat) {motive : Source → Prop}
    (response : ∀ src r rest, next bound src = (.response r, rest) → motive rest → motive src)
    (ending : ∀ src e, (next bound src).1.ending? = some e → motive src) (src : Source) :
    motive src := by
  induction src using readAll.induct bound with
  | case1 src r rest h _ _ _ ih => exact response src r rest h ih
  | case2 src rest h => exact ending src .done (by rw [h]; rfl)
  | case3 src f rest h => exact ending src (.fault f) (by rw [h]; rfl)
  | case4 src text rest h => exact ending src (.broken text) (by rw [h]; rfl)

theorem readAll_congr (hbytes : src.bytes = src'.bytes) (hfailure : src.failure? = src'.failure?) :
    readAll bound src = readAll bound src' := by
  induction src using next_induction bound generalizing src' with
  | response src r rest h ih =>
    obtain ⟨frame, hframe, heq, hrest⟩ := isFrame_of_next h
    obtain ⟨rest', h', hbytes', hfailure'⟩ := next_of_isFrame hframe (hbytes.symm.trans heq)
    rw [readAll_of_response h, readAll_of_response h',
      ih hbytes'.symm (hrest.trans (hfailure.trans hfailure'.symm))]
  | ending src e h =>
    rw [readAll_of_ending h, readAll_of_ending]
    rwa [fst_next, ← hbytes, ← hfailure, ← fst_next]

/-- The responses of the longest row of frames that a stream begins with. -/
def Longest (bound : Nat) (s : Bytes) (rs : List Response) : Prop :=
  ∃ frames left, List.Forall₂ (IsFrame bound) frames rs ∧ s = frames.flatten ++ left ∧
    ∀ frames' rs' left', List.Forall₂ (IsFrame bound) frames' rs' →
      s = frames'.flatten ++ left' → frames' <+: frames ∧ rs' <+: rs

/-- **All frames are read until something comes that is none.** -/
theorem longest_readAll (bound : Nat) (src : Source) :
    Longest bound src.bytes (readAll bound src).1 := by
  induction src using next_induction bound with
  | response src r rest h ih =>
    obtain ⟨frame, hframe, hbytes, -⟩ := isFrame_of_next h
    obtain ⟨frames, left, hframes, hrest, hlongest⟩ := ih
    rw [readAll_of_response h]
    refine ⟨frame :: frames, left, .cons hframe hframes, ?_, ?_⟩
    · rw [hbytes, hrest, List.flatten_cons, List.append_assoc]
    · intro frames' rs' left' hframes' heq
      cases hframes' with
      | nil => exact ⟨List.nil_prefix, List.nil_prefix⟩
      | @cons frame' r' frames' rs' hframe' hframes' =>
        rw [hbytes, List.flatten_cons, List.append_assoc] at heq
        obtain ⟨rfl, rfl, heq⟩ := hframe.unique hframe' heq
        obtain ⟨hframe_le, hrs⟩ := hlongest frames' rs' left' hframes' heq
        exact ⟨(List.prefix_cons_inj _).2 hframe_le, (List.prefix_cons_inj _).2 hrs⟩
  | ending src e h =>
    rw [readAll_of_ending h]
    refine ⟨[], src.bytes, .nil, rfl, ?_⟩
    intro frames' rs' left' hframes' heq
    cases hframes' with
    | nil => exact ⟨List.nil_prefix, List.nil_prefix⟩
    | cons hframe' _ =>
      -- A frame at the beginning would have been read.
      rw [List.flatten_cons, List.append_assoc] at heq
      obtain ⟨rest, hnext, -⟩ := next_of_isFrame hframe' heq
      rw [hnext] at h
      cases h

/-! ### Calls in a row -/

/-- Calls that yield one response each, and what they leave. -/
inductive Reads (bound : Nat) : Source → List Response → Source → Prop where
  | none (src : Source) : Reads bound src [] src
  | more {src mid rest : Source} {r : Response} {rs : List Response}
    (hnext : next bound src = (.response r, mid)) (h : Reads bound mid rs rest) :
    Reads bound src (r :: rs) rest

variable {rs : List Response}

/-- **What some calls have read is the frames of their responses**, and they leave the rest. -/
theorem Reads.exists_frames (h : Reads bound src rs rest) :
    ∃ frames, List.Forall₂ (IsFrame bound) frames rs ∧
      src.bytes = frames.flatten ++ rest.bytes ∧ rest.failure? = src.failure? := by
  induction h with
  | none src => exact ⟨[], .nil, rfl, rfl⟩
  | more hnext _ ih =>
    obtain ⟨frame, hframe, hbytes, hfailure⟩ := isFrame_of_next hnext
    obtain ⟨frames, hframes, hmid, hrest⟩ := ih
    refine ⟨frame :: frames, .cons hframe hframes, ?_, hrest.trans hfailure⟩
    rw [hbytes, hmid, List.flatten_cons, List.append_assoc]

theorem Reads.congr (h : Reads bound src rs rest) (hbytes : src'.bytes = src.bytes) :
    ∃ rest', Reads bound src' rs rest' ∧ rest'.bytes = rest.bytes := by
  induction h generalizing src' with
  | none src => exact ⟨src', .none src', hbytes⟩
  | more hnext _ ih =>
    obtain ⟨frame, hframe, heq, -⟩ := isFrame_of_next hnext
    obtain ⟨mid', hnext', hmid, -⟩ := next_of_isFrame hframe (hbytes.trans heq)
    obtain ⟨rest', hreads, hrest⟩ := ih hmid
    exact ⟨rest', .more hnext' hreads, hrest⟩

end Frame

/-! ### Ways to cut a stream -/

namespace Source

/-- A way to cut a stream: its pieces, none of which is empty. -/
structure Cut (s : Bytes) where
  /-- The pieces. -/
  pieces : List Bytes
  /-- None of them is empty. -/
  ne_nil : ∀ p ∈ pieces, p ≠ []
  /-- They are the stream. -/
  flatten_eq : pieces.flatten = s

/-- The source that delivers the pieces one by one. -/
def Cut.source {s : Bytes} (c : Cut s) : Source := c.pieces.map .bytes

/-- A source that delivers pieces, none of which is empty, until it ends. -/
def Whole (src : Source) : Prop := ∀ a ∈ src, ∃ p : Bytes, p ≠ [] ∧ a = .bytes p

theorem Cut.whole {s : Bytes} (c : Cut s) : c.source.Whole := by
  intro a ha
  obtain ⟨p, hp, rfl⟩ := List.mem_map.1 ha
  exact ⟨p, c.ne_nil p hp, rfl⟩

theorem Cut.bytes_source {s : Bytes} (c : Cut s) : c.source.bytes = s := by
  obtain ⟨ps, hne, rfl⟩ := c
  change bytes (ps.map .bytes) = ps.flatten
  induction ps with
  | nil => rfl
  | cons p ps ih =>
    have hp : p ≠ [] := hne p List.mem_cons_self
    simp [bytes, hp, ih fun q hq => hne q (List.mem_cons_of_mem _ hq)]

theorem Whole.failure? {src : Source} (h : src.Whole) : src.failure? = none := by
  induction src with
  | nil => rfl
  | cons a r ih =>
    obtain ⟨p, hp, rfl⟩ := h a List.mem_cons_self
    simp [Source.failure?, ih fun b hb => h b (List.mem_cons_of_mem _ hb)]

theorem Whole.exists_cut {src : Source} (h : src.Whole) {s : Bytes} (hs : src.bytes = s) :
    ∃ c : Cut s, c.source = src := by
  induction src generalizing s with
  | nil => exact ⟨⟨[], by simp, hs⟩, rfl⟩
  | cons a r ih =>
    obtain ⟨p, hp, rfl⟩ := h a List.mem_cons_self
    obtain ⟨c, hc⟩ := ih (fun b hb => h b (List.mem_cons_of_mem _ hb)) rfl
    subst hs
    refine ⟨⟨p :: c.pieces, ?_, ?_⟩, congrArg _ hc⟩
    · rintro q (_ | ⟨_, hq⟩)
      · exact hp
      · exact c.ne_nil q hq
    · simp [bytes, hp, c.flatten_eq]

/-- Taking bytes cuts at most one piece in two. -/
theorem Whole.take {src : Source} (h : src.Whole) (got : Bytes) (need : Nat) :
    (take got need src).2.Whole := by
  induction src generalizing got need with
  | nil => simpa [Source.take, apply_ite] using h
  | cons a r ih =>
    obtain ⟨p, hp, rfl⟩ := h a List.mem_cons_self
    have hr : Whole r := fun b hb => h b (List.mem_cons_of_mem _ hb)
    simp only [Source.take]
    split_ifs with hneed hempty hle
    · exact h
    · exact hr
    · exact ih hr _ _
    · rintro b (_ | ⟨_, hb⟩)
      · exact ⟨_, by simpa using Nat.lt_of_not_le hle, rfl⟩
      · exact hr b hb

end Source

namespace Frame

theorem whole_next (bound : Nat) (h : src.Whole) : (next bound src).2.Whole := by
  have hheader := h.take [] headerSize
  unfold next
  generalize Source.take [] headerSize src = x at hheader
  obtain ⟨taken, mid⟩ := x
  rcases taken with header | ⟨_ | _⟩ | text
  · have hbody := Source.Whole.take hheader [] (MessagePack.bigEndian header)
    dsimp only
    split_ifs
    · exact hheader
    · exact hheader
    · generalize Source.take [] (MessagePack.bigEndian header) mid = y at hbody
      obtain ⟨body | _ | _, rest⟩ := y
      · dsimp only
        split <;> exact hbody
      all_goals exact hbody
  all_goals exact hheader

theorem Reads.whole (h : Reads bound src rs rest) (hsrc : src.Whole) : rest.Whole := by
  induction h with
  | none src => exact hsrc
  | more hnext _ ih =>
    have hmid := whole_next bound hsrc
    rw [hnext] at hmid
    exact ih hmid

/-- **What is read from a stream does not depend on how it is cut into pieces**: all responses and
how it ends are the same, and the responses are those of all frames that the stream begins with.
Each call that yields a response uses up its frame, which is four bytes that tell the length of the
others and these, and leaves the rest of the stream, cut somehow; the same calls can be made on the
same stream cut otherwise, with the same rest. -/
theorem readAll_cut (bound : Nat) (s : Bytes) (c c' : Source.Cut s) :
    readAll bound c.source = readAll bound c'.source ∧
      Longest bound s (readAll bound c.source).1 ∧
      ∀ rs rest, Reads bound c.source rs rest →
        ∃ (frames : List Bytes) (left : Bytes) (d d' : Source.Cut left),
          List.Forall₂ (IsFrame bound) frames rs ∧ s = frames.flatten ++ left ∧
            rest = d.source ∧ Reads bound c'.source rs d'.source := by
  have hbytes : c'.source.bytes = c.source.bytes := by rw [c.bytes_source, c'.bytes_source]
  refine ⟨readAll_congr hbytes.symm (c.whole.failure?.trans c'.whole.failure?.symm), ?_, ?_⟩
  · have hlongest := longest_readAll bound c.source
    rwa [c.bytes_source] at hlongest
  intro rs rest hreads
  obtain ⟨frames, hframes, heq, -⟩ := hreads.exists_frames
  obtain ⟨rest', hreads', hleft⟩ := hreads.congr hbytes
  obtain ⟨d, hd⟩ := (hreads.whole c.whole).exists_cut rfl
  obtain ⟨d', hd'⟩ := (hreads'.whole c'.whole).exists_cut hleft
  rw [c.bytes_source] at heq
  rw [← hd'] at hreads'
  exact ⟨frames, _, d, d', hframes, heq, hd.symm, hreads'⟩

end Frame

end Sluice
