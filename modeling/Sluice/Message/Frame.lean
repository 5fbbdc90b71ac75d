import Sluice.Message.Response

/-!
# Frames

A frame is a length of four bytes, most significant first, and that many bytes of one response.

* `Frame.encode?` frames a response;
* `Frame.next` reads a frame from a `Source`, which delivers its bytes in pieces of any size;
* `Frame.readAll` reads until the source ends or something is wrong;
* `Frame.write` puts a frame into a `Sink` of limited room.
-/

namespace Sluice

/-- Why the bytes of a connection are no frames. -/
inductive FrameFault where
  /-- The bytes end within the length. -/
  | endInHeader
  /-- The length is zero. -/
  | zeroLength
  /-- The length is above the bound. -/
  | oversized (size bound : Nat)
  /-- The bytes end within the response. -/
  | endInBody
  /-- The bytes are no response. -/
  | undecodable
  /-- The response is too long for a frame. -/
  | tooLarge (size : Nat)
  deriving DecidableEq, Repr

namespace FrameFault

/-- The text for people. -/
def message : FrameFault → String
  | endInHeader => "connection closed inside frame header"
  | zeroLength => "zero-length frame"
  | oversized size bound => s!"frame size {size} exceeds maximum {bound} bytes"
  | endInBody => "connection closed inside frame body"
  | undecodable => "undecodable envelope: not a response"
  | tooLarge size => s!"frame of {size} bytes too large"

/-- The failure of an operation that met the fault. -/
def toFailure (f : FrameFault) : Failure := .frame f.message

end FrameFault

/-! ### Sources -/

/-- What a source delivers next. -/
inductive Arrival where
  /-- Some bytes; none at all look like the end. -/
  | bytes (s : Bytes)
  /-- A failure. -/
  | broken (text : String)
  deriving DecidableEq, Repr

/-- A source of bytes. -/
abbrev Source := List Arrival

namespace Source

/-- The number of bytes still to come. -/
def size : Source → Nat
  | [] => 0
  | .bytes s :: r => s.length + size r
  | .broken _ :: r => size r

/-- What comes of an attempt to take a number of bytes. -/
inductive Taken where
  /-- All of them. -/
  | all (s : Bytes)
  /-- The source ended after these. -/
  | short (s : Bytes)
  /-- The source failed. -/
  | broken (text : String)
  deriving DecidableEq, Repr

/-- Takes `need` bytes, piece by piece; `got` holds what came before. -/
def take (got : Bytes) (need : Nat) : Source → Taken × Source
  | [] => if need = 0 then (.all got, []) else (.short got, [])
  | .broken text :: r =>
    if need = 0 then (.all got, .broken text :: r) else (.broken text, r)
  | .bytes s :: r =>
    if need = 0 then (.all got, .bytes s :: r)
    else if s.isEmpty then (.short got, r)
    else if s.length ≤ need then take (got ++ s) (need - s.length) r
    else (.all (got ++ s.take need), .bytes (s.drop need) :: r)

theorem size_take {got s : Bytes} {need : Nat} {src rest : Source}
    (h : take got need src = (.all s, rest)) : size rest + need = size src := by
  induction src generalizing got need with
  | nil =>
    simp only [take] at h
    split at h <;> simp_all
  | cons a r ih =>
    cases a with
    | broken text =>
      simp only [take] at h
      split at h <;> simp_all
    | bytes b =>
      simp only [take] at h
      split at h
      · simp_all
      · split at h
        · simp at h
        · split at h
          · have := ih h
            simp only [size]
            omega
          · simp only [Prod.mk.injEq, Taken.all.injEq] at h
            obtain ⟨-, rfl⟩ := h
            simp only [size, List.length_drop]
            omega

end Source

namespace Frame

/-- Bytes of the length. -/
def headerSize : Nat := 4

/-- The usual bound of a frame, one mebibyte. -/
def standardBound : Nat := 1048576

/-- The frame of a response (`encode_frame`). -/
def encode? (r : Response) : Except FrameFault Bytes :=
  let body := r.toBytes
  if body.length < 4294967296 then .ok (MessagePack.bigEndianBytes 4 body.length ++ body)
  else .error (.tooLarge body.length)

/-- The response of a frame's body (`decode_body`). -/
def decode (body : Bytes) : Except FrameFault Response :=
  match Response.ofBytes? body with
  | some r => .ok r
  | none => .error .undecodable

/-- What an attempt to read a frame finds. -/
inductive Found where
  /-- A response. -/
  | response (r : Response)
  /-- The end, where a frame could begin. -/
  | done
  /-- Bytes that are no frame. -/
  | fault (f : FrameFault)
  /-- A failure of the source. -/
  | broken (text : String)
  deriving DecidableEq, Repr

/-- Reads one frame of at most `bound` bytes (`read_frame`). -/
def next (bound : Nat) (src : Source) : Found × Source :=
  match Source.take [] headerSize src with
  | (.short [], rest) => (.done, rest)
  | (.short _, rest) => (.fault .endInHeader, rest)
  | (.broken text, rest) => (.broken text, rest)
  | (.all header, rest) =>
    let size := MessagePack.bigEndian header
    if size = 0 then (.fault .zeroLength, rest)
    else if bound < size then (.fault (.oversized size bound), rest)
    else match Source.take [] size rest with
      | (.short _, rest) => (.fault .endInBody, rest)
      | (.broken text, rest) => (.broken text, rest)
      | (.all body, rest) =>
        match decode body with
        | .ok r => (.response r, rest)
        | .error f => (.fault f, rest)

theorem size_next {bound : Nat} {src rest : Source} {r : Response}
    (h : next bound src = (.response r, rest)) : rest.size < src.size := by
  unfold next at h
  split at h <;> try simp at h
  rename_i header rest' h'
  have := Source.size_take h'
  simp only [headerSize] at this
  split at h <;> try simp at h
  split at h <;> try simp at h
  split at h <;> try simp at h
  rename_i body rest'' h''
  have := Source.size_take h''
  split at h <;> simp at h
  obtain ⟨-, rfl⟩ := h
  omega

/-- How a source ended. -/
inductive Ending where
  /-- Where a frame could begin. -/
  | done
  /-- With bytes that are no frame. -/
  | fault (f : FrameFault)
  /-- With a failure. -/
  | broken (text : String)
  deriving DecidableEq, Repr

/-- All responses of a source, and how it ended. -/
def readAll (bound : Nat) (src : Source) : List Response × Ending :=
  match _h : next bound src with
  | (.response r, rest) =>
    let (rs, e) := readAll bound rest
    (r :: rs, e)
  | (.done, _) => ([], .done)
  | (.fault f, _) => ([], .fault f)
  | (.broken text, _) => ([], .broken text)
termination_by src.size
decreasing_by exact size_next _h

/-! ### Sinks -/

/-- A place for bytes. -/
structure Sink where
  /-- The bytes put there so far. -/
  written : Bytes
  /-- How many more there is room for, if it is limited. -/
  room : Option Nat
  deriving DecidableEq, Repr

/-- Puts bytes into a sink; as many as there is room for. -/
def Sink.put (k : Sink) (s : Bytes) : Bool × Sink :=
  match k.room with
  | none => (true, ⟨k.written ++ s, none⟩)
  | some n => (s.length ≤ n, ⟨k.written ++ s.take n, some (n - s.length)⟩)

/-- Puts the frame of a response into a sink (`write_frame`). -/
def write (k : Sink) (r : Response) : Except Failure Unit × Sink :=
  match encode? r with
  | .error f => (.error f.toFailure, k)
  | .ok s =>
    let (complete, k) := k.put s
    (if complete then .ok () else .error (.network "sink full"), k)

end Frame

end Sluice
