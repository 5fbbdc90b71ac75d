import Sluice.Proofs.Message.Size
import Sluice.Quota.Observed

/-!
# The hint of a refused call

A remote that refuses a call may say when to try again. The worker puts that into the response in
whole milliseconds, of which the field holds the low 64 bits, and the caller reads it from there.

* `Frame.relay` : the response that comes out of the frame of a response;
* `Response.heard?` : the hint that the caller hears; `Response.heard?_eq` : it is what the low 64
  bits of the milliseconds say;
* `Response.hint_survives` : a hint of less than `2 ^ 64` milliseconds arrives, cut down by less
  than a millisecond;
* `Response.hint_wraps` : a header can give a longer one, and that arrives as a third of a second.
-/

namespace Sluice

namespace Frame

/-- The response that comes out of the frame of a response. -/
def relay (r : Response) : Except FrameFault Response :=
  (encode? r).bind fun frame => decode (frame.drop headerSize)

theorem relay_of_lt {r : Response} (h : r.toBytes.length < 4294967296) : relay r = .ok r := by
  have hencode : encode? r =
      .ok (MessagePack.bigEndianBytes 4 r.toBytes.length ++ r.toBytes) := if_pos h
  have hheader : (MessagePack.bigEndianBytes 4 r.toBytes.length).length = headerSize :=
    MessagePack.length_bigEndianBytes 4 _
  rw [relay, hencode, Except.bind, List.drop_left' hheader, decode, Response.ofBytes?_toBytes h]

end Frame

namespace Duration

variable {d e : Duration}

theorem nanos_ofMillis_millis64 (d : Duration) :
    (ofMillis d.millis64).nanos = d.nanos / 1000000 % 18446744073709551616 * 1000000 := by
  rw [nanos_ofMillis, millis64, millis, Nat.toUInt64, UInt64.toNat_ofNat']

theorem ofMillis_millis64_le (d : Duration) : ofMillis d.millis64 ≤ d := by
  have hmod := Nat.mod_le (d.nanos / 1000000) 18446744073709551616
  rw [le_def, nanos_ofMillis_millis64]
  omega

theorem nanos_sub_ofMillis_millis64_lt (h : d.millis < 18446744073709551616) :
    d.nanos - (ofMillis d.millis64).nanos < 1000000 := by
  have hd : d.nanos / 1000000 < 18446744073709551616 := h
  rw [nanos_ofMillis_millis64, Nat.mod_eq_of_lt hd]
  omega

theorem ofMillis_millis64_mono (hle : d ≤ e) (h : e.millis < 18446744073709551616) :
    ofMillis d.millis64 ≤ ofMillis e.millis64 := by
  have hdiv : d.nanos / 1000000 ≤ e.nanos / 1000000 := Nat.div_le_div_right hle
  have he : e.nanos / 1000000 < 18446744073709551616 := h
  rw [le_def, nanos_ofMillis_millis64, nanos_ofMillis_millis64, Nat.mod_eq_of_lt he,
    Nat.mod_eq_of_lt (Nat.lt_of_le_of_lt hdiv he)]
  exact Nat.mul_le_mul_right _ hdiv

end Duration

namespace Response

/-- The hint that the caller hears when its call was refused with one. -/
def heard? (id : Uuid) (hint : Duration) : Option Duration :=
  match (Frame.relay (rateLimited id (some hint))).map outcome with
  | .ok (.error (.remoteRateLimited hint')) => hint'
  | _ => none

/-- **What the caller hears** is the low 64 bits of the milliseconds. -/
theorem heard?_eq (id : Uuid) (hint : Duration) :
    heard? id hint = some (.ofMillis hint.millis64) := by
  have hsize := length_toBytes_rateLimited_lt id (some hint)
  have hrelay := Frame.relay_of_lt (Nat.lt_trans hsize (by decide))
  simp only [heard?, hrelay, Except.map]
  simp only [outcome, rateLimited, Option.map_some]

/-- **A hint survives the relay.** The caller hears one that is not longer. If the hint is less than
`2 ^ 64` milliseconds, it has lost less than a millisecond, and none that was shorter is heard as a
longer one. -/
theorem hint_survives (id : Uuid) (hint : Duration) :
    ∃ hint', heard? id hint = some hint' ∧ hint' ≤ hint ∧
      (hint.millis < 18446744073709551616 → hint.nanos - hint'.nanos < 1000000 ∧
        ∀ id' shorter, shorter ≤ hint →
          ∃ shorter', heard? id' shorter = some shorter' ∧ shorter' ≤ hint') := by
  refine ⟨.ofMillis hint.millis64, heard?_eq id hint, hint.ofMillis_millis64_le, ?_⟩
  intro h
  refine ⟨Duration.nanos_sub_ofMillis_millis64_lt h, ?_⟩
  intro id' shorter hle
  exact ⟨.ofMillis shorter.millis64, heard?_eq id' shorter, Duration.ofMillis_millis64_mono hle h⟩

/-- A remote that wants to be left alone for 584 million years. -/
def reclusive : Headers := .ofList [("Retry-After", "18446744073709552")]

/-- From `2 ^ 64` milliseconds on a hint wraps around: a second arrives as a second, and 584 million
years arrive as less. -/
theorem hint_wraps : retryAfter? reclusive = some (.ofSeconds 18446744073709552) ∧
    heard? (.ofNat 1) (.ofSeconds 1) = some (.ofSeconds 1) ∧
    heard? (.ofNat 1) (.ofSeconds 18446744073709552) = some (.ofMillis 384) := by
  have hsecond : (Duration.ofSeconds 1).millis64 = 1000 := by decide
  have hyears : (Duration.ofSeconds 18446744073709552).millis64 = 384 := by decide +kernel
  have hthousand : Duration.ofMillis 1000 = .ofSeconds 1 := Duration.ext (by decide)
  refine ⟨?_, ?_, ?_⟩
  · rw [retryAfter?, Headers.value?, Headers.find?]
    simp only [Headers.sameName_eq]
    decide +kernel
  · rw [heard?_eq, hsecond, hthousand]
  · rw [heard?_eq, hyears]

end Response

end Sluice
