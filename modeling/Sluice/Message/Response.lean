import Sluice.Failure
import Sluice.Message.Request
import Sluice.MessagePack.Printer
import Sluice.MessagePack.Reader
import Sluice.Quota.Bucket

/-!
# Responses

A `Response` travels back from a worker to the caller, who gets a `Reply` or a `Failure` out of it.

* `Response.success`, `Response.failure` and `Response.rateLimited` build one;
* `Response.outcome` is what the caller gets;
* `Response.toBytes` and `Response.ofBytes?` are its form, a MessagePack map of named fields.
-/

namespace Sluice

/-- How a call ended. -/
inductive Status where
  /-- The remote call succeeded. -/
  | success
  /-- The remote call failed. -/
  | failure
  /-- The remote limits the rate of calls. -/
  | rateLimited
  deriving DecidableEq, Repr

/-- The answer on its way to the caller. -/
structure Response where
  /-- The id of the request. -/
  id : Uuid
  /-- How the call ended. -/
  status : Status
  /-- The HTTP status, if the remote answered. -/
  httpStatus : Option UInt16
  /-- The body of a success. -/
  payload : Option Bytes
  /-- What went wrong. -/
  detail : Option String
  /-- The hint of a refused call in milliseconds. -/
  retryAfterMs : Option UInt64
  /-- The limits that the remote reported. -/
  snapshot : Option Snapshot
  deriving DecidableEq, Repr

/-- What the caller gets of a success. -/
structure Reply where
  /-- The id of the request. -/
  id : Uuid
  /-- The HTTP status. -/
  httpStatus : UInt16
  /-- The body. -/
  body : Bytes
  /-- The limits that the remote reported. -/
  rateLimit : Option Snapshot
  deriving DecidableEq, Repr

namespace Response

/-- A successful call. -/
def success (id : Uuid) (httpStatus : UInt16) (payload : Bytes) : Response :=
  ⟨id, .success, some httpStatus, some payload, none, none, none⟩

/-- A failed call. -/
def failure (id : Uuid) (httpStatus : Option UInt16) (detail : String) : Response :=
  ⟨id, .failure, httpStatus, none, some detail, none, none⟩

/-- A refused call (`rate_limited`). -/
def rateLimited (id : Uuid) (retryAfter : Option Duration) : Response :=
  ⟨id, .rateLimited, some 429, none, some "rate limited by remote",
    retryAfter.map Duration.millis64, none⟩

/-- With the limits that the remote reported (`with_snapshot`). -/
def withSnapshot (r : Response) (s : Option Snapshot) : Response := { r with snapshot := s }

/-- What the caller gets (`into_result`). -/
def outcome (r : Response) : Except Failure Reply :=
  match r.status with
  | .success => .ok ⟨r.id, r.httpStatus.getD 200, r.payload.getD [], r.snapshot⟩
  | .failure => .error (.remoteFailure r.httpStatus (r.detail.getD "unknown remote failure"))
  | .rateLimited => .error (.remoteRateLimited (r.retryAfterMs.map Duration.ofMillis))

end Response

/-! ### The form on the wire -/

/-- The names of the ways in which a call ends. -/
def Status.names : List String := ["success", "failure", "rate_limited"]

/-- The name of a way in which a call ends. -/
def Status.name : Status → String
  | .success => "success"
  | .failure => "failure"
  | .rateLimited => "rate_limited"

/-- The way in which a call ends at a place among the names. -/
def Status.ofPlace? : Nat → Option Status
  | 0 => some .success
  | 1 => some .failure
  | 2 => some .rateLimited
  | _ => none

/-- A point in time from a text. -/
def Timestamp.ofMessagePack? (v : MessagePack) : Option Timestamp :=
  v.text?.bind Timestamp.ofText?

namespace Snapshot

/-- The names of the fields. -/
def fields : List String := ["limit", "remaining", "reset_at"]

/-- The form of a snapshot. -/
def toMessagePack (s : Snapshot) : MessagePack :=
  .ofMembers [("limit", .ofNat s.limit.toNat), ("remaining", .ofNat s.remaining.toNat),
    ("reset_at", .ofString s.resetAt.text)]

/-- A snapshot from its form. -/
def ofMessagePack? (v : MessagePack) : Option Snapshot := do
  let r ← v.record? fields
  let limit ← (← r.get? "limit").uint32?
  let remaining ← (← r.get? "remaining").uint32?
  let resetAt ← Timestamp.ofMessagePack? (← r.get? "reset_at")
  return ⟨limit, remaining, resetAt⟩

end Snapshot

namespace Response

/-- The names of the fields. -/
def fields : List String :=
  ["correlation_id", "status", "http_status", "payload", "error_detail", "retry_after_ms",
    "rate_limit_snapshot"]

/-- The form of a response. -/
def toMessagePack (r : Response) : MessagePack :=
  .ofMembers [("correlation_id", .bin r.id.bytes), ("status", .ofString r.status.name),
    ("http_status", .ofOption (fun n => .ofNat n.toNat) r.httpStatus),
    ("payload", .ofOption .ofOctets r.payload),
    ("error_detail", .ofOption .ofString r.detail),
    ("retry_after_ms", .ofOption (fun n => .ofNat n.toNat) r.retryAfterMs),
    ("rate_limit_snapshot", .ofOption Snapshot.toMessagePack r.snapshot)]

/-- A response from its form; all fields but the first two may be absent. -/
def ofMessagePack? (v : MessagePack) : Option Response := do
  let r ← v.record? fields
  let absent {α : Type} (name : String) (read : MessagePack → Option α) : Option (Option α) :=
    (r.get? name).elim (some none) (MessagePack.nullable? read)
  let id ← (← (← r.get? "correlation_id").rawBytes?) |> Uuid.ofBytes?
  let status ← (← (← r.get? "status").choice? Status.names) |> Status.ofPlace?
  let httpStatus ← absent "http_status" MessagePack.uint16?
  let payload ← absent "payload" MessagePack.octets?
  let detail ← absent "error_detail" MessagePack.textOrBytes?
  let retryAfterMs ← absent "retry_after_ms" MessagePack.uint64?
  let snapshot ← absent "rate_limit_snapshot" Snapshot.ofMessagePack?
  return ⟨id, status, httpStatus, payload, detail, retryAfterMs, snapshot⟩

/-- The bytes of a response. -/
def toBytes (r : Response) : Bytes := r.toMessagePack.toBytes

/-- The response at the start of the bytes. -/
def ofBytes? (s : Bytes) : Option Response := (MessagePack.read? s).bind fun v => ofMessagePack? v.1

end Response

end Sluice
