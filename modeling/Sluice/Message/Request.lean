import Sluice.Json.Reader
import Sluice.Json.Printer
import Sluice.Message.Headers
import Sluice.Time.Rfc3339
import Sluice.Uuid

/-!
# Requests

A `Call` says what is to be executed, a `Request` is a call on its way through the queue.

* `Request.ofCall` addresses a call;
* `Request.toUtf8` and `Request.ofUtf8?` are its form on the queue, a JSON object;
* `Call.toJson` and `Call.ofJson?` are the form of a call.
-/

namespace Sluice

/-- What is to be executed. -/
structure Call where
  /-- The method. -/
  method : String
  /-- The absolute URL. -/
  targetUrl : String
  /-- The headers. -/
  headers : Headers
  /-- The body. -/
  body : Bytes
  /-- The bucket, if it does not follow from method and URL. -/
  bucketId : Option String
  deriving DecidableEq, Repr

/-- A call on its way through the queue. -/
structure Request where
  /-- The id that the answer will carry. -/
  id : Uuid
  /-- The bucket that admitted it. -/
  bucketId : String
  /-- The method. -/
  method : String
  /-- The absolute URL. -/
  targetUrl : String
  /-- The headers. -/
  headers : Headers
  /-- The body. -/
  body : Bytes
  /-- Host and port to which the answer goes. -/
  returnAddress : String
  /-- When it was put on the queue. -/
  enqueuedAt : Timestamp
  deriving DecidableEq, Repr

/-- Headers as members of an object. -/
def Headers.toJson (h : Headers) : Json := .ofMembers (h.entries.map fun e => (e.1, .ofString e.2))

/-- Headers from members of an object; a later member replaces an earlier one of its name. -/
def Headers.ofJson? (j : Json) : Option Headers := do
  let entries ← (← j.members?).mapM fun m => m.2.text?.map (m.1, ·)
  return Headers.ofList entries

/-- A point in time as a text. -/
def Timestamp.toJson (t : Timestamp) : Json := .ofString t.text

/-- A point in time from a text. -/
def Timestamp.ofJson? (j : Json) : Option Timestamp := j.text?.bind Timestamp.ofText?

namespace Call

/-- A call without headers and body. -/
def simple (method targetUrl : String) : Call := ⟨method, targetUrl, .empty, [], none⟩

/-- The names of the fields. -/
def fields : List String := ["method", "target_url", "headers", "body", "bucket_id"]

/-- The form of a call; an absent bucket is left out. -/
def toJson (c : Call) : Json :=
  .ofMembers ([("method", .ofString c.method), ("target_url", .ofString c.targetUrl),
    ("headers", c.headers.toJson), ("body", .ofBytes c.body)] ++
    (c.bucketId.map fun b => ("bucket_id", Json.ofString b)).toList)

/-- A call from its form; headers, body and bucket may be absent. -/
def ofJson? (j : Json) : Option Call := do
  let r ← j.record? fields
  let method ← (← r.get? "method").text?
  let targetUrl ← (← r.get? "target_url").text?
  let headers ← (r.get? "headers").elim (some .empty) Headers.ofJson?
  let body ← (r.get? "body").elim (some []) Json.bytes?
  let bucketId ← (r.get? "bucket_id").elim (some none) (Json.nullable? Json.text?)
  return ⟨method, targetUrl, headers, body, bucketId⟩

end Call

namespace Request

/-- A call addressed to a bucket and a return address. -/
def ofCall (id : Uuid) (bucketId : String) (c : Call) (returnAddress : String) (now : Timestamp) :
    Request :=
  ⟨id, bucketId, c.method, c.targetUrl, c.headers, c.body, returnAddress, now⟩

/-- The names of the fields. -/
def fields : List String :=
  ["correlation_id", "bucket_id", "method", "target_url", "headers", "body", "return_address",
    "enqueued_at"]

/-- The form of a request. -/
def toJson (r : Request) : Json :=
  .ofMembers [("correlation_id", .ofString r.id.text), ("bucket_id", .ofString r.bucketId),
    ("method", .ofString r.method), ("target_url", .ofString r.targetUrl),
    ("headers", r.headers.toJson), ("body", .ofBytes r.body),
    ("return_address", .ofString r.returnAddress), ("enqueued_at", r.enqueuedAt.toJson)]

/-- A request from its form. -/
def ofJson? (j : Json) : Option Request := do
  let r ← j.record? fields
  let id ← (← (← r.get? "correlation_id").text?) |> Uuid.ofText?
  let bucketId ← (← r.get? "bucket_id").text?
  let method ← (← r.get? "method").text?
  let targetUrl ← (← r.get? "target_url").text?
  let headers ← Headers.ofJson? (← r.get? "headers")
  let body ← (← r.get? "body").bytes?
  let returnAddress ← (← r.get? "return_address").text?
  let enqueuedAt ← Timestamp.ofJson? (← r.get? "enqueued_at")
  return ⟨id, bucketId, method, targetUrl, headers, body, returnAddress, enqueuedAt⟩

/-- The message on the queue (`to_bytes`). -/
def toUtf8 (r : Request) : Bytes := r.toJson.toUtf8

/-- The request of a message on the queue (`from_bytes`). -/
def ofUtf8? (s : Bytes) : Option Request := (Json.ofUtf8? s).bind ofJson?

end Request

end Sluice
