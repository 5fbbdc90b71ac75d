import Sluice.Http.Method
import Sluice.Http.Status
import Sluice.Message.Request
import Sluice.Message.Response
import Sluice.Quota.Observed

/-!
# Executing requests

A worker executes a request at the remote and makes a response of what comes of it.

* `Execution` is what comes of it: an HTTP response, or the causes of a failure;
* `Execution.ofMeeting` executes a request over HTTP;
* `Execution.response` is the response of an execution. It depends on nothing but the request, the
  execution and the clock.
-/

namespace Sluice

/-- A response of the remote. -/
structure Executed where
  /-- The status. -/
  status : UInt16
  /-- The headers. -/
  headers : Headers
  /-- The body. -/
  body : Bytes
  deriving DecidableEq, Repr

/-- What comes of executing a request. -/
inductive Execution where
  /-- A response of the remote. -/
  | done (x : Executed)
  /-- No response; the last cause comes first. -/
  | failed (causes : List String)
  deriving DecidableEq, Repr

/-- What a call of the remote meets. -/
inductive Meeting where
  /-- The remote is not there. -/
  | unreachable (causes : List String)
  /-- The body of the response breaks off. -/
  | brokenOff (causes : List String)
  /-- A status, headers in their order, and a body. -/
  | answered (status : UInt16) (headers : List (String × Bytes)) (body : Bytes)
  deriving DecidableEq, Repr

namespace Executed

/-- A byte of a header that can be read as a text. -/
def isVisible (b : UInt8) : Bool := b = 9 || (32 ≤ b && b < 127)

/-- The headers that can be read as texts. -/
def readable (hs : List (String × Bytes)) : Headers :=
  Headers.ofList (hs.filterMap fun h =>
    if h.2.all isVisible then (Utf8.toString? h.2).map (h.1, ·) else none)

/-- What is said about a call that neither succeeded nor was refused: its body, or its status if the
body is empty. -/
def detail (x : Executed) : String :=
  let s := Utf8.toStringLossy x.body
  if s.isEmpty then "remote returned status " ++ toString x.status else s

/-- The response without the limits that the remote reported (`classify`). -/
def response (id : Uuid) (x : Executed) : Response :=
  if HttpStatus.isSuccess x.status then .success id x.status x.body
  else if x.status = 429 then .rateLimited id (retryAfter? x.headers)
  else .failure id (some x.status) x.detail

end Executed

namespace Execution

/-- Executes a request over HTTP. -/
def ofMeeting (r : Request) (met : Meeting) : Execution :=
  match HttpMethod.read? r.method with
  | none => .failed ["invalid HTTP method " ++ r.method]
  | some _ =>
    match met with
    | .unreachable causes => .failed (("Request to " ++ r.targetUrl ++ " failed") :: causes)
    | .brokenOff causes => .failed ("Failed to read response body" :: causes)
    | .answered status headers body => .done ⟨status, Executed.readable headers, body⟩

/-- The limits that the remote reported. -/
def snapshot? (now : Timestamp) : Execution → Option Snapshot
  | done x => Snapshot.ofHeaders? x.headers now
  | failed _ => none

/-- The response of an execution at some time. -/
def response (r : Request) (now : Timestamp) (x : Execution) : Response :=
  match x with
  | done e => (e.response r.id).withSnapshot (x.snapshot? now)
  | failed causes => .failure r.id none (": ".intercalate causes)

end Execution

end Sluice
