import Sluice.Quota.Bucket
import Sluice.Message.Headers
import Sluice.Number.Reading
import Sluice.Text.Blank
import Sluice.Time.Seconds

/-!
# Limits in response headers

* `Snapshot.ofHeaders?` reads the limits that a response reports; the time until the window ends is
  preferred to the time at which it ends, since it does not depend on the remote's clock;
* `retryAfter?` reads the hint of a response that was refused.
-/

namespace Sluice

/-- A number of seconds as a length of time (`parse_seconds`). -/
def seconds? (s : String) : Option Duration := (Number.float? s).bind Duration.ofFloat?

/-- A number of seconds from 1970, cut to the millisecond. -/
def epochSeconds? (s : String) : Option Timestamp := do
  let x ← Number.float? s
  if x.isFinite && !(x < 0.0) then Timestamp.ofMillis? (← Binary64.truncate? (x * 1000.0)) else none

/-- The value of a header without white space around it (`header_value`). -/
def Headers.value? (h : Headers) (name : String) : Option String := (h.find? name).map Text.trim

/-- The hint of a refused response (`retry_after_from_headers`). -/
def retryAfter? (h : Headers) : Option Duration := (h.value? "retry-after").bind seconds?

/-- The end of the window that a response reports. -/
def resetAt? (h : Headers) (now : Timestamp) : Option Timestamp :=
  match (h.value? "x-ratelimit-reset-after").bind seconds? with
  | some after => some (windowEnd now after)
  | none => (h.value? "x-ratelimit-reset").bind epochSeconds?

/-- The limits that a response reports (`from_headers`). -/
def Snapshot.ofHeaders? (h : Headers) (now : Timestamp) : Option Snapshot := do
  let limit ← (h.value? "x-ratelimit-limit").bind Number.uint32?
  let remaining ← (h.value? "x-ratelimit-remaining").bind Number.uint32?
  let resetAt ← resetAt? h now
  return ⟨limit, remaining, resetAt⟩

end Sluice
