import Sluice.Time.DurationText
import Sluice.Uuid

/-!
# Failures

Every way in which a relayed request, the bucket store or the response channel can fail.

* `Failure.message` is the text for people;
* `Failure.label` is the name under which it is counted;
* `Failure.name` is the name of its kind.
-/

namespace Sluice

/-- Why an operation failed. -/
inductive Failure where
  /-- The bucket has no unit left for the moment. -/
  | admissionDenied (bucket : String) (retryAfter : Duration)
  /-- The queue did not take the message. -/
  | relayUnavailable (text : String)
  /-- The id is pending already. -/
  | duplicateId (id : Uuid)
  /-- The deadline passed before an answer came. -/
  | timedOut (id : Uuid) (ms : UInt64)
  /-- The caller gave up. -/
  | cancelled
  /-- The remote call failed. -/
  | remoteFailure (status : Option UInt16) (detail : String)
  /-- The remote limits the rate of calls. -/
  | remoteRateLimited (retryAfter : Option Duration)
  /-- The bucket store failed. -/
  | store (text : String)
  /-- The response channel carries something else than frames. -/
  | frame (text : String)
  /-- A message cannot be read or written. -/
  | serialization (text : String)
  /-- Input or output failed. -/
  | network (text : String)
  /-- A setting or an argument is unusable. -/
  | invalidConfig (text : String)
  deriving DecidableEq, Repr

namespace Failure

/-- The text of an optional value. -/
def optional {α : Type} (show' : α → String) : Option α → String
  | none => "None"
  | some a => "Some(" ++ show' a ++ ")"

/-- The text for people. -/
def message : Failure → String
  | admissionDenied bucket retryAfter =>
    "Admission denied for bucket " ++ bucket ++ ", retry after " ++ retryAfter.text
  | relayUnavailable text => "Relay unavailable: " ++ text
  | duplicateId id => "Duplicate correlation id: " ++ id.text
  | timedOut id ms => "Request " ++ id.text ++ " timed out after " ++ toString ms ++ "ms"
  | cancelled => "Request cancelled"
  | remoteFailure status detail =>
    "Remote failure (status " ++ optional toString status ++ "): " ++ detail
  | remoteRateLimited retryAfter =>
    "Remote rate limited, retry after " ++ optional Duration.text retryAfter
  | store text => "Bucket store error: " ++ text
  | frame text => "Frame error: " ++ text
  | serialization text => "Serialization error: " ++ text
  | network text => "Network error: " ++ text
  | invalidConfig text => "Invalid configuration: " ++ text

/-- The name under which failures of this kind are counted (`outcome_label`). -/
def label : Failure → String
  | admissionDenied .. => "admission_denied"
  | relayUnavailable _ => "send_failed"
  | duplicateId _ => "duplicate_id"
  | timedOut .. => "timed_out"
  | cancelled => "cancelled"
  | remoteFailure .. => "remote_failure"
  | remoteRateLimited _ => "remote_rate_limited"
  | store _ => "store_error"
  | frame _ | serialization _ | network _ => "transport_error"
  | invalidConfig _ => "invalid_config"

/-- The name of the kind of failure. -/
def name : Failure → String
  | admissionDenied .. => "AdmissionDenied"
  | relayUnavailable _ => "RelayUnavailable"
  | duplicateId _ => "DuplicateCorrelationId"
  | timedOut .. => "Timeout"
  | cancelled => "Cancelled"
  | remoteFailure .. => "RemoteFailure"
  | remoteRateLimited _ => "RemoteRateLimited"
  | store _ => "Store"
  | frame _ => "Frame"
  | serialization _ => "Serialization"
  | network _ => "Network"
  | invalidConfig _ => "InvalidConfig"

end Failure

end Sluice
