import Sluice.Http.Status
import Sluice.Queue.Basic

/-!
# The queue behind an endpoint

An endpoint takes one message with each call. Whether a call comes through, and what the endpoint
says, is the state of the queue: what each further call will meet.
-/

namespace Sluice

/-- What a call of an endpoint meets. -/
inductive Encounter where
  /-- The endpoint is not there; the detail says why. -/
  | unreachable (detail : String)
  /-- The endpoint answers with a status. -/
  | answered (status : UInt16)
  deriving DecidableEq, Repr

namespace Ingest

/-- What an endpoint makes of a message (`publish`). -/
def heed (endpoint : String) : Encounter → Reception
  | .unreachable detail =>
    .refused ("Failed to reach queue at " ++ endpoint ++ ": " ++ detail)
  | .answered status =>
    if HttpStatus.isSuccess status then .accepted
    else .refused ("queue at " ++ endpoint ++ " rejected message: " ++ HttpStatus.text status)

/-- The queue at an endpoint. -/
def queue (endpoint : String) : Queue Encounter where
  name := "http"
  offer _ _ met := (heed endpoint met, met)
  isReady _ _ := true
  withdraw _ met := met
  receive _ := none

end Ingest

end Sluice
