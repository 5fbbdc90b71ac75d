import Sluice.Queue.Basic

/-!
# A queue that has been told what to say

A `Script` says in turn to each message what it has been told and accepts every message after that.
-/

namespace Sluice

/-- A queue with its next answers and the messages that it has accepted. -/
structure Script where
  /-- What it says next: nothing to accept, or the causes of a refusal, the last one first. -/
  lines : List (Option (List String))
  /-- The messages, the first one first. -/
  held : List Bytes
  deriving DecidableEq, Repr

namespace Script

/-- Accepts or refuses a message. -/
def offer (message : Bytes) (s : Script) : Reception × Script :=
  match s.lines with
  | some causes :: lines => (.refused (": ".intercalate causes), { s with lines })
  | none :: lines => (.accepted, ⟨lines, s.held ++ [message]⟩)
  | [] => (.accepted, { s with held := s.held ++ [message] })

/-- The operations. -/
def queue (name : String) : Queue Script where
  name := name
  offer _ := offer
  isReady _ _ := true
  withdraw _ s := s
  receive s :=
    match s.held with
    | [] => none
    | m :: held => some (m, { s with held })

end Script

end Sluice
