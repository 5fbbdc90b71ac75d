import Sluice.Failure

/-!
# Stages of an invocation

An invocation waits for admission, then for its answer, and ends in one of four ways. A `Course`
follows one invocation; a stage that is an end is never left.

* `Stage.ofFailure` is the end that a failure at the gate leads to;
* `Course.move` goes to a stage, unless the invocation has ended.
-/

namespace Sluice

/-- Where an invocation is. -/
inductive Stage where
  /-- It waits for a unit of its bucket. -/
  | admitting
  /-- The queue has its message, and it waits for the answer. -/
  | sent
  /-- The answer came. -/
  | completed
  /-- The deadline came first. -/
  | timedOut
  /-- The token fired first. -/
  | cancelled
  /-- The message never reached the queue. -/
  | sendFailed
  deriving DecidableEq, Repr

namespace Stage

/-- All stages. -/
def all : List Stage := [.admitting, .sent, .completed, .timedOut, .cancelled, .sendFailed]

/-- The name under which invocations in this stage are counted. -/
def label : Stage → String
  | admitting => "admitting"
  | sent => "sent"
  | completed => "completed"
  | timedOut => "timed_out"
  | cancelled => "cancelled"
  | sendFailed => "send_failed"

/-- The stage with a name. -/
def ofLabel? (s : String) : Option Stage := all.find? (·.label == s)

/-- The invocation has ended (`is_terminal`). -/
def isEnd : Stage → Bool
  | admitting | sent => false
  | completed | timedOut | cancelled | sendFailed => true

/-- The end of an invocation that fails before its message is sent. -/
def ofFailure : Failure → Stage
  | .cancelled => cancelled
  | .timedOut .. => timedOut
  | _ => sendFailed

end Stage

/-- The id of an invocation and the stages that it has been in. -/
structure Course where
  /-- The id. -/
  id : Uuid
  /-- The stage. -/
  stage : Stage
  /-- The stages before it, the last one first. -/
  past : List Stage
  deriving DecidableEq, Repr

namespace Course

/-- The course of an invocation that begins. -/
def begin (id : Uuid) : Course := ⟨id, .admitting, []⟩

/-- Goes to a stage unless the invocation has ended (`transition`); says whether it went. -/
def move (c : Course) (s : Stage) : Bool × Course :=
  if c.stage.isEnd then (false, c) else (true, { c with stage := s, past := c.stage :: c.past })

/-- Goes to a stage unless the invocation has ended. -/
def moved (c : Course) (s : Stage) : Course := (c.move s).2

end Course

end Sluice
