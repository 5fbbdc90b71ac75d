import Sluice.Metrics.Exposition

/-!
# The pages for scrapers

Two pages: `/metrics` is all that has been counted, `/health` says that the process is there. What
comes after a question mark does not matter.

* `Page.visit` is the answer to a visit;
* `Enrolment` is whether the counts have been made known, which works once.
-/

namespace Sluice

/-- The answer to a visit. -/
structure Page where
  /-- The HTTP status. -/
  status : UInt16
  /-- The kind of the body. -/
  contentType : Option String
  /-- The methods that are allowed, if the one of the visit is not. -/
  allow : Option String
  /-- The body. -/
  body : String
  deriving DecidableEq, Repr

namespace Page

/-- The kind of a text. -/
def plainText : String := "text/plain; charset=utf-8"

/-- A page that can be read; who asks for its head does not get its body. -/
def readable (method : String) (contentType : Option String) (body : String) : Page :=
  if method = "GET" then ⟨200, contentType, none, body⟩
  else if method = "HEAD" then ⟨200, contentType, none, ""⟩
  else ⟨405, none, some "GET,HEAD", ""⟩

/-- The answer to a visit. -/
def visit (t : Tally) (method target : String) : Page :=
  let path := String.ofList (target.toList.takeWhile (· != '?'))
  if path = "/metrics" then readable method (some plainText) t.exposition
  else if path = "/health" then readable method none ""
  else ⟨404, none, none, ""⟩

end Page

/-- Whether the counts have been made known to scrapers. -/
structure Enrolment where
  /-- They have been. -/
  isDone : Bool
  deriving DecidableEq, Repr

namespace Enrolment

/-- They have not been. -/
def fresh : Enrolment := ⟨false⟩

/-- Makes them known; says whether it is the first time. -/
def enrol (e : Enrolment) : Bool × Enrolment := (!e.isDone, ⟨true⟩)

end Enrolment

end Sluice
