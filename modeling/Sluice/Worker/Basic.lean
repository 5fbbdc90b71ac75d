import Sluice.Net.Courier
import Sluice.Quota.Store
import Sluice.Worker.Execution

/-!
# Workers

A worker takes a message, executes the request in it, feeds the limits that the remote reported back
into the bucket store, and sends the response to the address that the request names.

* `Worker.process` does all of that for one message; the store is told before the response is sent;
* `Worker.feedBack` is all that happens to the store.
-/

namespace Sluice

/-- What a worker works with. -/
structure Worker (σ : Type) where
  /-- Executes a request. -/
  execute : Request → Execution
  /-- The store. -/
  store : Store σ
  /-- Sends responses. -/
  courier : Courier
  /-- The number of messages that it works on at once. -/
  width : Nat

/-- What a worker has made of a message. -/
structure Report (σ : Type) where
  /-- The response, or why there is none or it has not been sent. -/
  result : Except Failure Response
  /-- What has arrived at the return address. -/
  arrived : Bytes
  /-- The buckets. -/
  state : σ
  /-- What has been counted. -/
  tally : Tally

namespace Worker

variable {σ : Type}

/-- The text for people. -/
def text (w : Worker σ) : String :=
  "Worker \x7b sender: " ++ w.courier.text ++ ", concurrency: " ++ toString w.width ++ ", .. \x7d"

/-- The buckets and what has been counted after the remote's limits, if it reported any. -/
def feedBack (w : Worker σ) (now : Timestamp) (bucket : String) (limits : Option Snapshot)
    (state : σ) (tally : Tally) : σ × Tally :=
  match limits with
  | none => (state, tally)
  | some s => (w.store.correctOrCount now bucket s state tally).2

/-- Executes the request of a message and sends the response (`process`). -/
def process (w : Worker σ) (net : Network) (now : Timestamp) (message : Bytes) (state : σ)
    (tally : Tally) : Report σ :=
  match Request.ofUtf8? message with
  | none => ⟨.error (.serialization "not a request"), [], state, tally⟩
  | some r =>
    let x := w.execute r
    let response := x.response r now
    let (state, tally) := w.feedBack now r.bucketId (x.snapshot? now) state tally
    let (sent, arrived) := w.courier.send net r.returnAddress [response]
    ⟨sent.map fun _ => response, arrived, state, tally⟩

/-- Works on messages one after the other; the buckets and what has been counted after them. -/
def processAll (w : Worker σ) (net : Network) (now : Timestamp) (messages : List Bytes) (state : σ)
    (tally : Tally) : σ × Tally :=
  messages.foldl (fun (state, tally) m =>
    let r := w.process net now m state tally
    (r.state, r.tally)) (state, tally)

end Worker

end Sluice
