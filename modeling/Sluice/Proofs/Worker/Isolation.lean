import Sluice.Quota.Memory
import Sluice.Worker.Basic

/-!
# The store behind a worker

A worker tells the bucket store what the remote reported, and goes on whatever the store says.
Whoever waits for the response learns nothing about the store, not even that it has failed.

* `Worker.answer` : the response to a message and what arrives at its address, with no store in
  sight;
* `Worker.reported` : what the store is told;
* `Worker.process_eq` : a worker does these two things, one apart from the other;
* `Worker.store_hidden` : so two workers with any two stores answer alike, a failure of the store is
  counted and nothing else, and a message that is no request concerns neither the store nor anybody
  else.
-/

namespace Sluice.Worker

variable {σ τ : Type}

/-- The response to a message, or why it has not been sent, and what arrives at its address. -/
def answer (execute : Request → Execution) (courier : Courier) (net : Network) (now : Timestamp)
    (message : Bytes) : Except Failure Response × Bytes :=
  match Request.ofUtf8? message with
  | none => (.error (.serialization "not a request"), [])
  | some r =>
    let response := (execute r).response r now
    let (sent, arrived) := courier.send net r.returnAddress [response]
    (sent.map fun _ => response, arrived)

/-- The bucket and the limits that the store is told. -/
def reported (execute : Request → Execution) (now : Timestamp) (message : Bytes) :
    Option (String × Snapshot) :=
  (Request.ofUtf8? message).bind fun r => ((execute r).snapshot? now).map (r.bucketId, ·)

/-- What becomes of the buckets and the counts when the store is told something, or nothing. -/
def told (s : Store σ) (now : Timestamp) (report : Option (String × Snapshot)) (state : σ)
    (tally : Tally) : σ × Tally :=
  match report with
  | none => (state, tally)
  | some (id, limits) => (s.correctOrCount now id limits state tally).2

/-- **A worker answers and tells the store**, one apart from the other. -/
theorem process_eq (w : Worker σ) (net : Network) (now : Timestamp) (message : Bytes) (state : σ)
    (tally : Tally) : w.process net now message state tally =
      let a := answer w.execute w.courier net now message
      let t := told w.store now (reported w.execute now message) state tally
      ⟨a.1, a.2, t.1, t.2⟩ := by
  unfold process answer reported feedBack
  cases Request.ofUtf8? message with
  | none => rfl
  | some r =>
    dsimp only [Option.bind_some]
    cases (w.execute r).snapshot? now <;> rfl

/-! ### What the store is told -/

/-- What has been counted once a store has said how a correction went. -/
def countedBy (tally : Tally) : Except Failure Unit → Tally
  | .ok () => tally
  | .error _ => tally.failCorrection

theorem told_some (s : Store σ) (now : Timestamp) (id : String) (limits : Snapshot) (state : σ)
    (tally : Tally) : told s now (some (id, limits)) state tally =
      ((s.correct now id limits state).2, countedBy tally (s.correct now id limits state).1) := by
  unfold told Store.correctOrCount
  dsimp only
  rcases s.correct now id limits state with ⟨_ | _, state'⟩ <;> rfl

theorem find?_told_memory (limits : Limits) (now : Timestamp) (id : String) (s : Snapshot)
    (c : Catalog Bucket) (tally : Tally) (name : String) :
    (told (Memory.store limits) now (some (id, s)) c tally).1.find? name =
      if name = id then some ((Memory.lookup limits now id c).correct s now) else c.find? name := by
  rw [told_some]
  exact Catalog.find?_insert _ _ _ _

/-! ### The store is hidden -/

/-- **The store stays behind the worker.**

* Whatever the stores of two workers are and say, the two answer a message alike: they make and send
  the same response.
* A correction that fails is counted once, and nothing else is counted; one that does not fail is
  not counted.
* A store in memory ends with what the headers say in the bucket of the request, and with nothing
  else changed.
* If the headers say nothing or the execution has failed, no store is touched.
* A message that is no request is refused without the executor, the store and the network. -/
theorem store_hidden (execute : Request → Execution) (courier : Courier) (net : Network)
    (now : Timestamp) (message : Bytes) :
    (∀ {σ τ : Type} (s : Store σ) (s' : Store τ) (n n' : Nat) (state : σ) (state' : τ)
        (tally tally' : Tally),
      let x := (Worker.mk execute s courier n).process net now message state tally
      let y := (Worker.mk execute s' courier n').process net now message state' tally'
      x.result = y.result ∧ x.arrived = y.arrived) ∧
    (∀ r, Request.ofUtf8? message = some r →
      (∀ limits, (execute r).snapshot? now = some limits →
        (∀ {σ : Type} (s : Store σ) (n : Nat) (state : σ) (tally : Tally),
          let x := (Worker.mk execute s courier n).process net now message state tally
          (∀ f, (s.correct now r.bucketId limits state).1 = .error f →
            x.tally = { tally with correctionFailures := tally.correctionFailures + 1 }) ∧
          ((s.correct now r.bucketId limits state).1 = .ok () → x.tally = tally)) ∧
        (∀ (usual : Limits) (n : Nat) (c : Catalog Bucket) (tally : Tally),
          let x := (Worker.mk execute (Memory.store usual) courier n).process net now message c tally
          (∃ b, x.state.find? r.bucketId = some b ∧ b.limit = limits.limit ∧
            b.remaining = min limits.remaining limits.limit ∧ b.resetAt = limits.resetAt) ∧
          ∀ name ≠ r.bucketId, x.state.find? name = c.find? name)) ∧
      ((execute r).snapshot? now = none →
        ∀ {σ : Type} (s : Store σ) (n : Nat) (state : σ) (tally : Tally),
          let x := (Worker.mk execute s courier n).process net now message state tally
          x.state = state ∧ x.tally = tally)) ∧
    (Request.ofUtf8? message = none →
      ∀ {σ : Type} (w : Worker σ) (net : Network) (state : σ) (tally : Tally),
        w.process net now message state tally =
          ⟨.error (.serialization "not a request"), [], state, tally⟩) := by
  refine ⟨?_, ?_, ?_⟩
  · intro σ τ s s' n n' state state' tally tally'
    simp only [process_eq, and_self]
  · intro r hr
    have hreport : reported execute now message =
        ((execute r).snapshot? now).map (r.bucketId, ·) := by rw [reported, hr, Option.bind_some]
    refine ⟨?_, ?_⟩
    -- What the remote has reported is all that reaches the store.
    · intro limits hlimits
      rw [hlimits, Option.map_some] at hreport
      refine ⟨?_, ?_⟩
      · intro σ s n state tally
        simp only [process_eq, hreport, told_some]
        exact ⟨fun f hf => by rw [hf]; rfl, fun hok => by rw [hok]; rfl⟩
      · intro usual n c tally
        simp only [process_eq, hreport, find?_told_memory, if_true]
        exact ⟨⟨_, rfl, rfl, rfl, rfl⟩, fun name hname => if_neg hname⟩
    · intro hnone σ s n state tally
      rw [hnone, Option.map_none] at hreport
      simp only [process_eq, hreport]
      exact ⟨rfl, rfl⟩
  · intro hnone σ w net state tally
    rw [process_eq, answer, reported, hnone]
    rfl

end Sluice.Worker
