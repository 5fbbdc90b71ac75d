import Sluice.Pending.Listener
import Sluice.Worker.Basic
import Sluice.Proofs.Dispatch.Fate
import Sluice.Proofs.Message.Framing
import Sluice.Proofs.Message.Lossless
import Sluice.Proofs.Message.Queued
import Sluice.Proofs.Time.Floor

/-!
# From the remote to the caller

What comes of executing a request goes through a response, a frame, a connection and the table of
pending requests before it is the result of an invocation. Nothing is lost on the way, and nothing
is put in its place.

* `Execution.owed` : what the caller is to get, straight from what came of the execution;
  `Execution.hint` : how long it is to wait if the remote says so;
* `Execution.outcome_response` : the response says that;
* `Worker.process_of_joined` : the worker sends the frame of the response, and nothing else;
* `Intake.drain_of_isFrame` : a connection that carries one frame brings its response;
* `Invocation.look_of_completed` : the invocation that finds the response ends with what it says;
* `Worker.transparent` : all of this one after the other.
-/

namespace Sluice

variable {σ ρ τ : Type}

/-! ### What the caller is to get -/

theorem Utf8.isEmpty_toStringLossy (s : Bytes) : (toStringLossy s).isEmpty = s.isEmpty := by
  rw [Bool.eq_iff_iff, String.isEmpty_iff, List.isEmpty_iff, toStringLossy, lossy]
  cases s with
  | nil => simp [scan]
  | cons b r => simp [scan, ← String.toList_inj]

namespace Execution

/-- The hint for a caller whose remote asks to wait for a while: the whole milliseconds of it. There
may be more of them than 64 bits can hold; then what these hold is left. -/
def hint (wait : Duration) : Duration :=
  if wait.millis < 18446744073709551616 then wait.floor
  else .ofMillis (wait.millis % 18446744073709551616).toUInt64

theorem hint_eq (wait : Duration) : hint wait = .ofMillis wait.millis64 := by
  unfold hint
  split_ifs with h
  · exact (Duration.ofMillis_millis64 h).symm
  · refine congrArg Duration.ofMillis (UInt64.toNat_inj.1 ?_)
    change _ % 18446744073709551616 % 18446744073709551616 = _ % 18446744073709551616
    rw [Nat.mod_mod]

/-- What the caller is to get for what came of executing the request with an id. -/
def owed (id : Uuid) (now : Timestamp) : Execution → Except Failure Reply
  | .done x =>
    if 200 ≤ x.status ∧ x.status ≤ 299 then
      .ok ⟨id, x.status, x.body, Snapshot.ofHeaders? x.headers now⟩
    else if x.status = 429 then
      .error (.remoteRateLimited ((retryAfter? x.headers).map hint))
    else
      .error (.remoteFailure (some x.status)
        (if x.body = [] then "remote returned status " ++ toString x.status
          else Utf8.toStringLossy x.body))
  | .failed causes => .error (.remoteFailure none (": ".intercalate causes))

theorem isSuccess_iff (code : UInt16) :
    HttpStatus.isSuccess code = true ↔ 200 ≤ code ∧ code ≤ 299 := by
  rw [HttpStatus.isSuccess, Bool.and_eq_true, decide_eq_true_iff, decide_eq_true_iff,
    UInt16.lt_iff_toNat_lt, UInt16.le_iff_toNat_le (b := 299)]
  exact Iff.and Iff.rfl Nat.lt_succ_iff

theorem detail_eq (x : Executed) : x.detail =
    if x.body = [] then "remote returned status " ++ toString x.status
    else Utf8.toStringLossy x.body := by
  rw [Executed.detail]
  simp only [Utf8.isEmpty_toStringLossy, List.isEmpty_iff]

theorem outcome_response (r : Request) (now : Timestamp) (x : Execution) :
    (x.response r now).outcome = x.owed r.id now := by
  cases x with
  | failed causes => rfl
  | done x =>
    rw [response, owed, Executed.response]
    by_cases hsuccess : 200 ≤ x.status ∧ x.status ≤ 299
    · rw [if_pos hsuccess, if_pos ((isSuccess_iff _).2 hsuccess)]
      rfl
    rw [if_neg hsuccess, if_neg fun h => hsuccess ((isSuccess_iff _).1 h)]
    by_cases hlimited : x.status = 429
    · rw [if_pos hlimited, if_pos hlimited]
      change Except.error (Failure.remoteRateLimited
        (((retryAfter? x.headers).map Duration.millis64).map Duration.ofMillis)) = _
      rw [Option.map_map, funext hint_eq]
      rfl
    · rw [if_neg hlimited, if_neg hlimited, ← detail_eq]
      rfl

theorem id_response (r : Request) (now : Timestamp) (x : Execution) :
    (x.response r now).id = r.id := by
  cases x with
  | failed causes => rfl
  | done x =>
    rw [response, Executed.response]
    split_ifs <;> rfl

end Execution

/-! ### The way back -/

open MessagePack in
/-- **A worker sends the frame of the response**, and nothing else. -/
theorem Worker.process_of_joined (w : Worker σ) {net : Network} {r : Request} {now : Timestamp}
    (hnet : net r.returnAddress = .joined ⟨[], none⟩)
    (hsize : ((w.execute r).response r now).toBytes.length < 4294967296) (state : σ)
    (tally : Tally) :
    (w.process net now r.toUtf8 state tally).result = .ok ((w.execute r).response r now) ∧
      (w.process net now r.toUtf8 state tally).arrived =
        bigEndianBytes 4 ((w.execute r).response r now).toBytes.length ++
          ((w.execute r).response r now).toBytes := by
  have hsend (x : Response) (hx : x.toBytes.length < 4294967296) :
      w.courier.send net r.returnAddress [x] =
        (.ok (), bigEndianBytes 4 x.toBytes.length ++ x.toBytes) := by
    rw [Courier.send, hnet]
    simp only [Courier.deliver, Frame.write, Frame.encode?, if_pos hx, Frame.Sink.put,
      List.nil_append, if_true]
  rw [Worker.process, Request.ofUtf8?_toUtf8]
  simp only [hsend _ hsize, Except.map, and_self]

/-- **A connection that carries one frame brings its response**, however it is cut. -/
theorem Intake.drain_of_isFrame {bound : Nat} {frame : Bytes} {r : Response}
    (h : Frame.IsFrame bound frame r) (c : Source.Cut frame) (b : Board) :
    drain bound c.source b = (1, receive r b) := by
  have hbytes : c.source.bytes = frame ++ [] := by rw [c.bytes_source, List.append_nil]
  obtain ⟨rest, hnext, hrest, hfailure⟩ := Frame.next_of_isFrame h hbytes
  have hdone : (Frame.next bound rest).1 = .done := by
    rw [Frame.fst_next, hrest, hfailure, c.whole.failure?]
    rfl
  have hending : (Frame.next bound rest).1.ending? = some .done := by rw [hdone]; rfl
  rw [drain, Frame.readAll_of_response hnext, Frame.readAll_of_ending hending]
  rfl

theorem Intake.box_receive {b : Board} {r : Response} {e : Entry}
    (hfind : b.table.find? r.id = some e) (hpending : e.isPending = true)
    (hticket : e.ticket < b.table.boxes.length) :
    (receive r b).table.box e.ticket = .holding (.completed r) := by
  have htable := congrArg Prod.snd (Board.resolve_eq { b with tally := b.tally.receive } r.id r)
  change (receive r b).table = (b.table.resolve r.id r).2 at htable
  rw [htable, Table.resolve_of_pending hfind hpending]
  exact (Table.box_putBox _ _ _ _).trans (if_pos ⟨rfl, hticket⟩)

theorem Invocation.look_of_completed (d : Dispatcher σ τ) {i : Invocation} {now : Tick}
    {ticket : Nat} {s : Shared σ τ} {r : Response} (hcancel : i.isCancelled now = false)
    (hbox : s.board.table.box ticket = .holding (.completed r)) (deadline : Instant) :
    (i.look d now deadline ticket s).1.phase = .ended now r.outcome := by
  rw [look, hcancel, Board.poll, Table.poll_of_holding hbox]
  rfl

/-- **The relay is transparent.** A worker that reaches the return address of a request sends one
response there. However the bytes arrive, reading them settles the pending entry of the request, and
whoever waits for it gets what the execution owes, as long as the box of the entry is left alone. -/
theorem Worker.transparent (w : Worker σ) {net : Network} {r : Request} {now : Timestamp}
    (hnet : net r.returnAddress = .joined ⟨[], none⟩) {bound : Nat}
    (hsize : ((w.execute r).response r now).toBytes.length < 4294967296)
    (hbound : ((w.execute r).response r now).toBytes.length ≤ bound) (state : σ) (tally : Tally)
    (d : Dispatcher ρ τ) :
    (w.process net now r.toUtf8 state tally).result = .ok ((w.execute r).response r now) ∧
      ∀ (c : Source.Cut (w.process net now r.toUtf8 state tally).arrived) (b : Board)
        (ticket : Nat) (deadline : Instant),
        b.table.find? r.id = some ⟨ticket, deadline, true⟩ → ticket < b.table.boxes.length →
          (Intake.drain bound c.source b).1 = 1 ∧
          ∀ (i : Invocation) (tick : Tick) (s : Shared ρ τ), i.isCancelled tick = false →
            s.board.table.box ticket = (Intake.drain bound c.source b).2.table.box ticket →
              (i.look d tick deadline ticket s).1.phase =
                .ended tick ((w.execute r).owed r.id now) := by
  obtain ⟨hresult, harrived⟩ := w.process_of_joined hnet hsize state tally
  have hid := Execution.id_response r now (w.execute r)
  have howed := Execution.outcome_response r now (w.execute r)
  rw [harrived]
  generalize (w.execute r).response r now = x at *
  refine ⟨hresult, ?_⟩
  intro c b ticket deadline hfind hticket
  rw [Intake.drain_of_isFrame (Frame.isFrame_encode hsize hbound) c b]
  refine ⟨rfl, ?_⟩
  intro i tick s hcancel hsame
  rw [← hid] at hfind
  have hbox := hsame.trans (Intake.box_receive hfind rfl hticket)
  rw [Invocation.look_of_completed d hcancel hbox, howed]

/-- The way to cut a stream into single bytes. -/
def Source.Cut.bytewise (s : Bytes) : Cut s where
  pieces := s.map fun b => [b]
  ne_nil := by simp
  flatten_eq := by rw [← List.flatMap_def, List.flatMap_singleton']

/-- A worker whose remote has nothing, and nothing to say about it. -/
def Worker.fruitless : Worker (Catalog Bucket) :=
  ⟨fun _ => .done ⟨404, .empty, []⟩, Memory.store ⟨5, .ofSeconds 1⟩, .standard, 1⟩

/-- The caller gets the status of an answer without a body, whose bytes arrive one by one. -/
theorem Worker.transparent_fruitless :
    ∃ (r : Request) (i : Invocation) (s : Shared (Catalog Bucket) Script),
      s.board = (Intake.drain 4096 (Source.Cut.bytewise (Worker.fruitless.process
        (fun _ => .joined ⟨[], none⟩) .epoch r.toUtf8 .empty .zero).arrived).source
          (Board.empty.register r.id 5000).2).2 ∧
      (i.look Traffic.promptDispatcher 3 5000 0 s).1.phase =
        .ended 3 (.error (.remoteFailure (some 404) "remote returned status 404")) := by
  let r : Request := ⟨.ofNat 1, "b", "GET", "http://a/", .empty, [], "a:1", .epoch⟩
  have hshort : ((Worker.fruitless.execute r).response r .epoch).toBytes.length ≤ 4096 := by
    decide +kernel
  let net : Network := fun _ => .joined ⟨[], none⟩
  have hnet : net r.returnAddress = .joined ⟨[], none⟩ := rfl
  obtain ⟨-, hread⟩ := Worker.fruitless.transparent hnet (Nat.lt_of_le_of_lt hshort (by decide))
    hshort .empty .zero Traffic.promptDispatcher
  obtain ⟨-, hlook⟩ := hread (.bytewise _) (Board.empty.register r.id 5000).2 0 5000 rfl
    (by decide)
  exact ⟨r, .ofPlan ⟨0, r.id, .simple "GET" "http://a/", none, none, none⟩, ⟨.empty, ⟨[], []⟩, _⟩,
    rfl, hlook _ 3 _ rfl rfl⟩

end Sluice
