import Sluice.Proofs.Settings.Wiring
import Sluice.Proofs.Text.Utf8
import Sluice.Proofs.Toml.Bounds
import Sluice.Proofs.Toml.Sections
import Sluice.Settings.Load
import Sluice.Settings.Printer

/-!
# Settings are loaded as they were written

Settings come from a file, from the environment or from neither. A file says no number beyond 63
bits, since TOML has none; the environment may, where it says how long an invocation takes.

* `Settings.Writable` : TOML has the values of settings; `Settings.writable_of_load` : settings that
  were loaded are writable, unless that time is too long;
* `Settings.ofDocument?_document` : the document that is written holds the settings;
* `Settings.load_toToml_of_load` : settings that were loaded are written, and loaded again from what
  was written;
* `Settings.toToml?_eq_none_iff` : nothing but that time keeps them from being written.
-/

namespace Sluice.Settings

open Document
open Toml (AllBounded Bounded Cell)

variable {s : Settings}

/-! ### Numbers of 63 bits -/

/-- TOML has the numbers, apart from the time for an invocation. -/
structure Narrow (s : Settings) : Prop where
  maxFrameSize : s.listener.maxFrameSize.toNat < 2 ^ 63
  publishTimeout : s.queue.publishTimeoutMs.toNat < 2 ^ 63
  sweepInterval : s.orchestrator.sweepIntervalMs.toNat < 2 ^ 63
  baseDelay : s.admission.baseDelayMs.toNat < 2 ^ 63
  maxDelay : s.admission.maxDelayMs.toNat < 2 ^ 63
  defaultWindow : s.buckets.defaultWindowMs.toNat < 2 ^ 63
  busyTimeout : s.buckets.busyTimeoutMs.toNat < 2 ^ 63

theorem narrow_standard : Narrow standard := by
  constructor <;> decide

/-- A number of a section that a document says or that holds otherwise. -/
theorem uint64_lt {fields : Record Toml} {name : String} {d n : UInt64}
    (hfields : AllBounded fields) (hd : d.toNat < 2 ^ 63)
    (h : field fields name uint64? d = some n) : n.toNat < 2 ^ 63 :=
  hfields.field (P := fun n => n.toNat < 2 ^ 63) Bounded.uint64? hd h

theorem readSection_spec {β : Type} {names : List String} {read : Record Toml → Option β} {v : Toml}
    {x : β} (hv : Bounded v) (h : readSection names read v = some x) :
    ∃ fields, AllBounded fields ∧ read fields = some x := by
  obtain ⟨fields, hfields, h⟩ := Option.bind_eq_some_iff.1 h
  exact ⟨fields, hv.record? hfields, h⟩

variable {v : Toml}

theorem readListening_lt {x : Listening} (hv : Bounded v)
    (h : readListening standard.listener v = some x) : x.maxFrameSize.toNat < 2 ^ 63 := by
  obtain ⟨fields, hfields, h⟩ := readSection_spec hv h
  simp only [Option.bind_eq_bind, Option.bind_eq_some_iff] at h
  obtain ⟨_, -, _, -, n, hn, h⟩ := h
  cases h
  exact uint64_lt hfields (by decide) hn

theorem readQueueing_lt {x : Queueing} (hv : Bounded v)
    (h : readQueueing standard.queue v = some x) : x.publishTimeoutMs.toNat < 2 ^ 63 := by
  obtain ⟨fields, hfields, h⟩ := readSection_spec hv h
  simp only [Option.bind_eq_bind, Option.bind_eq_some_iff] at h
  obtain ⟨_, -, n, hn, h⟩ := h
  cases h
  exact uint64_lt hfields (by decide) hn

theorem readInvoking_lt {x : Invoking} (hv : Bounded v)
    (h : readInvoking standard.orchestrator v = some x) : x.sweepIntervalMs.toNat < 2 ^ 63 := by
  obtain ⟨fields, hfields, h⟩ := readSection_spec hv h
  simp only [Option.bind_eq_bind, Option.bind_eq_some_iff] at h
  obtain ⟨_, -, n, hn, h⟩ := h
  cases h
  exact uint64_lt hfields (by decide) hn

theorem readAdmission_lt {x : Admission} (hv : Bounded v)
    (h : readAdmission standard.admission v = some x) :
    x.baseDelayMs.toNat < 2 ^ 63 ∧ x.maxDelayMs.toNat < 2 ^ 63 := by
  obtain ⟨fields, hfields, h⟩ := readSection_spec hv h
  simp only [Option.bind_eq_bind, Option.bind_eq_some_iff] at h
  obtain ⟨n, hn, n', hn', _, -, h⟩ := h
  cases h
  exact ⟨uint64_lt hfields (by decide) hn, uint64_lt hfields (by decide) hn'⟩

theorem readBuckets_lt {x : Buckets} (hv : Bounded v)
    (h : readBuckets standard.buckets v = some x) :
    x.defaultWindowMs.toNat < 2 ^ 63 ∧ x.busyTimeoutMs.toNat < 2 ^ 63 := by
  obtain ⟨fields, hfields, h⟩ := readSection_spec hv h
  simp only [Option.bind_eq_bind, Option.bind_eq_some_iff] at h
  obtain ⟨_, -, _, -, n, hn, n', hn', h⟩ := h
  cases h
  exact ⟨uint64_lt hfields (by decide) hn, uint64_lt hfields (by decide) hn'⟩

theorem ofDocument?_narrow (hv : Bounded v) (h : ofDocument? v = some s) : Narrow s := by
  have hstandard := narrow_standard
  obtain ⟨fields, hfields, h⟩ := readSection_spec hv h
  simp only [Option.bind_eq_bind, Option.bind_eq_some_iff] at h
  obtain ⟨_, -, listener, hlistener, queue, hqueue, orchestrator, horchestrator, admission,
    hadmission, buckets, hbuckets, _, -, _, -, h⟩ := h
  cases h
  have hlistener := hfields.field (P := fun x => x.maxFrameSize.toNat < 2 ^ 63) readListening_lt
    hstandard.maxFrameSize hlistener
  have hqueue := hfields.field (P := fun x => x.publishTimeoutMs.toNat < 2 ^ 63) readQueueing_lt
    hstandard.publishTimeout hqueue
  have horchestrator := hfields.field (P := fun x => x.sweepIntervalMs.toNat < 2 ^ 63)
    readInvoking_lt hstandard.sweepInterval horchestrator
  have hadmission := hfields.field readAdmission_lt ⟨hstandard.baseDelay, hstandard.maxDelay⟩
    hadmission
  have hbuckets := hfields.field readBuckets_lt ⟨hstandard.defaultWindow, hstandard.busyTimeout⟩
    hbuckets
  exact ⟨hlistener, hqueue, horchestrator, hadmission.1, hadmission.2, hbuckets.1, hbuckets.2⟩

/-! ### What is written -/

/-- The document that is written. -/
def document (s : Settings) : Toml := .table .header (s.sections.map Toml.Section.entry)

/-- The values within a section that are written. -/
def written (ls : List (String × Option Cell)) : List (String × Cell) :=
  ls.filterMap fun l => l.2.map (l.1, ·)

theorem mem_written {ls : List (String × Option Cell)} {l : String × Cell} :
    l ∈ written ls ↔ (l.1, some l.2) ∈ ls := by
  simp only [written, List.mem_filterMap, Option.map_eq_some_iff]
  constructor
  · rintro ⟨⟨k, _⟩, hmem, c, rfl, rfl⟩
    exact hmem
  · intro hmem
    exact ⟨_, hmem, l.2, rfl, rfl⟩

theorem map_written_sublist (ls : List (String × Option Cell)) :
    ((written ls).map (·.1)).Sublist (ls.map (·.1)) := by
  induction ls with
  | nil => exact List.Sublist.slnil
  | cons l ls ih =>
    obtain ⟨k, c⟩ := l
    cases c with
    | none => exact ih.cons k
    | some c => exact ih.cons_cons k

/-- The names of the sections and of what is in them. -/
def names : List (String × List String) :=
  [("logging", ["level", "format"]),
    ("listener", ["bind_address", "advertise_address", "max_frame_size"]),
    ("queue", ["endpoint", "publish_timeout_ms"]),
    ("orchestrator", ["default_timeout_ms", "sweep_interval_ms"]),
    ("admission", ["base_delay_ms", "max_delay_ms", "jitter"]),
    ("buckets", ["database_path", "default_limit", "default_window_ms", "busy_timeout_ms"]),
    ("routes", ["major_parameters"]), ("metrics", ["enabled", "port"])]

theorem map_entries (s : Settings) :
    s.entries.map (fun e => (e.1, e.2.map (·.1))) = names := rfl

theorem bare_names : ∀ n ∈ names, Toml.Bare n.1 ∧ (∀ k ∈ n.2, Toml.Bare k) ∧ n.2.Nodup := by
  simp [names, Toml.Bare, Toml.isBare]

theorem nodup_names : (names.map (·.1)).Nodup := by decide

/-- TOML has the values. -/
structure Writable (s : Settings) : Prop where
  narrow : Narrow s
  defaultTimeout : s.orchestrator.defaultTimeoutMs.toNat < 2 ^ 63
  jitter : ∃ negative m e, Binary64.parts s.admission.jitter = .finite negative m e

/-- TOML has a value, if there is one. -/
def Fits (c : Option Cell) : Prop := ∀ c' ∈ c, c'.Readable

theorem fits_some {c : Cell} (h : c.Readable) : Fits (some c) := by
  rintro c' hc'
  cases hc'
  exact h

theorem fits_text (t : String) : Fits (some (.text t)) := fits_some trivial

theorem fits_whole {n : Nat} (h : n < 2 ^ 63) : Fits (some (.whole n)) :=
  fits_some ⟨Int.natCast_nonneg _, by exact_mod_cast h⟩

theorem fits_address (t : Option String) : Fits (t.map .text) := by
  cases t with
  | none => exact fun _ h => absurd h (by simp)
  | some t => exact fits_text t

theorem Writable.fits (h : Writable s) : ∀ e ∈ s.entries, ∀ l ∈ e.2, Fits l.2 := by
  obtain ⟨hnarrow, htimeout, hjitter⟩ := h
  have hlimit : s.buckets.defaultLimit.toNat < 2 ^ 63 :=
    s.buckets.defaultLimit.toNat_lt.trans (by norm_num)
  have hport : s.metrics.port.toNat < 2 ^ 63 := s.metrics.port.toNat_lt.trans (by norm_num)
  have hnil : ∀ l ∈ ([] : List (String × Option Cell)), Fits l.2 := List.forall_mem_nil _
  simp only [entries, cell, List.forall_mem_cons]
  exact ⟨⟨fits_text _, fits_text _, hnil⟩,
    ⟨fits_text _, fits_address _, fits_whole hnarrow.maxFrameSize, hnil⟩,
    ⟨fits_text _, fits_whole hnarrow.publishTimeout, hnil⟩,
    ⟨fits_whole htimeout, fits_whole hnarrow.sweepInterval, hnil⟩,
    ⟨fits_whole hnarrow.baseDelay, fits_whole hnarrow.maxDelay, fits_some hjitter, hnil⟩,
    ⟨fits_text _, fits_whole hlimit, fits_whole hnarrow.defaultWindow,
      fits_whole hnarrow.busyTimeout, hnil⟩,
    ⟨fits_some trivial, hnil⟩, ⟨fits_some trivial, fits_whole hport, hnil⟩, List.forall_mem_nil _⟩

/-- The sections can be read. -/
theorem Writable.readable (h : Writable s) : ∀ x ∈ s.sections, x.Readable := by
  rintro x hx
  obtain ⟨e, he, rfl⟩ := List.mem_map.1 hx
  have hname : (e.1, e.2.map (·.1)) ∈ names := map_entries s ▸ List.mem_map_of_mem he
  obtain ⟨hbare, hkeys, hdistinct⟩ := bare_names _ hname
  refine ⟨hbare, fun l hl => ?_, hdistinct.sublist (map_written_sublist e.2)⟩
  have hmem := mem_written.1 hl
  exact ⟨hkeys l.1 (List.mem_map_of_mem hmem), h.fits e he _ hmem l.2 rfl⟩

theorem map_sections (s : Settings) : s.sections.map (·.name) = names.map (·.1) := rfl

/-- What is written is read as the document. -/
theorem Writable.ofChars? (h : Writable s) :
    Toml.ofChars? (Toml.sectionsText s.sections).toList = some s.document :=
  Toml.ofChars?_sectionsText h.readable (map_sections s ▸ nodup_names)

theorem fits_of_readable {c : Cell} (h : c.Readable) : fits c = true := by
  cases c with
  | whole n => simpa [fits] using h.2
  | _ => rfl

theorem Writable.toToml? (h : Writable s) : s.toToml? = some (Toml.sectionsText s.sections) := by
  refine if_pos ?_
  simp only [List.all_eq_true]
  exact fun x hx l hl => fits_of_readable ((h.readable x hx).lines l hl).2

/-! ### What is read -/

theorem record?_table {o : Origin} {known : List String} {es : Toml.Entries}
    (hknown : ∀ e ∈ es, e.1 ∈ known) (hdistinct : (es.map (·.1)).Nodup) :
    record? known (Toml.table o es) = some es := by
  have hfilter : (es.filter fun e => known.contains e.1) = es := by
    rw [List.filter_eq_self]
    exact fun e he => List.contains_iff_mem.2 (hknown e he)
  change Record.ofMembers? known es = _
  simp only [Record.ofMembers?, hfilter, if_pos hdistinct]

theorem readSection_table {β : Type} {o : Origin} {known : List String} {es : Toml.Entries}
    (read : Record Toml → Option β) (hknown : ∀ e ∈ es, e.1 ∈ known)
    (hdistinct : (es.map (·.1)).Nodup) :
    readSection known read (Toml.table o es) = read es := by
  rw [readSection, record?_table hknown hdistinct]
  rfl

theorem natural?_written {bound n : Nat} (h : n ≤ bound) :
    natural? bound (Toml.integer n) = some n := by
  change (if 0 ≤ (n : Int) ∧ (n : Int) ≤ bound then some (n : Int).toNat else none) = some n
  rw [if_pos ⟨Int.natCast_nonneg n, by exact_mod_cast h⟩, Int.toNat_natCast]

theorem uint16?_written (n : UInt16) : uint16? (Toml.integer n.toNat) = some n := by
  rw [uint16?, natural?_written (Nat.le_of_lt_succ n.toNat_lt)]
  exact congrArg some UInt16.ofNat_toNat

theorem uint32?_written (n : UInt32) : uint32? (Toml.integer n.toNat) = some n := by
  rw [uint32?, natural?_written (Nat.le_of_lt_succ n.toNat_lt)]
  exact congrArg some UInt32.ofNat_toNat

theorem uint64?_written (n : UInt64) : uint64? (Toml.integer n.toNat) = some n := by
  rw [uint64?, natural?_written (Nat.le_of_lt_succ n.toNat_lt)]
  exact congrArg some UInt64.ofNat_toNat

theorem mapM_text? (ts : List String) :
    (ts.map Toml.string).mapM text? = some ts := by
  induction ts with
  | nil => rfl
  | cons t ts ih =>
    rw [List.map_cons, List.mapM_cons, ih]
    rfl

theorem texts?_written (ts : List String) : texts? (Toml.array (ts.map .string)) = some ts :=
  mapM_text? ts

/-- A field that is there, in front of what is read behind it. -/
theorem bind_field {β γ : Type} {fields : Record Toml} {name : String} {read : Toml → Option β}
    {d b : β} {v : Toml} {f : β → Option γ} {c : Option γ} (hget : fields.get? name = some v)
    (hread : read v = some b) (h : f b = c) : field fields name read d >>= f = c := by
  rw [field, hget]
  change read v >>= f = c
  rw [hread]
  exact h

/-- A field that is not there. -/
theorem bind_field_none {β γ : Type} {fields : Record Toml} {name : String} {read : Toml → Option β}
    {d : β} {f : β → Option γ} {c : Option γ} (hget : fields.get? name = none) (h : f d = c) :
    field fields name read d >>= f = c := by
  rw [field, hget]
  exact h

theorem readLogging_written (d x : Logging) :
    readLogging d (Toml.table .header [("level", .string x.level), ("format", .string x.format)]) =
      some x := by
  rw [readLogging, readSection_table _ (by simp) (by simp)]
  refine bind_field rfl rfl ?_
  refine bind_field rfl rfl ?_
  rfl

theorem readListening_written (d x : Listening) (hd : d.advertiseAddress = none) :
    readListening d (Toml.table .header ((written [("bind_address", some (.text x.bindAddress)),
      ("advertise_address", x.advertiseAddress.map .text),
      ("max_frame_size", cell x.maxFrameSize)]).map fun l => (l.1, l.2.value))) = some x := by
  obtain ⟨bindAddress, advertiseAddress, maxFrameSize⟩ := x
  have hsize := uint64?_written maxFrameSize
  cases advertiseAddress with
  | none =>
    change readListening d (Toml.table .header [("bind_address", .string bindAddress),
      ("max_frame_size", .integer maxFrameSize.toNat)]) = _
    rw [readListening, readSection_table _ (by simp) (by simp)]
    refine bind_field rfl rfl ?_
    refine bind_field_none rfl ?_
    refine bind_field rfl hsize ?_
    rw [hd]
    rfl
  | some t =>
    change readListening d (Toml.table .header [("bind_address", .string bindAddress),
      ("advertise_address", .string t), ("max_frame_size", .integer maxFrameSize.toNat)]) = _
    rw [readListening, readSection_table _ (by simp) (by simp)]
    refine bind_field rfl rfl ?_
    refine bind_field rfl rfl ?_
    refine bind_field rfl hsize ?_
    rfl

theorem readQueueing_written (d x : Queueing) :
    readQueueing d (Toml.table .header [("endpoint", .string x.endpoint),
      ("publish_timeout_ms", .integer x.publishTimeoutMs.toNat)]) = some x := by
  rw [readQueueing, readSection_table _ (by simp) (by simp)]
  refine bind_field rfl rfl ?_
  refine bind_field rfl (uint64?_written _) ?_
  rfl

theorem readInvoking_written (d x : Invoking) :
    readInvoking d (Toml.table .header [("default_timeout_ms", .integer x.defaultTimeoutMs.toNat),
      ("sweep_interval_ms", .integer x.sweepIntervalMs.toNat)]) = some x := by
  rw [readInvoking, readSection_table _ (by simp) (by simp)]
  refine bind_field rfl (uint64?_written _) ?_
  refine bind_field rfl (uint64?_written _) ?_
  rfl

theorem readAdmission_written (d x : Admission) :
    readAdmission d (Toml.table .header [("base_delay_ms", .integer x.baseDelayMs.toNat),
      ("max_delay_ms", .integer x.maxDelayMs.toNat), ("jitter", .float x.jitter)]) = some x := by
  rw [readAdmission, readSection_table _ (by simp) (by simp)]
  refine bind_field rfl (uint64?_written _) ?_
  refine bind_field rfl (uint64?_written _) ?_
  refine bind_field rfl rfl ?_
  rfl

theorem readBuckets_written (d x : Buckets) :
    readBuckets d (Toml.table .header [("database_path", .string x.databasePath),
      ("default_limit", .integer x.defaultLimit.toNat),
      ("default_window_ms", .integer x.defaultWindowMs.toNat),
      ("busy_timeout_ms", .integer x.busyTimeoutMs.toNat)]) = some x := by
  rw [readBuckets, readSection_table _ (by simp) (by simp)]
  refine bind_field rfl rfl ?_
  refine bind_field rfl (uint32?_written _) ?_
  refine bind_field rfl (uint64?_written _) ?_
  refine bind_field rfl (uint64?_written _) ?_
  rfl

theorem readRoutes_written (d x : Routes) :
    readRoutes d (Toml.table .header
      [("major_parameters", .array (x.majorParameters.map .string))]) = some x := by
  rw [readRoutes, readSection_table _ (by simp) (by simp)]
  refine bind_field rfl (texts?_written _) ?_
  rfl

theorem readMetrics_written (d x : Metrics) :
    readMetrics d (Toml.table .header [("enabled", .bool x.enabled),
      ("port", .integer x.port.toNat)]) = some x := by
  rw [readMetrics, readSection_table _ (by simp) (by simp)]
  refine bind_field rfl rfl ?_
  refine bind_field rfl (uint16?_written _) ?_
  rfl

/-- **The document holds the settings.** -/
theorem ofDocument?_document (s : Settings) : ofDocument? s.document = some s := by
  have hnames : (s.sections.map Toml.Section.entry).map (·.1) = sectionNames := rfl
  rw [ofDocument?, document, readSection_table]
  · refine bind_field rfl (readLogging_written _ s.logging) ?_
    refine bind_field rfl (readListening_written _ s.listener rfl) ?_
    refine bind_field rfl (readQueueing_written _ s.queue) ?_
    refine bind_field rfl (readInvoking_written _ s.orchestrator) ?_
    refine bind_field rfl (readAdmission_written _ s.admission) ?_
    refine bind_field rfl (readBuckets_written _ s.buckets) ?_
    refine bind_field rfl (readRoutes_written _ s.routes) ?_
    refine bind_field rfl (readMetrics_written _ s.metrics) ?_
    rfl
  · exact fun e he => hnames ▸ List.mem_map_of_mem he
  · rw [hnames]
    decide

/-! ### Loading -/

theorem load_eq_ok_iff {file : Option Bytes} {env : String → Option String} :
    load file env = .ok s ↔
      ∃ d, file.elim (.ok standard) ofFile = .ok d ∧ d.override env = s ∧ s.Sound := by
  unfold load
  cases file.elim (.ok standard) ofFile with
  | error e =>
    simp only [bind, Except.bind]
    exact ⟨nofun, nofun⟩
  | ok d =>
    simp only [bind, Except.bind, Except.ok.injEq, exists_eq_left', ← check_eq_ok_iff]
    generalize d.override env = d'
    cases hcheck : d'.check with
    | error f =>
      refine ⟨nofun, ?_⟩
      rintro ⟨rfl, hok⟩
      rw [hcheck] at hok
      cases hok
    | ok =>
      refine ⟨?_, ?_⟩
      · intro h
        cases h
        exact ⟨rfl, hcheck⟩
      · rintro ⟨rfl, -⟩
        rfl

theorem ofFile_eq_ok_iff {content : Bytes} : ofFile content = .ok s ↔
    ∃ cs, Utf8.decode? content = some cs ∧ (Toml.ofChars? cs).bind ofDocument? = some s := by
  unfold ofFile
  cases Utf8.decode? content with
  | none => simp
  | some cs =>
    simp only [Option.some.injEq, exists_eq_left']
    cases (Toml.ofChars? cs).bind ofDocument? <;> simp

theorem narrow_ofFile {content : Bytes} (h : ofFile content = .ok s) : Narrow s := by
  obtain ⟨cs, -, h⟩ := ofFile_eq_ok_iff.1 h
  obtain ⟨v, hv, h⟩ := Option.bind_eq_some_iff.1 h
  exact ofDocument?_narrow (Toml.ofChars?_bounded hv) h

/-- No variable sets any of these numbers. -/
theorem Narrow.override (h : Narrow s) (env : String → Option String) : Narrow (s.override env) :=
  ⟨h.maxFrameSize, h.publishTimeout, h.sweepInterval, h.baseDelay, h.maxDelay, h.defaultWindow,
    h.busyTimeout⟩

theorem override_none (s : Settings) : s.override (fun _ => none) = s := rfl

variable {file : Option Bytes} {env : String → Option String}

theorem narrow_of_load (h : load file env = .ok s) : Narrow s := by
  obtain ⟨d, hd, rfl, -⟩ := load_eq_ok_iff.1 h
  refine Narrow.override ?_ env
  cases file with
  | none =>
    cases hd
    exact narrow_standard
  | some content => exact narrow_ofFile hd

/-- Settings that were loaded can be written, if TOML has the time for an invocation. -/
theorem writable_of_load (h : load file env = .ok s)
    (htimeout : s.orchestrator.defaultTimeoutMs.toNat < 2 ^ 63) : Writable s := by
  obtain ⟨_, -, -, hsound⟩ := load_eq_ok_iff.1 h
  exact ⟨narrow_of_load h, htimeout,
    Binary64.finite_of_mem_unit hsound.jitter.1 hsound.jitter.2⟩

/-- **Settings that were loaded can be written, and are loaded again from what was written**,
if TOML has the time for an invocation. -/
theorem load_toToml_of_load (h : load file env = .ok s)
    (htimeout : s.orchestrator.defaultTimeoutMs.toNat < 2 ^ 63) :
    ∃ text, s.toToml? = some text ∧
      load (some (Utf8.ofString text)) (fun _ => none) = .ok s := by
  have hwritable := writable_of_load h htimeout
  obtain ⟨_, -, -, hsound⟩ := load_eq_ok_iff.1 h
  refine ⟨_, hwritable.toToml?, load_eq_ok_iff.2 ⟨s, ?_, override_none s, hsound⟩⟩
  refine ofFile_eq_ok_iff.2 ⟨_, Utf8.decode?_encode _, ?_⟩
  rw [hwritable.ofChars?]
  exact ofDocument?_document s

/-- Nothing else can keep settings that were loaded from being written. -/
theorem toToml?_eq_none_iff (h : load file env = .ok s) :
    s.toToml? = none ↔ 2 ^ 63 ≤ s.orchestrator.defaultTimeoutMs.toNat := by
  refine ⟨fun hnone => ?_, fun hle => if_neg fun hall => ?_⟩
  · by_contra hlt
    rw [(writable_of_load h (Nat.lt_of_not_le hlt)).toToml?] at hnone
    cases hnone
  · have hsection : ("orchestrator", [("default_timeout_ms", cell s.orchestrator.defaultTimeoutMs),
        ("sweep_interval_ms", cell s.orchestrator.sweepIntervalMs)]) ∈ s.entries :=
      .tail _ (.tail _ (.tail _ (.head _)))
    have hline : ("default_timeout_ms", Cell.whole s.orchestrator.defaultTimeoutMs.toNat) ∈
        written [("default_timeout_ms", cell s.orchestrator.defaultTimeoutMs),
          ("sweep_interval_ms", cell s.orchestrator.sweepIntervalMs)] := mem_written.2 (.head _)
    simp only [List.all_eq_true] at hall
    have hfits := hall _ (List.mem_map.2 ⟨_, hsection, rfl⟩) _ hline
    rw [fits, decide_eq_true_eq] at hfits
    omega

/-- Settings with an address for others and a time for an invocation. -/
def announcing (address : Option String) (timeout : UInt64) : Settings :=
  { standard with
    listener := { standard.listener with advertiseAddress := address }
    orchestrator := { standard.orchestrator with defaultTimeoutMs := timeout } }

/-- An environment that says so. -/
def saying (address : Option String) (timeout : String) : String → Option String := fun name =>
  if name = variableStart ++ "DEFAULT_TIMEOUT_MS" then some timeout
  else if name = variableStart ++ "ADVERTISE_ADDRESS" then address
  else none

theorem saying_eq_none (address : Option String) (timeout : String) {name : String}
    (h : name ∉ ["DEFAULT_TIMEOUT_MS", "ADVERTISE_ADDRESS"]) :
    saying address timeout (variableStart ++ name) = none := by
  simp only [List.mem_cons, List.not_mem_nil, or_false, not_or] at h
  simp only [saying, String.append_right_inj, h.1, h.2, if_false]

theorem override_saying (address : Option String) {timeout : String} {n : UInt64}
    (h : Number.uint64? timeout = some n) :
    standard.override (saying address timeout) = announcing address n := by
  have htimeout : saying address timeout (variableStart ++ "DEFAULT_TIMEOUT_MS") = some timeout :=
    if_pos rfl
  have haddress : saying address timeout (variableStart ++ "ADVERTISE_ADDRESS") = address := by
    rw [saying, if_neg, if_pos rfl]
    rw [String.append_right_inj]
    decide
  have hnone {name : String} (h : name ∉ ["DEFAULT_TIMEOUT_MS", "ADVERTISE_ADDRESS"]) :
      saying address timeout (variableStart ++ name) = none := saying_eq_none address timeout h
  unfold override
  dsimp only
  rw [htimeout, haddress, hnone (by decide), hnone (by decide), hnone (by decide),
    hnone (by decide), hnone (by decide), hnone (by decide), hnone (by decide), Option.bind_some, h]
  cases address <;> rfl

theorem load_saying (address : Option String) {timeout : String} {n : UInt64}
    (h : Number.uint64? timeout = some n) (hn : n ≠ 0) :
    load none (saying address timeout) = .ok (announcing address n) :=
  load_eq_ok_iff.2 ⟨standard, rfl, override_saying address h,
    { sound_standard with defaultTimeout := hn }⟩

theorem uint64?_ofDigits {t : String} {n : Nat} (hsign : t.toList.head? ≠ some '+')
    (hvalue : Digits.value? t.toList = some n) (hn : n ≤ 18446744073709551615) :
    Number.uint64? t = some n.toUInt64 := by
  have hnatural : Number.natural? 18446744073709551615 t = some n := by
    unfold Number.natural?
    split
    · rename_i r hr
      exact absurd (congrArg List.head? hr) hsign
    · dsimp only
      rw [hvalue, Option.filter_some, if_pos (by simpa using hn)]
  rw [Number.uint64?, hnatural]
  rfl

theorem uint64?_most : Number.uint64? "9223372036854775807" = some 9223372036854775807 :=
  uint64?_ofDigits (n := 9223372036854775807) (by simp) (by simp only [String.reduceToList]; decide)
    (by norm_num)

theorem uint64?_more : Number.uint64? "9223372036854775808" = some 9223372036854775808 :=
  uint64?_ofDigits (n := 9223372036854775808) (by simp) (by simp only [String.reduceToList]; decide)
    (by norm_num)

/-- Settings with quotes of both kinds, three in a row, a backslash and an end of the line in a
text, and with the longest time that TOML has. -/
def hardest : Settings := announcing (some "\"\"\"'\\\n'''\x07") 9223372036854775807

theorem load_toToml_of_load_hardest :
    load none (saying hardest.listener.advertiseAddress "9223372036854775807") = .ok hardest ∧
      hardest.orchestrator.defaultTimeoutMs.toNat < 2 ^ 63 ∧
      ∃ text, hardest.toToml? = some text ∧
        load (some (Utf8.ofString text)) (fun _ => none) = .ok hardest := by
  have hload := load_saying hardest.listener.advertiseAddress uint64?_most (by decide)
  have htimeout : hardest.orchestrator.defaultTimeoutMs.toNat < 2 ^ 63 := by decide
  exact ⟨hload, htimeout, load_toToml_of_load hload htimeout⟩

/-- **A longer time cannot be written**, but a variable may set it. -/
theorem unwritten :
    load none (saying none "9223372036854775808") = .ok (announcing none 9223372036854775808) ∧
      (announcing none 9223372036854775808).toToml? = none := by
  have hload := load_saying none uint64?_more (by decide)
  exact ⟨hload, (toToml?_eq_none_iff hload).2 (by decide)⟩

end Sluice.Settings
