import Sluice.Logging.Event
import Sluice.Quota.Ledger
import Sluice.Quota.Memory
import Sluice.Settings.Check
import Sluice.Proofs.Quota.Backoff
import Sluice.Proofs.Quota.Window

/-!
# Settings that pass the check can be used

Each setting is checked in one place and used in another, which has a range of its own.

* `Settings.Sound` : what the check asks of settings; `Settings.check_eq_ok_iff` : it asks for that
  and for nothing else;
* `Settings.usable_of_check` : settings that pass it make a journal, a sweeper, a gate and a store
  of either kind, and a new bucket grants its first unit. A ledger opens if the time that it is to
  wait for others fits in 31 bits;
* `Settings.overstrains` : that time is not checked.
-/

namespace Sluice

/-! ### Names letter by letter -/

theorem Text.beq_map_toLower (a b : String) :
    (a == b.map Char.toLower) = (a.toList == b.toList.map Char.toLower) := by
  rw [Bool.eq_iff_iff, beq_iff_eq, beq_iff_eq, ← String.toList_inj, String.toList_map]

theorem Level.ofName?_eq (s : String) : ofName? s =
    all.find? fun l => l.name.toList.map Char.toLower == s.toList.map Char.toLower := by
  unfold ofName? lowerName
  simp only [Text.beq_map_toLower, String.toList_map]

theorem Shape.ofName?_eq (s : String) :
    ofName? s = all.find? fun f => f.name.toList == s.toList.map Char.toLower := by
  unfold ofName?
  simp only [Text.beq_map_toLower]

namespace Settings

theorem isHttp_iff (s : String) :
    isHttp s = true ↔ "http://".toList <+: s.toList ∨ "https://".toList <+: s.toList := by
  rw [isHttp, Bool.or_eq_true, String.startsWith_string_iff, String.startsWith_string_iff]

/-! ### What the check asks -/

/-- What the check asks of settings. -/
structure Sound (s : Settings) : Prop where
  level : ∃ l, Level.ofName? s.logging.level = some l
  format : ∃ f, Shape.ofName? s.logging.format = some f
  bindAddress : s.listener.bindAddress.isEmpty = false
  maxFrameSize : s.listener.maxFrameSize ≠ 0
  endpoint : isHttp s.queue.endpoint = true
  publishTimeout : s.queue.publishTimeoutMs ≠ 0
  defaultTimeout : s.orchestrator.defaultTimeoutMs ≠ 0
  sweepInterval : s.orchestrator.sweepIntervalMs ≠ 0
  baseDelay : s.admission.baseDelayMs ≠ 0
  maxDelay : s.admission.baseDelayMs ≤ s.admission.maxDelayMs
  jitter : 0.0 ≤ s.admission.jitter ∧ s.admission.jitter ≤ 1.0
  defaultLimit : s.buckets.defaultLimit ≠ 0
  defaultWindow : s.buckets.defaultWindowMs ≠ 0
  metricsPort : s.metrics.enabled = false ∨ s.metrics.port ≠ 0

theorem check_eq_ok_iff_faults {s : Settings} : s.check = .ok () ↔ s.faults = [] := by
  unfold check
  cases s.faults <;> simp

/-- **The check asks for sound settings and for nothing else.** -/
theorem check_eq_ok_iff {s : Settings} : s.check = .ok () ↔ s.Sound := by
  have hneed (p : Bool) (f : Fault) : (if p then ([] : List Fault) else [f]) = [] ↔ p = true := by
    cases p <;> simp
  rw [check_eq_ok_iff_faults]
  simp only [faults, List.append_eq_nil_iff, hneed]
  simp only [Option.isSome_iff_exists, Bool.not_eq_true', bne_iff_ne, ne_eq, decide_eq_true_eq,
    Bool.and_eq_true, Bool.or_eq_true, and_assoc]
  constructor
  · rintro ⟨h1, h2, h3, h4, h5, h6, h7, h8, h9, h10, h11, h12, h13, h14, h15⟩
    exact ⟨h1, h2, h3, h4, h5, h6, h7, h8, h9, h10, ⟨h11, h12⟩, h13, h14, h15⟩
  · rintro ⟨h1, h2, h3, h4, h5, h6, h7, h8, h9, h10, ⟨h11, h12⟩, h13, h14, h15⟩
    exact ⟨h1, h2, h3, h4, h5, h6, h7, h8, h9, h10, h11, h12, h13, h14, h15⟩

theorem sound_standard : standard.Sound where
  level := ⟨.info, by rw [Level.ofName?_eq]; decide⟩
  format := ⟨.compact, by rw [Shape.ofName?_eq]; decide⟩
  bindAddress := by decide
  maxFrameSize := by decide
  endpoint := by rw [isHttp_iff]; decide
  publishTimeout := by decide
  defaultTimeout := by decide
  sweepInterval := by decide
  baseDelay := by decide
  maxDelay := by decide
  jitter := by
    change (0.0 : Float) ≤ 0.5 ∧ (0.5 : Float) ≤ 1.0
    decide
  defaultLimit := by decide
  defaultWindow := by decide
  metricsPort := by decide

/-! ### What is made of them -/

/-- A level with a name is read, also where numbers are read for levels. -/
theorem level?_of_ofName? {s : Settings} {l : Level}
    (h : Level.ofName? s.logging.level = some l) : ∃ l, s.level? = some l := by
  unfold level? Level.parse?
  cases (Number.uint64? s.logging.level).bind fun n => Level.ofNumber? n.toNat with
  | none => exact ⟨l, h⟩
  | some l' => exact ⟨l', rfl⟩

theorem open?_eq_ok {level shape : String} {l : Level} {f : Shape}
    (hlevel : Level.parse? level = some l) (hshape : Shape.ofName? shape = some f) (verbose : Bool)
    (directives : String) : ∃ j, Journal.open? level shape verbose directives = .ok j := by
  unfold Journal.open?
  rw [hlevel, hshape]
  cases verbose <;> exact ⟨_, rfl⟩

theorem one_le_of_ne_zero {n : UInt32} (h : n ≠ 0) : 1 ≤ n := by
  rw [UInt32.le_iff_toNat_le]
  exact Nat.one_le_iff_ne_zero.2 fun h0 => h (UInt32.toNat_inj.1 h0)

theorem ofMillis_one_le {ms : UInt64} (h : ms ≠ 0) : Duration.ofMillis 1 ≤ .ofMillis ms := by
  rw [Duration.le_def, Duration.nanos_ofMillis, Duration.nanos_ofMillis]
  have : ms.toNat ≠ 0 := fun h0 => h (UInt64.toNat_inj.1 h0)
  have hone : (1 : UInt64).toNat = 1 := rfl
  omega

theorem ofMillis_le {a b : UInt64} (h : a ≤ b) : Duration.ofMillis a ≤ .ofMillis b := by
  rw [Duration.le_def, Duration.nanos_ofMillis, Duration.nanos_ofMillis]
  exact Nat.mul_le_mul_right _ (UInt64.le_iff_toNat_le.1 h)

/-- **A new bucket grants its first unit**, whatever the clock says. -/
theorem take_fresh {limits : Limits} (h : 1 ≤ limits.limit) (id : String) (now : Timestamp) :
    ((Bucket.fresh id limits now).take 1 now).1 = .granted (limits.limit - 1) := by
  have hleft : (Bucket.fresh id limits now).left now = limits.limit := by
    unfold Bucket.left
    split_ifs <;> rfl
  rw [Bucket.take_fst, hleft, if_pos h]

theorem memory_take_new {limits : Limits} (h : 1 ≤ limits.limit) (now : Timestamp) {id : String}
    {c : Catalog Bucket} (hnew : c.find? id = none) :
    ((Memory.store limits).take now id 1 c).1 = .ok (.granted (limits.limit - 1)) := by
  change Except.ok ((Memory.lookup limits now id c).take 1 now).1 = _
  rw [Memory.lookup, hnew, Option.getD_none, take_fresh h]

theorem ledger_take_new {limits : Limits} (h : 1 ≤ limits.limit) (now : Timestamp) {id : String}
    {rows : Catalog Row} (hnew : rows.find? id = none) :
    ((Ledger.store limits).take now id 1 rows).1 = .ok (.granted (limits.limit - 1)) := by
  rw [← take_fresh h id now]
  simp only [Ledger.store, Ledger.lookup, hnew]
  rfl

theorem enter_ne_overstrained {wait : Duration} (h : wait.millis ≤ Ledger.longestWait)
    (p : Ledger.Place) : p.enter wait ≠ .overstrained := by
  cases p <;> simp [Ledger.Place.enter, Nat.not_lt.2 h]

/-- **Settings that pass the check can be used.** Their journal opens with whatever directives,
sweeps are some time apart, the first sleep lasts a millisecond at least and not longer than the
longest one, and a bucket that a store of either kind has not seen grants its first unit. No ledger
breaks down over how long it is to wait for others, as long as that time fits in 31 bits. -/
theorem usable_of_check {s : Settings} (h : s.check = .ok ()) :
    ((∃ l, s.level? = some l) ∧ (∃ f, Shape.ofName? s.logging.format = some f) ∧
      ∀ verbose directives, ∃ j,
        Journal.open? s.logging.level s.logging.format verbose directives = .ok j) ∧
    Duration.zero < s.sweepInterval ∧
    (.ofMillis 1 ≤ s.backoff.base ∧ s.backoff.base ≤ s.backoff.longest) ∧
    (1 ≤ s.limits.limit ∧ .ofMillis 1 ≤ s.limits.window) ∧
    (∀ now id,
      (∀ c : Catalog Bucket, c.find? id = none →
        ((Memory.store s.limits).take now id 1 c).1 = .ok (.granted (s.limits.limit - 1))) ∧
      ∀ rows : Catalog Row, rows.find? id = none →
        ((Ledger.store s.limits).take now id 1 rows).1 = .ok (.granted (s.limits.limit - 1))) ∧
    (s.buckets.busyTimeoutMs.toNat < 2 ^ 31 →
      ∀ p : Ledger.Place, p.enter s.busyTimeout ≠ .overstrained) := by
  have hs := check_eq_ok_iff.1 h
  obtain ⟨l, hname⟩ := hs.level
  obtain ⟨l', hlevel⟩ := level?_of_ofName? hname
  obtain ⟨f, hformat⟩ := hs.format
  have hlimit : 1 ≤ s.limits.limit := one_le_of_ne_zero hs.defaultLimit
  refine ⟨⟨⟨l', hlevel⟩, ⟨f, hformat⟩, open?_eq_ok hlevel hformat⟩, ?_, ?_, ?_, ?_, ?_⟩
  · exact Nat.lt_of_lt_of_le (by decide) (ofMillis_one_le hs.sweepInterval)
  · exact ⟨ofMillis_one_le hs.baseDelay, ofMillis_le hs.maxDelay⟩
  · exact ⟨hlimit, ofMillis_one_le hs.defaultWindow⟩
  · exact fun now id =>
      ⟨fun c => memory_take_new hlimit now, fun rows => ledger_take_new hlimit now⟩
  · intro hbusy p
    refine enter_ne_overstrained ?_ p
    change s.buckets.busyTimeoutMs.toNat * 1000000 / 1000000 ≤ 2147483647
    omega

/-- Settings at the ends of what the check lets through. -/
def extreme : Settings :=
  { standard with
    logging := ⟨"DeBuG", "PRETTY"⟩
    orchestrator := ⟨1, 1⟩
    admission := ⟨18446744073709551615, 18446744073709551615, 1.0⟩
    buckets := ⟨"b", 1, 18446744073709551615, 2147483647⟩ }

theorem sound_extreme : extreme.Sound :=
  { sound_standard with
    level := ⟨.debug, by rw [Level.ofName?_eq]; decide⟩
    format := ⟨.pretty, by rw [Shape.ofName?_eq]; decide⟩
    defaultTimeout := by decide
    sweepInterval := by decide
    baseDelay := by decide
    maxDelay := by decide
    jitter := by
      change (0.0 : Float) ≤ 1.0 ∧ (1.0 : Float) ≤ 1.0
      decide
    defaultLimit := by decide
    defaultWindow := by decide }

/-- The only unit of the longest window is granted at the end of the calendar. -/
theorem usable_of_check_extreme :
    extreme.check = .ok () ∧ extreme.buckets.busyTimeoutMs.toNat < 2 ^ 31 ∧
      ((Ledger.store extreme.limits).take .latest "GET /" 1 .empty).1 = .ok (.granted 0) ∧
      Ledger.Place.file.enter extreme.busyTimeout ≠ .overstrained := by
  have hcheck : extreme.check = .ok () := check_eq_ok_iff.2 sound_extreme
  have hbusy : extreme.buckets.busyTimeoutMs.toNat < 2 ^ 31 := by decide
  obtain ⟨-, -, -, -, htake, henter⟩ := usable_of_check hcheck
  exact ⟨hcheck, hbusy, (htake .latest "GET /").2 .empty rfl, henter hbusy .file⟩

/-- **Nothing checks how long a ledger is to wait for others**: with a wait of `2 ^ 31` milliseconds
settings pass, and whoever opens the ledger breaks down. -/
theorem overstrains : ∃ s : Settings, s.check = .ok () ∧
    ¬ s.buckets.busyTimeoutMs.toNat < 2 ^ 31 ∧
      Ledger.Place.file.enter s.busyTimeout = .overstrained := by
  refine ⟨{ standard with buckets := { standard.buckets with busyTimeoutMs := 2147483648 } },
    check_eq_ok_iff.2 { sound_standard with }, ?_, ?_⟩
  · decide
  · decide

end Settings

end Sluice
