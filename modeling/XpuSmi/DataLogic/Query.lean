import Mathlib.Data.Finset.Card
import XpuSmi.DataLogic.MeasurementData

/-!
# The query layer's state, and the loop every query writes with

The `DataLogic` queries read a device's properties and topology through the device manager,
the enabled metrics through the configuration, and samples through the data-handler manager.
`Core` gathers what one query reads; every query is a function of it.

Each query fills the caller's `dataList` row by row. The multi-entity queries and
`getMetricsStatistics` store a row only after the check `if (index >= *count) return
XPUM_BUFFER_TOO_SMALL;`; `writeEntries` is that loop, with a per-entry step that skips an
entry, ends the query with an error code, or yields the row to store. Its lemmas say what
all of them inherit:

* `writeEntries_length_le` — no row is stored at an index at or past `*count`;
* `writeEntries_of_complete` — a loop that runs to its end stored every accepted row;
* `writeEntries_code` — a loop ends with `XPUM_BUFFER_TOO_SMALL` only when the accepted rows
  do not fit, and with any other code only when a step ends it so.

The rows of a `QueryResult` are listed in the order the query stores them; the `i`-th goes
to `dataList[i]`. The loop indices are `uint32_t` in the code; behind the check they never
reach `*count`, so they are `Nat` here.
-/

namespace XpuSmi

/-- `FabricThroughputInfo`, what `getFabricThroughputInfo` fills in for a fabric id. -/
structure FabricThroughputInfo where
  attachId : Nat
  remoteFabricId : Nat
  remoteAttachId : Nat
  type : FabricThroughputType
  deriving DecidableEq, Repr

/-- A device as the queries see it: its properties, capabilities and topology.
`numberOfSubdevice` is `XPUM_DEVICE_PROPERTY_INTERNAL_NUMBER_OF_SUBDEVICE` as stored into the
`uint32_t num_subdevice`; `engineIndex` is `getEngineIndex` (`UINT32_MAX` for a handle it
does not know); `fabricThroughputInfo` is `getFabricThroughputInfo` (`none` when it returns
`false`). -/
structure Device where
  numberOfSubdevice : UInt32 := 0
  pciBdfAddress : String := ""
  capabilities : List DeviceCapability := []
  engineCount : UInt32 := 0
  engineIndex : Nat → UInt32 := fun _ => uint32Max
  fabricThroughputInfoCount : UInt32 := 0
  fabricThroughputInfo : Nat → Option FabricThroughputInfo := fun _ => none

/-- What one `DataLogic` query reads. `getDevice` is `DeviceManager::getDevice` on the decimal
device id; `getDeviceIDByFabricID` is the device manager's lookup of a remote fabric id,
`none` for its empty string and `some id` for the string `std::stoi` reads as `id`;
`enabledMetrics` is `Configuration::getEnabledMetrics()`; `latestData` and
`latestStatistics` are the handler manager's `getLatestData` and `getLatestStatistics`;
`statisticsRetries` are the answers `getLatestStatistics` gives to the polls of the 30-second
retry of `getMetricsStatistics`, in order; `pvcIdlePowers` is
`GPUDeviceStub::loadPVCIdlePowers(bdf, false)`; the timestamps are the session bookkeeping
(`getStatsTimestamp` and its engine and fabric variants) and `Utility::getCurrentTime()`.
The defaults are a core with no device, nothing enabled and no samples. -/
structure Core where
  getDevice : String → Option Device := fun _ => none
  getDeviceIDByFabricID : Nat → Option Int := fun _ => none
  enabledMetrics : StdSet MeasurementType := ⟨[], .nil⟩
  latestData : MeasurementType → String → Option MeasurementData := fun _ _ => none
  latestStatistics : MeasurementType → String → Nat → Option MeasurementData :=
    fun _ _ _ => none
  statisticsRetries : MeasurementType → String → Nat → List (Option MeasurementData) :=
    fun _ _ _ => []
  pvcIdlePowers : String → MeasurementData := fun _ => {}
  statsTimestamp : Nat → Int → UInt64Val := fun _ _ => 0
  engineStatsTimestamp : Nat → Int → UInt64Val := fun _ _ => 0
  fabricStatsTimestamp : Nat → Int → UInt64Val := fun _ _ => 0
  currentTime : UInt64Val := 0

/-- What a query leaves its caller: the return code, the value left in `*count`, the rows it
stored, in order, and `(*begin, *end)` when it sets them. -/
structure QueryResult (Row : Type) where
  result : XpumResult
  count : UInt32
  rows : List Row := []
  window : Option (UInt64Val × UInt64Val) := none

/-! ## `uint32_t` arithmetic -/

@[simp] theorem uint32_toNat_add_one (n : UInt32) : (n + 1).toNat = (n.toNat + 1) % 2 ^ 32 := by
  simp [UInt32.add_def, UInt32.toNat]

@[simp] theorem uint32_toNat_ofNat (m : Nat) : (UInt32.ofNat m).toNat = m % 2 ^ 32 := by
  simp [UInt32.ofNat, UInt32.toNat]

theorem uint32_ofNat_toNat_add_one (n : UInt32) : UInt32.ofNat (n.toNat + 1) = n + 1 :=
  UInt32.toNat.inj (by simp)

/-- An answer a query gives before its write loop: no row stored, never
`XPUM_BUFFER_TOO_SMALL`, and `*count = 0` when it is `XPUM_OK`. -/
structure QueryResult.Early {Row : Type} (r : QueryResult Row) : Prop where
  rows_eq : r.rows = []
  ne_bufferTooSmall : r.result ≠ .bufferTooSmall
  count_of_ok : r.result = .ok → r.count = 0

namespace DataLogic

/-! ## The capability filter -/

/-- The erase-while-iterating loop over `metric_types`: a metric stays when some capability of
the device is `capabilityFromMeasurementType` of it. -/
def eraseUnsupported (capabilities : List DeviceCapability) :
    List MeasurementType → List MeasurementType
  | [] => []
  | metric :: rest =>
    if capabilities.any (· == Utility.capabilityFromMeasurementType metric) then
      metric :: eraseUnsupported capabilities rest
    else eraseUnsupported capabilities rest

/-- The loop keeps exactly the metrics some capability stands for. -/
theorem eraseUnsupported_eq_filter (capabilities : List DeviceCapability)
    (metrics : List MeasurementType) :
    eraseUnsupported capabilities metrics =
      metrics.filter fun m => capabilities.any (· == Utility.capabilityFromMeasurementType m) := by
  induction metrics with
  | nil => rfl
  | cons metric rest ih => simp only [eraseUnsupported, List.filter_cons, ih]

@[simp] theorem mem_eraseUnsupported {capabilities : List DeviceCapability}
    {metrics : List MeasurementType} {m : MeasurementType} :
    m ∈ eraseUnsupported capabilities metrics ↔
      m ∈ metrics ∧ Utility.capabilityFromMeasurementType m ∈ capabilities := by
  simp [eraseUnsupported_eq_filter]

/-! ## The metric check of the multi-entity queries -/

/-- The check each multi-entity query makes of its metric `type`: `metric_types.find(type)`
before the capability filter (`XPUM_METRIC_NOT_ENABLED` when it fails) and after it
(`XPUM_METRIC_NOT_SUPPORTED`); `none` when the query goes on. -/
def checkMetric (dev : Device) (enabledMetrics : StdSet MeasurementType)
    (type : MeasurementType) : Option XpumResult :=
  if type ∉ enabledMetrics.elems then some .metricNotEnabled
  else if type ∉ eraseUnsupported dev.capabilities enabledMetrics.elems then
    some .metricNotSupported
  else none

/-- The check in terms of the configuration and the capabilities: a metric that is not
enabled is reported so, and an enabled one whose capability the device lacks is reported
unsupported. -/
theorem checkMetric_eq (dev : Device) (enabledMetrics : StdSet MeasurementType)
    (type : MeasurementType) :
    checkMetric dev enabledMetrics type =
      if type ∉ enabledMetrics.elems then some .metricNotEnabled
      else if Utility.capabilityFromMeasurementType type ∉ dev.capabilities then
        some .metricNotSupported
      else none := by
  by_cases h : type ∈ enabledMetrics.elems <;> simp [checkMetric, h]

theorem checkMetric_cases {dev : Device} {enabledMetrics : StdSet MeasurementType}
    {type : MeasurementType} {r : XpumResult} (h : checkMetric dev enabledMetrics type = some r) :
    r = .metricNotEnabled ∨ r = .metricNotSupported := by
  unfold checkMetric at h
  split_ifs at h <;> cases h <;> simp

/-- A query that stops at the metric check stops early. -/
theorem checkMetric_early {Row : Type} {dev : Device} {enabledMetrics : StdSet MeasurementType}
    {type : MeasurementType} {r : XpumResult} (h : checkMetric dev enabledMetrics type = some r)
    (window : Option (UInt64Val × UInt64Val)) :
    ({ result := r, count := 0, window } : QueryResult Row).Early := by
  refine ⟨rfl, ?_, fun _ => rfl⟩
  rcases checkMetric_cases h with rfl | rfl <;> simp

/-! ## The check-then-store loop -/

/-- The write loop of a query: over the entries in order, `step` skips an entry (`none`), ends
the query with a code (`some (.error r)`), or yields a row, stored at `dataList[index]` after
`if (index >= *count) return XPUM_BUFFER_TOO_SMALL;`. Returns the rows stored and the code
the loop returned with, `none` when it ran to its end. -/
def writeEntries {α Row : Type} (count : Nat) (step : α → Option (Except XpumResult Row)) :
    List α → Nat → List Row × Option XpumResult
  | [], _ => ([], none)
  | e :: rest, index =>
    match step e with
    | none => writeEntries count step rest index
    | some (.error r) => ([], some r)
    | some (.ok row) =>
      if index ≥ count then ([], some .bufferTooSmall)
      else
        let r := writeEntries count step rest (index + 1)
        (row :: r.1, r.2)

/-- The end of a checked query: after a loop that ran to its end, `*count = index` and
`XPUM_OK`; after one that returned early, its code, with `*count` as it was. -/
def finishWrite {Row : Type} (count : UInt32) (loop : List Row × Option XpumResult)
    (window : Option (UInt64Val × UInt64Val)) : QueryResult Row :=
  match loop with
  | (rows, none) => { result := .ok, count := UInt32.ofNat rows.length, rows, window }
  | (rows, some r) => { result := r, count, rows, window }

section FinishWrite

variable {Row : Type} {count : UInt32} {loop : List Row × Option XpumResult}
  {window : Option (UInt64Val × UInt64Val)}

@[simp] theorem finishWrite_rows : (finishWrite count loop window).rows = loop.1 := by
  obtain ⟨rows, _ | r⟩ := loop <;> rfl

@[simp] theorem finishWrite_result : (finishWrite count loop window).result = loop.2.getD .ok := by
  obtain ⟨rows, _ | r⟩ := loop <;> rfl

@[simp] theorem finishWrite_window : (finishWrite count loop window).window = window := by
  obtain ⟨rows, _ | r⟩ := loop <;> rfl

/-- A query that returns `XPUM_OK` after a loop that stored fewer than 2^32 rows, and that no
step ended with `XPUM_OK`, reports the number of rows it stored. -/
theorem finishWrite_count_toNat (hcode : loop.2 ≠ some .ok) (hlen : loop.1.length < 2 ^ 32)
    (h : (finishWrite count loop window).result = .ok) :
    (finishWrite count loop window).count.toNat = loop.1.length := by
  obtain ⟨rows, _ | r⟩ := loop
  · simpa [finishWrite] using Nat.mod_eq_of_lt hlen
  · simp only [finishWrite_result, Option.getD_some] at h
    exact absurd (congrArg some h) hcode

end FinishWrite

variable {α Row : Type} {count : Nat} {step : α → Option (Except XpumResult Row)}

/-- The rows a step accepts. -/
def acceptedRows (step : α → Option (Except XpumResult Row)) (entries : List α) : List Row :=
  entries.filterMap fun e => (step e).bind Except.toOption

/-- A step that yields a row only for entries with property `p` accepts at most as many
rows as there are such entries. -/
theorem length_acceptedRows_le {p : α → Bool} (hp : ∀ e, (step e).isSome → p e)
    (entries : List α) : (acceptedRows step entries).length ≤ (entries.filter p).length := by
  rw [acceptedRows, List.length_filterMap_eq_countP, ← List.countP_eq_length_filter]
  exact List.countP_mono_left fun e _ h => hp e (by cases hs : step e <;> simp_all)

theorem writeEntries_length_le (entries : List α) {index : Nat} (h : index ≤ count) :
    (writeEntries count step entries index).1.length + index ≤ count := by
  induction entries generalizing index with
  | nil => simpa [writeEntries]
  | cons e rest ih =>
    unfold writeEntries
    split
    · exact ih h
    · simpa
    · split
      · simpa
      · have : (writeEntries count step rest (index + 1)).1.length + (index + 1) ≤ count :=
          ih (by omega)
        simp only [List.length_cons]; omega

/-- With every row accepted, the loop stores the first `*count - index` rows and returns
`XPUM_BUFFER_TOO_SMALL` exactly when they do not all fit. -/
theorem writeEntries_ok (rows : List Row) {index : Nat} (h : index ≤ count) :
    writeEntries count (fun row => some (.ok row)) rows index =
      (rows.take (count - index),
        if rows.length + index ≤ count then none else some .bufferTooSmall) := by
  induction rows generalizing index with
  | nil => simp [writeEntries, h]
  | cons row rest ih =>
    simp only [writeEntries]
    split
    · have hc : count - index = 0 := by omega
      simp only [hc, List.take_zero, List.length_cons, Prod.mk.injEq, true_and]
      rw [if_neg (by omega)]
    · rw [ih (by omega)]
      obtain ⟨k, hk⟩ : ∃ k, count - index = k + 1 := ⟨count - index - 1, by omega⟩
      simp only [hk, List.take_succ_cons, List.length_cons, Prod.mk.injEq, true_and]
      exact ⟨by rw [show count - (index + 1) = k by omega],
        by simp only [show rest.length + 1 + index = rest.length + (index + 1) by omega]⟩

theorem writeEntries_of_complete {entries : List α} {index : Nat}
    (h : (writeEntries count step entries index).2 = none) :
    (writeEntries count step entries index).1 = acceptedRows step entries ∧
      ∀ e ∈ entries, ∀ r, step e ≠ some (.error r) := by
  induction entries generalizing index with
  | nil => simp [writeEntries, acceptedRows]
  | cons e rest ih =>
    unfold writeEntries at h ⊢
    split at h <;> rename_i hs
    · obtain ⟨h1, h2⟩ := ih h
      refine ⟨by simp [acceptedRows, List.filterMap_cons, hs, h1], ?_⟩
      simp only [List.mem_cons, forall_eq_or_imp]
      exact ⟨by simp [hs], h2⟩
    · cases h
    · split at h
      · cases h
      · obtain ⟨h1, h2⟩ := ih h
        simp only [hs, ite_false, *] at *
        refine ⟨by simp [acceptedRows, List.filterMap_cons, hs, h1, Except.toOption], ?_⟩
        simp only [List.mem_cons, forall_eq_or_imp]
        exact ⟨by simp [hs], h2⟩

/-- The loop returns early with `XPUM_BUFFER_TOO_SMALL` when more rows are accepted than fit,
and otherwise only with a code a step ended it with. -/
theorem writeEntries_code {entries : List α} {index : Nat} {r : XpumResult}
    (h : (writeEntries count step entries index).2 = some r) :
    (r = .bufferTooSmall ∧ count < (acceptedRows step entries).length + index) ∨
      ∃ e ∈ entries, step e = some (.error r) := by
  induction entries generalizing index with
  | nil => simp [writeEntries] at h
  | cons e rest ih =>
    unfold writeEntries at h
    split at h <;> rename_i hs
    · rcases ih h with ⟨rfl, hlt⟩ | ⟨e', he', hse⟩
      · exact .inl ⟨rfl, by simpa [acceptedRows, List.filterMap_cons, hs] using hlt⟩
      · exact .inr ⟨e', List.mem_cons_of_mem _ he', hse⟩
    · cases h; exact .inr ⟨e, List.mem_cons_self _ _, hs⟩
    · have hlen :
          (acceptedRows step (e :: rest)).length = (acceptedRows step rest).length + 1 := by
        simp [acceptedRows, List.filterMap_cons, hs, Except.toOption]
      split at h
      · cases h; exact .inl ⟨rfl, by omega⟩
      · rcases ih h with ⟨rfl, hlt⟩ | ⟨e', he', hse⟩
        · exact .inl ⟨rfl, by omega⟩
        · exact .inr ⟨e', List.mem_cons_of_mem _ he', hse⟩

/-- A checked query whose steps never end it with `XPUM_OK` themselves stored, when it returns
`XPUM_OK`, every row its steps accept, in entry order. -/
theorem finishWrite_rows_of_ok {c : UInt32} {entries : List α}
    {window : Option (UInt64Val × UInt64Val)} (hstep : ∀ e, step e ≠ some (.error .ok))
    (h : (finishWrite c (writeEntries c.toNat step entries 0) window).result = .ok) :
    (finishWrite c (writeEntries c.toNat step entries 0) window).rows =
      acceptedRows step entries := by
  rw [finishWrite_result] at h
  rw [finishWrite_rows]
  cases hcode : (writeEntries c.toNat step entries 0).2 with
  | none => exact (writeEntries_of_complete hcode).1
  | some r =>
    rw [hcode, Option.getD_some] at h
    subst h
    rcases writeEntries_code hcode with ⟨h, -⟩ | ⟨e, -, he⟩
    · cases h
    · exact absurd he (hstep e)

/-- A step that yields the row `f e` for the entries with property `p` and skips the others
accepts the rows of those entries, in order. -/
theorem acceptedRows_of_guard {p : α → Bool} {f : α → Row}
    (hstep : ∀ e, step e = if p e then some (.ok (f e)) else none) (entries : List α) :
    acceptedRows step entries = (entries.filter p).map f := by
  induction entries with
  | nil => rfl
  | cons e rest ih =>
    rw [acceptedRows, List.filterMap_cons, hstep, List.filter_cons]
    cases p e
    · exact ih
    · exact congrArg (f e :: ·) ih

/-- A checked query whose steps never end it with `XPUM_BUFFER_TOO_SMALL` themselves returns
that code only when more rows are accepted than fit. -/
theorem finishWrite_ne_bufferTooSmall {c : UInt32} {entries : List α}
    {window : Option (UInt64Val × UInt64Val)}
    (hstep : ∀ e, step e ≠ some (.error .bufferTooSmall))
    (hfit : (acceptedRows step entries).length ≤ c.toNat) :
    (finishWrite c (writeEntries c.toNat step entries 0) window).result ≠ .bufferTooSmall := by
  intro hr
  rw [finishWrite_result] at hr
  cases h : (writeEntries c.toNat step entries 0).2 with
  | none => rw [h] at hr; cases hr
  | some r =>
    rw [h, Option.getD_some] at hr
    subst hr
    rcases writeEntries_code h with ⟨-, hlt⟩ | ⟨e, -, he⟩
    · omega
    · exact hstep e he

/-- A loop whose steps never end it themselves, when it returns early, has filled every slot
from `index` to `*count`. -/
theorem writeEntries_fills_of_code {entries : List α} {index : Nat} {r : XpumResult}
    (hstep : ∀ e r, step e ≠ some (.error r)) (hidx : index ≤ count)
    (h : (writeEntries count step entries index).2 = some r) :
    (writeEntries count step entries index).1.length + index = count := by
  induction entries generalizing index with
  | nil => simp [writeEntries] at h
  | cons e rest ih =>
    unfold writeEntries at h ⊢
    split at h <;> rename_i hs
    · exact ih hidx h
    · exact absurd hs (hstep _ _)
    · by_cases hc : index ≥ count
      · simp only [hc, ite_true, List.length_nil]; omega
      · simp only [hc, ite_false] at h ⊢
        have := ih (by omega) h
        simp only [List.length_cons]; omega

/-- A checked query whose steps never end it themselves leaves in `*count` the number of rows
it stored, however its loop ends, and stores no more than `*count` allowed. -/
theorem finishWrite_count_eq_length {c : UInt32} {entries : List α}
    {window : Option (UInt64Val × UInt64Val)} (hstep : ∀ e r, step e ≠ some (.error r)) :
    (finishWrite c (writeEntries c.toNat step entries 0) window).count.toNat =
        (writeEntries c.toNat step entries 0).1.length ∧
      (writeEntries c.toNat step entries 0).1.length ≤ c.toNat := by
  have hle := @writeEntries_length_le _ _ c.toNat step entries 0 (Nat.zero_le _)
  refine ⟨?_, by omega⟩
  cases h : (writeEntries c.toNat step entries 0).2 with
  | none =>
    have hc : c.toNat < 2 ^ 32 := c.toNat_lt_size
    refine finishWrite_count_toNat (by rw [h]; simp) (by omega) ?_
    rw [finishWrite_result, h]; rfl
  | some r =>
    have hfill := writeEntries_fills_of_code hstep (Nat.zero_le _) h
    generalize writeEntries c.toNat step entries 0 = loop at h hfill ⊢
    obtain ⟨rows, code⟩ := loop
    dsimp only at h hfill
    subst h
    simp only [finishWrite]
    omega

end DataLogic

end XpuSmi
