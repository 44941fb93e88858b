import Mathlib.Data.List.Sort
import XpuSmi.DataLogic.Query

/-!
# `getMetricsStatistics` and `getLatestMetrics`

Both queries answer with one row for the device and one row per tile. They filter the enabled
metrics by the device's capabilities, collect one sample per remaining metric (engine
utilization and fabric throughput excepted: those have queries of their own), and build row 0
from the samples' device-level data and row `i + 1` from their tile-`i` data.

`getMetricsStatistics` follows the two-call protocol: with `dataList == nullptr` it reports
`num_subdevice + 1` in `*count`, a `uint32_t` sum; with a buffer it stores each row after the
check against the caller's `*count`. `getLatestMetrics` sets `*count` (an `int`) to
`num_subdevice + 1` before it looks at `dataList`, never reads the caller's count, and stores
every row.

* `getMetricsStatistics_sizing` and `getMetricsStatistics_data` — the two calls in closed form;
* `getLatestMetrics_rows_length` — `getLatestMetrics` stores `num_subdevice + 1` rows whatever
  the caller's count;
* `metricRows_report_supported_metrics` — what the rows hold: one entry per enabled, supported
  metric with data for the row's scope, in ascending metric order, and nothing else; each
  entry's type, scale and values as the row-building loops set them;
* `eq_of_sorted_of_mem_iff` — the metrics of a row are determined by which metrics qualify,
  so the rows of a concrete device follow from the theorem.
-/

namespace XpuSmi

/-- `xpum_device_stats_data_t`, value-initialized: the fields an entry does not set are 0. -/
structure XpumDeviceStatsData where
  metricsType : XpumStatsType
  scale : Int
  isCounter : Bool
  value : UInt64Val
  accumulated : UInt64Val := 0
  min : UInt64Val := 0
  avg : UInt64Val := 0
  max : UInt64Val := 0
  deriving DecidableEq, Repr

/-- `xpum_device_stats_t`: one row of `getMetricsStatistics`; its `count` is the length of
`dataList`. -/
structure XpumDeviceStats where
  deviceId : Int
  isTileData : Bool
  tileId : Nat
  dataList : List XpumDeviceStatsData
  deriving DecidableEq, Repr

/-- `xpum_device_metric_data_t`. -/
structure XpumDeviceMetricData where
  metricsType : XpumStatsType
  isCounter : Bool
  value : UInt64Val
  timestamp : UInt64Val
  scale : Int
  deriving DecidableEq, Repr

/-- `xpum_device_metrics_t`: one row of `getLatestMetrics`. -/
structure XpumDeviceMetrics where
  deviceId : Int
  isTileData : Bool
  tileId : Nat
  dataList : List XpumDeviceMetricData
  deriving DecidableEq, Repr

/-- The data a metric's sample reports for tile `i`: present in its sub-device data and not
the no-data sentinel. -/
def MeasurementData.tileData (md : MeasurementData) (i : Nat) : Option SubdeviceData :=
  if md.hasSubdeviceData then (md.subdeviceDatas.find? i).filter (·.current != uint64Max)
  else none

namespace DataLogic

open Utility

/-- The metrics `getMetricsStatistics` waits for when the store has none yet: the RAS error
categories and EU active, stall and idle, by enumerator range. -/
def isSparseMetric (type : MeasurementType) : Bool :=
  (type ≥ .metricRasErrorCatReset && type ≤ .metricRasErrorCatNonComputeErrorsUncorrectable) ||
    (type ≥ .metricEuActive && type ≤ .metricEuIdle)

/-! ## `getMetricsStatistics` -/

/-- The per-type loop of `getMetricsStatistics`: for each remaining metric but engine
utilization and fabric throughput, the idle-power probe's sample for power when it has
device-level data, else the statistics store's; a sparse metric the store has no statistics
for yet is polled until an answer comes or the retries run out. -/
def collectStatistics (core : Core) (bdf deviceId : String) (sessionId : Nat) :
    List MeasurementType → List (MeasurementType × MeasurementData)
  | [] => []
  | type :: rest =>
    if type != .metricEngineUtilization && type != .metricFabricThroughput then
      let pvcIdlePower := core.pvcIdlePowers bdf
      let pData :=
        if type == .metricPower && pvcIdlePower.hasDataOnDevice then some pvcIdlePower
        else core.latestStatistics type deviceId sessionId
      match pData with
      | some md => (type, md) :: collectStatistics core bdf deviceId sessionId rest
      | none =>
        if isSparseMetric type then
          match (core.statisticsRetries type deviceId sessionId).findSome? id with
          | some md => (type, md) :: collectStatistics core bdf deviceId sessionId rest
          | none => collectStatistics core bdf deviceId sessionId rest
        else collectStatistics core bdf deviceId sessionId rest
    else collectStatistics core bdf deviceId sessionId rest

/-- The sample the per-type loop of `getMetricsStatistics` collects for one metric: the
idle-power probe's for power when it has device-level data, else the statistics store's, else,
for a sparse metric, the first answer the retry gets. -/
def statisticsSample (core : Core) (bdf deviceId : String) (sessionId : Nat)
    (type : MeasurementType) : Option MeasurementData :=
  match
    if type == .metricPower && (core.pvcIdlePowers bdf).hasDataOnDevice then
      some (core.pvcIdlePowers bdf)
    else core.latestStatistics type deviceId sessionId with
  | some md => some md
  | none =>
    if isSparseMetric type then (core.statisticsRetries type deviceId sessionId).findSome? id
    else none

/-- The entry for metric `type` from current/min/avg/max: a counter reports
`accumulated = current` and `value = current - min`, any other metric `value = current`
with avg, min and max. -/
def statsData (type : MeasurementType) (scale : Int) (current min avg max : UInt64Val) :
    XpumDeviceStatsData :=
  if isCounterMetric type then
    { metricsType := xpumStatsTypeFromMeasurementType type, scale, isCounter := true,
      accumulated := current, value := current - min }
  else
    { metricsType := xpumStatsTypeFromMeasurementType type, scale, isCounter := false,
      avg, min, max, value := current }

/-- Row 0: one entry per collected metric with device-level data (none unless some has). -/
def deviceStatsRow (deviceId : Int) (datas : List (MeasurementType × MeasurementData)) :
    XpumDeviceStats :=
  { deviceId, isTileData := false, tileId := 0,
    dataList :=
      if datas.any (·.2.hasDataOnDevice) then
        datas.filterMap fun e =>
          if e.2.hasDataOnDevice then
            some (statsData e.1 e.2.scale e.2.current e.2.min e.2.avg e.2.max)
          else none
      else [] }

/-- Row `i + 1`: one entry per collected metric with data for tile `i`. -/
def subdeviceStatsRow (deviceId : Int) (datas : List (MeasurementType × MeasurementData))
    (i : Nat) : XpumDeviceStats :=
  { deviceId, isTileData := true, tileId := i,
    dataList := datas.filterMap fun e =>
      (e.2.tileData i).map fun sd => statsData e.1 e.2.scale sd.current sd.min sd.avg sd.max }

/-- The rows `getMetricsStatistics` builds: the device row, then one row per tile. -/
def statsRows (deviceId : Int) (numSubdevice : UInt32)
    (datas : List (MeasurementType × MeasurementData)) : List XpumDeviceStats :=
  deviceStatsRow deviceId datas ::
    (List.range numSubdevice.toNat).map (subdeviceStatsRow deviceId datas)

/-- `m_datas` of `getMetricsStatistics`: the samples of the device's supported, enabled
metrics. -/
def statisticsDatas (core : Core) (deviceId : Int) (dev : Device) (sessionId : Nat) :
    List (MeasurementType × MeasurementData) :=
  collectStatistics core dev.pciBdfAddress (toString deviceId) sessionId
    (eraseUnsupported dev.capabilities core.enabledMetrics.elems)

/-- The metrics both queries collect a sample for: the enabled metrics the capability filter
keeps, engine utilization and fabric throughput apart, in `std::set` order. -/
def rowMetrics (dev : Device) (enabledMetrics : StdSet MeasurementType) : List MeasurementType :=
  (eraseUnsupported dev.capabilities enabledMetrics.elems).filter fun t =>
    t != .metricEngineUtilization && t != .metricFabricThroughput

/-- `DataLogic::getMetricsStatistics`. `dataListNull` is `dataList == nullptr`; `count` is
the caller's `*count`. -/
def getMetricsStatistics (core : Core) (deviceId : Int) (dataListNull : Bool) (count : UInt32)
    (sessionId : Nat) : QueryResult XpumDeviceStats :=
  match core.getDevice (toString deviceId) with
  | none => { result := .resultDeviceNotFound, count }
  | some dev =>
    if dataListNull then { result := .ok, count := dev.numberOfSubdevice + 1 }
    else
      finishWrite count
        (writeEntries count.toNat (fun row => some (.ok row))
          (statsRows deviceId dev.numberOfSubdevice (statisticsDatas core deviceId dev sessionId))
          0)
        (some (core.statsTimestamp sessionId deviceId, core.currentTime))

/-! ### The two calls in closed form -/

@[simp] theorem length_statsRows (deviceId : Int) (numSubdevice : UInt32)
    (datas : List (MeasurementType × MeasurementData)) :
    (statsRows deviceId numSubdevice datas).length = numSubdevice.toNat + 1 := by
  simp [statsRows]

/-- Row 0 is the device's row, row `i + 1` the row of tile `i`. -/
theorem statsRows_getElem (deviceId : Int) (numSubdevice : UInt32)
    (datas : List (MeasurementType × MeasurementData)) {i : Nat}
    (h : i < (statsRows deviceId numSubdevice datas).length) :
    (statsRows deviceId numSubdevice datas)[i].deviceId = deviceId ∧
      (statsRows deviceId numSubdevice datas)[i].isTileData = (i != 0) ∧
      (statsRows deviceId numSubdevice datas)[i].tileId = i - 1 := by
  cases i with
  | zero => simp [statsRows, deviceStatsRow]
  | succ i => simp [statsRows, subdeviceStatsRow]

/-- The `hasDataOnDevice` test in front of the device-row loops guards nothing: with no sample
that has device-level data, the loop adds no entry anyway. -/
theorem filterMap_of_any {α β : Type} (l : List α) (p : α → Bool) (f : α → β) :
    (if l.any p then l.filterMap (fun e => if p e then some (f e) else none) else []) =
      l.filterMap fun e => if p e then some (f e) else none := by
  split
  · rfl
  · rename_i h
    simp only [List.any_eq_true, not_exists, not_and, Bool.not_eq_true] at h
    exact (List.filterMap_eq_nil_iff.2 fun e he => by simp [h e he]).symm

theorem deviceStatsRow_eq (deviceId : Int) (datas : List (MeasurementType × MeasurementData)) :
    deviceStatsRow deviceId datas =
      { deviceId, isTileData := false, tileId := 0,
        dataList := datas.filterMap fun e =>
          if e.2.hasDataOnDevice then
            some (statsData e.1 e.2.scale e.2.current e.2.min e.2.avg e.2.max)
          else none } := by
  rw [deviceStatsRow, filterMap_of_any]

/-- The per-type loop collects, in order, the sample of each metric but engine utilization
and fabric throughput that has one. -/
theorem collectStatistics_eq_filterMap (core : Core) (bdf deviceId : String) (sessionId : Nat)
    (types : List MeasurementType) :
    collectStatistics core bdf deviceId sessionId types =
      (types.filter fun t => t != .metricEngineUtilization && t != .metricFabricThroughput).filterMap
        fun t => (statisticsSample core bdf deviceId sessionId t).map (t, ·) := by
  induction types with
  | nil => rfl
  | cons type rest ih =>
    rw [collectStatistics, List.filter_cons]
    split
    · rw [List.filterMap_cons, statisticsSample, ih]
      dsimp only
      cases (if type == .metricPower && (core.pvcIdlePowers bdf).hasDataOnDevice then
          some (core.pvcIdlePowers bdf) else core.latestStatistics type deviceId sessionId) with
      | some md => rfl
      | none =>
        cases isSparseMetric type
        · rfl
        · cases (core.statisticsRetries type deviceId sessionId).findSome? id <;> rfl
    · exact ih

theorem statisticsSample_power (core : Core) (bdf deviceId : String) (sessionId : Nat)
    (h : (core.pvcIdlePowers bdf).hasDataOnDevice) :
    statisticsSample core bdf deviceId sessionId .metricPower = some (core.pvcIdlePowers bdf) := by
  simp [statisticsSample, h]

theorem rowMetrics_sorted (dev : Device) (enabledMetrics : StdSet MeasurementType) :
    (rowMetrics dev enabledMetrics).Pairwise (· < ·) :=
  enabledMetrics.sorted.sublist <| (List.filter_sublist _).trans <| by
    rw [eraseUnsupported_eq_filter]; exact List.filter_sublist _

@[simp] theorem mem_rowMetrics {dev : Device} {enabledMetrics : StdSet MeasurementType}
    {t : MeasurementType} :
    t ∈ rowMetrics dev enabledMetrics ↔ t ∈ enabledMetrics.elems ∧
      capabilityFromMeasurementType t ∈ dev.capabilities ∧
      t ≠ .metricEngineUtilization ∧ t ≠ .metricFabricThroughput := by
  simp [rowMetrics, and_assoc]

theorem statisticsDatas_eq (core : Core) (deviceId : Int) (dev : Device) (sessionId : Nat) :
    statisticsDatas core deviceId dev sessionId =
      (rowMetrics dev core.enabledMetrics).filterMap fun t =>
        (statisticsSample core dev.pciBdfAddress (toString deviceId) sessionId t).map (t, ·) :=
  collectStatistics_eq_filterMap _ _ _ _ _

section Statistics

variable {core : Core} {deviceId : Int} {dev : Device} {sessionId : Nat}

theorem getMetricsStatistics_sizing (hdev : core.getDevice (toString deviceId) = some dev)
    (count : UInt32) :
    getMetricsStatistics core deviceId true count sessionId =
      { result := .ok, count := dev.numberOfSubdevice + 1 } := by
  simp [getMetricsStatistics, hdev]

/-- The data call stores the first `*count` rows. It returns `XPUM_OK` with
`*count = num_subdevice + 1` when all `num_subdevice + 1` rows fit, and
`XPUM_BUFFER_TOO_SMALL` with `*count` untouched when they do not. -/
theorem getMetricsStatistics_data (hdev : core.getDevice (toString deviceId) = some dev)
    (count : UInt32) :
    getMetricsStatistics core deviceId false count sessionId =
      if dev.numberOfSubdevice.toNat + 1 ≤ count.toNat then
        { result := .ok, count := dev.numberOfSubdevice + 1,
          rows :=
            statsRows deviceId dev.numberOfSubdevice (statisticsDatas core deviceId dev sessionId),
          window := some (core.statsTimestamp sessionId deviceId, core.currentTime) }
      else
        { result := .bufferTooSmall, count,
          rows := (statsRows deviceId dev.numberOfSubdevice
            (statisticsDatas core deviceId dev sessionId)).take count.toNat,
          window := some (core.statsTimestamp sessionId deviceId, core.currentTime) } := by
  simp only [getMetricsStatistics, hdev, writeEntries_ok _ (Nat.zero_le _), Nat.sub_zero,
    Nat.add_zero, length_statsRows, Bool.false_eq_true, ite_false]
  by_cases h : dev.numberOfSubdevice.toNat + 1 ≤ count.toNat
  · simp only [h, ite_true, finishWrite]
    rw [List.take_of_length_le (by simpa), length_statsRows, uint32_ofNat_toNat_add_one]
  · simp only [h, ite_false, finishWrite]

theorem getMetricsStatistics_data_rows (hdev : core.getDevice (toString deviceId) = some dev)
    (count : UInt32) :
    (getMetricsStatistics core deviceId false count sessionId).rows =
      (statsRows deviceId dev.numberOfSubdevice
        (statisticsDatas core deviceId dev sessionId)).take count.toNat := by
  rw [getMetricsStatistics_data hdev]
  split
  · exact (List.take_of_length_le (by simpa)).symm
  · rfl

theorem getMetricsStatistics_data_result (hdev : core.getDevice (toString deviceId) = some dev)
    (count : UInt32) :
    (getMetricsStatistics core deviceId false count sessionId).result =
      if dev.numberOfSubdevice.toNat + 1 ≤ count.toNat then .ok else .bufferTooSmall := by
  rw [getMetricsStatistics_data hdev]
  split <;> rfl

/-- **The two-call protocol of `getMetricsStatistics`.** The sizing call answers `XPUM_OK`
with `num_subdevice + 1` and nothing else. The data call stores at most `*count` rows, row 0
for the device and row `i + 1` for tile `i`, fails with `XPUM_BUFFER_TOO_SMALL` exactly when
the `num_subdevice + 1` rows do not fit, and otherwise reports their number. A data call with
the sized count succeeds exactly when `num_subdevice + 1` does not wrap. -/
theorem getMetricsStatistics_buffer_protocol (core : Core) (deviceId : Int) (dev : Device)
    (hdev : core.getDevice (toString deviceId) = some dev) (c : UInt32) (sessionId : Nat) :
    getMetricsStatistics core deviceId true c sessionId =
        { result := .ok, count := dev.numberOfSubdevice + 1 } ∧
      (getMetricsStatistics core deviceId false c sessionId).rows.length =
        min c.toNat (dev.numberOfSubdevice.toNat + 1) ∧
      ((getMetricsStatistics core deviceId false c sessionId).result = .bufferTooSmall ↔
        c.toNat < dev.numberOfSubdevice.toNat + 1) ∧
      (dev.numberOfSubdevice.toNat + 1 ≤ c.toNat →
        (getMetricsStatistics core deviceId false c sessionId).result = .ok ∧
          (getMetricsStatistics core deviceId false c sessionId).count.toNat =
            dev.numberOfSubdevice.toNat + 1) ∧
      (∀ i (h : i < (getMetricsStatistics core deviceId false c sessionId).rows.length),
        (getMetricsStatistics core deviceId false c sessionId).rows[i].deviceId = deviceId ∧
          (getMetricsStatistics core deviceId false c sessionId).rows[i].isTileData = (i != 0) ∧
          (getMetricsStatistics core deviceId false c sessionId).rows[i].tileId = i - 1) ∧
      ((getMetricsStatistics core deviceId false (dev.numberOfSubdevice + 1) sessionId).result =
          .ok ↔ dev.numberOfSubdevice.toNat + 1 < 2 ^ 32) := by
  have hN : dev.numberOfSubdevice.toNat < 2 ^ 32 := dev.numberOfSubdevice.toNat_lt_size
  have hc : c.toNat < 2 ^ 32 := c.toNat_lt_size
  refine ⟨getMetricsStatistics_sizing hdev c, ?_, ?_, fun h => ?_, fun i h => ?_, ?_⟩
  · rw [getMetricsStatistics_data_rows hdev, List.length_take, length_statsRows]
  · rw [getMetricsStatistics_data_result hdev]
    split <;> simp only [reduceCtorEq, false_iff, true_iff, Nat.not_lt] <;> omega
  · rw [getMetricsStatistics_data hdev, if_pos h]
    exact ⟨rfl, by simp only [uint32_toNat_add_one]; omega⟩
  · simp only [getMetricsStatistics_data_rows hdev, List.getElem_take]
    exact statsRows_getElem _ _ _ _
  · rw [getMetricsStatistics_data_result hdev, uint32_toNat_add_one]
    split <;> simp only [reduceCtorEq, eq_self_iff_true, true_iff, false_iff] <;> omega

end Statistics

/-- Two tiles and a buffer of three rows: the sizing call's device exists, and the data call
stores all three rows. -/
theorem getMetricsStatistics_buffer_protocol_two_tiles :
    ({ getDevice := fun _ => some { numberOfSubdevice := 2 } } : Core).getDevice
        (toString (0 : Int)) = some { numberOfSubdevice := 2 } ∧
      (getMetricsStatistics { getDevice := fun _ => some { numberOfSubdevice := 2 } } 0 false 3
        0).rows.length = 3 :=
  ⟨rfl, (getMetricsStatistics_buffer_protocol _ 0 { numberOfSubdevice := 2 } rfl 3 0).2.1⟩

/-- With `num_subdevice = UINT32_MAX` the sum `num_subdevice + 1` wraps: the sizing call
reports 0 rows, and a data call with that count returns `XPUM_BUFFER_TOO_SMALL`. -/
theorem getMetricsStatistics_sizing_wraps :
    (getMetricsStatistics { getDevice := fun _ => some { numberOfSubdevice := 4294967295 } } 0
        true 0 0).count = 0 ∧
      (getMetricsStatistics { getDevice := fun _ => some { numberOfSubdevice := 4294967295 } } 0
        false 0 0).result = .bufferTooSmall := by
  decide

/-! ## `getLatestMetrics` -/

/-- The per-type loop of `getLatestMetrics`: the latest sample of each remaining metric but
engine utilization and fabric throughput. Its idle-power test is the comma expression
`(type == METRIC_POWER && probe->hasDataOnDevice(), false)`, always false, so power comes
from the store too. -/
def collectLatest (core : Core) (deviceId : String) :
    List MeasurementType → List (MeasurementType × MeasurementData)
  | [] => []
  | type :: rest =>
    if type != .metricEngineUtilization && type != .metricFabricThroughput then
      match core.latestData type deviceId with
      | some md => (type, md) :: collectLatest core deviceId rest
      | none => collectLatest core deviceId rest
    else collectLatest core deviceId rest

/-- The entry `getLatestMetrics` makes for metric `type` from a value. -/
def metricData (type : MeasurementType) (value timestamp : UInt64Val) (scale : Int) :
    XpumDeviceMetricData :=
  { metricsType := xpumStatsTypeFromMeasurementType type, isCounter := isCounterMetric type,
    value, timestamp, scale }

/-- Row 0 of `getLatestMetrics`. -/
def deviceMetricsRow (deviceId : Int) (datas : List (MeasurementType × MeasurementData)) :
    XpumDeviceMetrics :=
  { deviceId, isTileData := false, tileId := 0,
    dataList :=
      if datas.any (·.2.hasDataOnDevice) then
        datas.filterMap fun e =>
          if e.2.hasDataOnDevice then some (metricData e.1 e.2.current e.2.timestamp e.2.scale)
          else none
      else [] }

/-- Row `i + 1` of `getLatestMetrics`. -/
def subdeviceMetricsRow (deviceId : Int) (datas : List (MeasurementType × MeasurementData))
    (i : Nat) : XpumDeviceMetrics :=
  { deviceId, isTileData := true, tileId := i,
    dataList := datas.filterMap fun e =>
      (e.2.tileData i).map fun sd => metricData e.1 sd.current e.2.timestamp e.2.scale }

/-- A `uint32_t` stored into an `int`. -/
def uint32ToInt (n : UInt32) : Int :=
  if n.toNat < 2 ^ 31 then n.toNat else n.toNat - 2 ^ 32

/-- What `getLatestMetrics` leaves its caller: `*count` and the rows it stored. -/
structure LatestMetrics where
  count : Int
  rows : List XpumDeviceMetrics := []

/-- `m_datas` of `getLatestMetrics`: the latest samples of the device's supported, enabled
metrics. -/
def latestDatas (core : Core) (deviceId : Int) (dev : Device) :
    List (MeasurementType × MeasurementData) :=
  collectLatest core (toString deviceId)
    (eraseUnsupported dev.capabilities core.enabledMetrics.elems)

/-- `DataLogic::getLatestMetrics`. `count` is the caller's `*count`, which it overwrites
before it reads it. -/
def getLatestMetrics (core : Core) (deviceId : Int) (dataListNull : Bool) (count : Int) :
    LatestMetrics :=
  match core.getDevice (toString deviceId) with
  | none => { count }
  | some dev =>
    let count' := uint32ToInt (dev.numberOfSubdevice + 1)
    if dataListNull then { count := count' }
    else
      { count := count',
        rows := deviceMetricsRow deviceId (latestDatas core deviceId dev) ::
          (List.range dev.numberOfSubdevice.toNat).map
            (subdeviceMetricsRow deviceId (latestDatas core deviceId dev)) }

/-- The data call of `getLatestMetrics` stores `num_subdevice + 1` rows whatever the caller's
`*count` was. -/
theorem getLatestMetrics_rows_length {core : Core} {deviceId : Int} {dev : Device}
    (hdev : core.getDevice (toString deviceId) = some dev) (count : Int) :
    (getLatestMetrics core deviceId false count).rows.length = dev.numberOfSubdevice.toNat + 1 := by
  simp [getLatestMetrics, hdev]

/-- One tile and a caller's `*count` of 1: the call stores two rows. -/
theorem getLatestMetrics_overruns_capacity :
    (getLatestMetrics { getDevice := fun _ => some { numberOfSubdevice := 1 } } 0 false 1).rows.length
      = 2 := by
  decide

theorem deviceMetricsRow_eq (deviceId : Int) (datas : List (MeasurementType × MeasurementData)) :
    deviceMetricsRow deviceId datas =
      { deviceId, isTileData := false, tileId := 0,
        dataList := datas.filterMap fun e =>
          if e.2.hasDataOnDevice then some (metricData e.1 e.2.current e.2.timestamp e.2.scale)
          else none } := by
  rw [deviceMetricsRow, filterMap_of_any]

theorem collectLatest_eq_filterMap (core : Core) (deviceId : String)
    (types : List MeasurementType) :
    collectLatest core deviceId types =
      (types.filter fun t => t != .metricEngineUtilization && t != .metricFabricThroughput).filterMap
        fun t => (core.latestData t deviceId).map (t, ·) := by
  induction types with
  | nil => rfl
  | cons type rest ih =>
    rw [collectLatest, List.filter_cons]
    split
    · rw [List.filterMap_cons, ih]
      cases core.latestData type deviceId <;> rfl
    · exact ih

theorem latestDatas_eq (core : Core) (deviceId : Int) (dev : Device) :
    latestDatas core deviceId dev =
      (rowMetrics dev core.enabledMetrics).filterMap fun t =>
        (core.latestData t (toString deviceId)).map (t, ·) :=
  collectLatest_eq_filterMap _ _ _

/-! ## What the rows report -/

/-- A tile's data, mapped: present in the sample's sub-device data and not `UINT64_MAX`. -/
theorem MeasurementData.map_tileData {β : Type} (md : MeasurementData) (i : Nat)
    (f : SubdeviceData → β) :
    (md.tileData i).map f =
      if md.hasSubdeviceData then
        (md.subdeviceDatas.find? i).bind fun sd =>
          if sd.current ≠ uint64Max then some (f sd) else none
      else none := by
  unfold MeasurementData.tileData
  split
  · cases md.subdeviceDatas.find? i with
    | none => rfl
    | some sd => by_cases h : sd.current = uint64Max <;> simp [Option.filter, h]
  · rfl

/-- When the probe has no device-level data, or for any metric but power, the per-type loop
takes the statistics store's sample when there is one. -/
theorem statisticsSample_of_latestStatistics {core : Core} {bdf deviceId : String}
    {sessionId : Nat} {type : MeasurementType} {md : MeasurementData}
    (htype : type ≠ .metricPower ∨ ¬(core.pvcIdlePowers bdf).hasDataOnDevice)
    (h : core.latestStatistics type deviceId sessionId = some md) :
    statisticsSample core bdf deviceId sessionId type = some md := by
  have hprobe : (type == .metricPower && (core.pvcIdlePowers bdf).hasDataOnDevice) = false := by
    rcases htype with htype | htype <;> simp [htype]
  simp [statisticsSample, hprobe, h]

/-- Two strictly ascending lists of metrics with the same members are the same list. -/
theorem eq_of_sorted_of_mem_iff {l₁ l₂ : List MeasurementType} (h₁ : l₁.Pairwise (· < ·))
    (h₂ : l₂.Pairwise (· < ·)) (h : ∀ t, t ∈ l₁ ↔ t ∈ l₂) : l₁ = l₂ := by
  have : IsIrrefl MeasurementType (· < ·) := ⟨fun t (ht : t.toCtorIdx < t.toCtorIdx) =>
    Nat.lt_irrefl _ ht⟩
  have : IsAntisymm MeasurementType (· < ·) :=
    ⟨fun a b (hab : a.toCtorIdx < b.toCtorIdx) (hba : b.toCtorIdx < a.toCtorIdx) =>
      absurd (hab.trans hba) (Nat.lt_irrefl _)⟩
  exact List.eq_of_perm_of_sorted
    ((List.perm_ext_iff_of_nodup (List.Sorted.nodup h₁) (List.Sorted.nodup h₂)).2 h) h₁ h₂

/-- **The rows report the supported metrics.** Let `F` be the enabled metrics whose capability
the device reports, engine utilization and fabric throughput apart, in ascending order. Power's
sample is the idle-power probe's whenever the probe has device-level data; any other metric's
is the statistics store's when it has one. When all `num_subdevice + 1` rows fit,
`getMetricsStatistics` returns `XPUM_OK`; its row 0 holds one entry per metric `t` of `F` whose
sample exists and has device-level data, and row `i + 1` one per metric of `F` whose sample has
a tile-`i` value other than `UINT64_MAX`, each in the order of `F`. An entry has
`metricsType = xpumStatsTypeFromMeasurementType(t)` and the sample's scale; a counter reports
`accumulated = current` and `value = current - min`, any other metric `value = current` with
avg, min and max, the fields it does not set value-initialized. `getLatestMetrics`, whatever its
caller's count, builds the same rows from the latest data, each entry with the counter flag,
the current value, and the sample's timestamp and scale. -/
theorem metricRows_report_supported_metrics (core : Core) (deviceId : Int) (dev : Device)
    (hdev : core.getDevice (toString deviceId) = some dev) (c : UInt32) (sessionId : Nat)
    (hc : dev.numberOfSubdevice.toNat + 1 ≤ c.toNat) (latestCount : Int) :
    ∃ F : List MeasurementType, F.Pairwise (· < ·) ∧
      (∀ t, t ∈ F ↔ t ∈ core.enabledMetrics.elems ∧
        capabilityFromMeasurementType t ∈ dev.capabilities ∧
        t ≠ .metricEngineUtilization ∧ t ≠ .metricFabricThroughput) ∧
      ((core.pvcIdlePowers dev.pciBdfAddress).hasDataOnDevice →
        statisticsSample core dev.pciBdfAddress (toString deviceId) sessionId .metricPower =
          some (core.pvcIdlePowers dev.pciBdfAddress)) ∧
      (∀ t md,
        (t ≠ .metricPower ∨ ¬(core.pvcIdlePowers dev.pciBdfAddress).hasDataOnDevice) →
        core.latestStatistics t (toString deviceId) sessionId = some md →
        statisticsSample core dev.pciBdfAddress (toString deviceId) sessionId t = some md) ∧
      (getMetricsStatistics core deviceId false c sessionId).result = .ok ∧
      (getMetricsStatistics core deviceId false c sessionId).rows =
        { deviceId, isTileData := false, tileId := 0,
          dataList := F.filterMap fun t =>
            (statisticsSample core dev.pciBdfAddress (toString deviceId) sessionId t).bind
              fun md =>
                if md.hasDataOnDevice then
                  some (if isCounterMetric t then
                    { metricsType := xpumStatsTypeFromMeasurementType t, scale := md.scale,
                      isCounter := true, value := md.current - md.min, accumulated := md.current,
                      min := 0, avg := 0, max := 0 }
                  else
                    { metricsType := xpumStatsTypeFromMeasurementType t, scale := md.scale,
                      isCounter := false, value := md.current, accumulated := 0,
                      min := md.min, avg := md.avg, max := md.max })
                else none } ::
        (List.range dev.numberOfSubdevice.toNat).map (fun i =>
          { deviceId, isTileData := true, tileId := i,
            dataList := F.filterMap fun t =>
              (statisticsSample core dev.pciBdfAddress (toString deviceId) sessionId t).bind
                fun md =>
                  if md.hasSubdeviceData then
                    (md.subdeviceDatas.find? i).bind fun sd =>
                      if sd.current ≠ uint64Max then
                        some (if isCounterMetric t then
                          { metricsType := xpumStatsTypeFromMeasurementType t, scale := md.scale,
                            isCounter := true, value := sd.current - sd.min,
                            accumulated := sd.current, min := 0, avg := 0, max := 0 }
                        else
                          { metricsType := xpumStatsTypeFromMeasurementType t, scale := md.scale,
                            isCounter := false, value := sd.current, accumulated := 0,
                            min := sd.min, avg := sd.avg, max := sd.max })
                      else none
                  else none }) ∧
      (getLatestMetrics core deviceId false latestCount).rows =
        { deviceId, isTileData := false, tileId := 0,
          dataList := F.filterMap fun t => (core.latestData t (toString deviceId)).bind fun md =>
            if md.hasDataOnDevice then
              some { metricsType := xpumStatsTypeFromMeasurementType t,
                     isCounter := isCounterMetric t, value := md.current,
                     timestamp := md.timestamp, scale := md.scale }
            else none } ::
        (List.range dev.numberOfSubdevice.toNat).map (fun i =>
          { deviceId, isTileData := true, tileId := i,
            dataList := F.filterMap fun t => (core.latestData t (toString deviceId)).bind fun md =>
              if md.hasSubdeviceData then
                (md.subdeviceDatas.find? i).bind fun sd =>
                  if sd.current ≠ uint64Max then
                    some { metricsType := xpumStatsTypeFromMeasurementType t,
                           isCounter := isCounterMetric t, value := sd.current,
                           timestamp := md.timestamp, scale := md.scale }
                  else none
              else none }) := by
  refine ⟨rowMetrics dev core.enabledMetrics, rowMetrics_sorted _ _, fun t => mem_rowMetrics,
    statisticsSample_power _ _ _ _, fun t md => statisticsSample_of_latestStatistics, ?_, ?_, ?_⟩
  · rw [getMetricsStatistics_data_result hdev, if_pos hc]
  on_goal 1 => rw [getMetricsStatistics_data_rows hdev, List.take_of_length_le (by simpa using hc),
    statsRows, deviceStatsRow_eq, statisticsDatas_eq]
  on_goal 2 => simp only [getLatestMetrics, hdev, Bool.false_eq_true, ite_false,
    deviceMetricsRow_eq, latestDatas_eq]
  -- both lists: the device's row, then each tile's, entry by entry
  all_goals
    congr 1
    · simp only [List.filterMap_filterMap, Option.bind_map, Function.comp_def]
      rfl
    · refine List.map_congr_left fun i _ => ?_
      simp only [subdeviceStatsRow, subdeviceMetricsRow, List.filterMap_filterMap,
        Option.bind_map, Option.map_map, Function.comp_def, MeasurementData.map_tileData]
      rfl

/-- A device with two tiles that reports temperature and energy but not frequency. -/
def twoTileDevice : Device :=
  { numberOfSubdevice := 2, capabilities := [.metricTemperature, .metricEnergy] }

/-- `twoTileDevice` with temperature, frequency and energy enabled. The statistics store holds
a temperature sample with device-level data and tile 0's, tile 1 reading the no-data value,
and an energy counter sample with device-level data and both tiles'. -/
def twoTileCore : Core :=
  { getDevice := fun _ => some twoTileDevice,
    enabledMetrics := ⟨[.metricTemperature, .metricFrequency, .metricEnergy], by decide⟩,
    latestStatistics := fun t _ _ =>
      if t = .metricTemperature then
        some { hasDataOnDevice := true, current := 50, min := 40, avg := 45, max := 60,
               hasSubdeviceData := true,
               subdeviceDatas :=
                 ⟨[(0, ⟨48, 41, 44, 58⟩), (1, ⟨uint64Max, 0, 0, 0⟩)], by decide⟩ }
      else if t = .metricEnergy then
        some { hasDataOnDevice := true, current := 900, min := 100, hasSubdeviceData := true,
               subdeviceDatas :=
                 ⟨[(0, { current := 500, min := 100 }), (1, { current := 400, min := 50 })],
                   by decide⟩ }
      else none }

/-- The rows of `twoTileCore`: temperature and energy on the device and on tile 0, energy
alone on tile 1, the counter's value its current reading less its minimum. -/
theorem metricRows_report_supported_metrics_two_tiles :
    twoTileCore.getDevice (toString (0 : Int)) = some twoTileDevice ∧
      twoTileDevice.numberOfSubdevice.toNat + 1 ≤ (3 : UInt32).toNat ∧
      (getMetricsStatistics twoTileCore 0 false 3 0).rows =
        [⟨0, false, 0, [⟨.statsGpuCoreTemperature, 1, false, 50, 0, 40, 45, 60⟩,
            ⟨.statsEnergy, 1, true, 800, 900, 0, 0, 0⟩]⟩,
          ⟨0, true, 0, [⟨.statsGpuCoreTemperature, 1, false, 48, 0, 41, 44, 58⟩,
            ⟨.statsEnergy, 1, true, 400, 500, 0, 0, 0⟩]⟩,
          ⟨0, true, 1, [⟨.statsEnergy, 1, true, 350, 400, 0, 0, 0⟩]⟩] := by
  obtain ⟨F, hsorted, hmem, -, -, -, hrows, -⟩ :=
    metricRows_report_supported_metrics twoTileCore 0 twoTileDevice rfl 3 0 (by decide) 0
  have hF : F = [.metricTemperature, .metricEnergy] :=
    eq_of_sorted_of_mem_iff hsorted (by decide) fun t => (hmem t).trans (by cases t <;> decide)
  subst hF
  exact ⟨rfl, by decide, hrows.trans (by decide)⟩

end DataLogic

end XpuSmi
