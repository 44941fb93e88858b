import XpuSmi.DataLogic.Query

/-!
# `getEngineStatistics` and `getEngineUtilizations`

Both queries answer with one row per engine of the device's engine-utilization sample
(`getMultiMetricsDatas()`, keyed by engine handle), in handle order. An entry becomes a row
when `getEngineIndex` resolves its handle to an index other than `UINT32_MAX`;
`getEngineStatistics` also skips an entry that holds the no-data value `UINT64_MAX`.

They differ in when they size and what they check a row against. `getEngineStatistics`
answers the sizing call with `getEngineCount()` before it checks the metric, and checks each
row against the caller's `*count`. `getEngineUtilizations` checks the metric first, then
overwrites `*count` with `getEngineCount()`, and checks each row against that.

* `getEngineStatistics_rows_le`, `getEngineStatistics_count_of_ok` — the statistics query
  stores at most `*count` rows, and reports how many when it succeeds;
* `getEngineUtilizations_rows_le` — the utilization query stores up to `getEngineCount()`
  rows, whatever the caller's `*count`;
* `getEngineStatistics_ne_bufferTooSmall`, `getEngineUtilizations_ne_bufferTooSmall` — a
  buffer with room for every resolving handle is never too small;
* `getEngineStatistics_rows_of_ok`, `getEngineUtilizations_rows_of_ok` — what a successful
  call stored: the resolving entries in handle order, and for the statistics query only those
  whose value is not the no-data value.
-/

namespace XpuSmi

/-- `xpum_device_engine_stats_t`. -/
structure XpumDeviceEngineStats where
  isTileData : Bool
  tileId : Nat
  value : UInt64Val
  min : UInt64Val
  avg : UInt64Val
  max : UInt64Val
  index : UInt32
  scale : Int
  type : XpumEngineType
  deviceId : Int
  deriving DecidableEq, Repr

/-- `xpum_device_engine_metric_t`, by the fields `getEngineUtilizations` sets. -/
structure XpumDeviceEngineMetric where
  isTileData : Bool
  tileId : Nat
  value : UInt64Val
  index : UInt32
  scale : Int
  type : XpumEngineType
  deriving DecidableEq, Repr

namespace DataLogic

/-- The handles of a sample that `getEngineIndex` resolves. -/
def resolvedEngines (dev : Device) (pData : MeasurementData) : List (Nat × AdditionalData) :=
  pData.multiMetricsDatas.entries.filter fun e => dev.engineIndex e.1 != uint32Max

/-! ## `getEngineStatistics` -/

/-- One entry of the loop of `getEngineStatistics`: a row when the handle resolves and the
value is not the no-data value. -/
def engineStatsRow (dev : Device) (deviceId : Int) (pData : MeasurementData)
    (e : Nat × AdditionalData) : Option (Except XpumResult XpumDeviceEngineStats) :=
  if dev.engineIndex e.1 != uint32Max && e.2.current != uint64Max then
    some (.ok
      { isTileData := e.2.onSubdevice, tileId := e.2.subdeviceId, value := e.2.current,
        min := e.2.min, avg := e.2.avg, max := e.2.max, index := dev.engineIndex e.1,
        scale := pData.scale, type := Utility.toXPUMEngineType (pData.engineType e.1),
        deviceId })
  else none

/-- `DataLogic::getEngineStatistics`. `dataListNull` is `dataList == nullptr`; `count` is the
caller's `*count`. -/
def getEngineStatistics (core : Core) (deviceId : Int) (dataListNull : Bool) (count : UInt32)
    (sessionId : Nat) : QueryResult XpumDeviceEngineStats :=
  match core.getDevice (toString deviceId) with
  | none => { result := .resultDeviceNotFound, count }
  | some dev =>
    if dataListNull then { result := .ok, count := dev.engineCount }
    else
      let window := some (core.engineStatsTimestamp sessionId deviceId, core.currentTime)
      match checkMetric dev core.enabledMetrics .metricEngineUtilization with
      | some r => { result := r, count := 0, window }
      | none =>
        match core.latestStatistics .metricEngineUtilization (toString deviceId) sessionId with
        | none => { result := .ok, count := 0, window }
        | some pData =>
          finishWrite count
            (writeEntries count.toNat (engineStatsRow dev deviceId pData)
              pData.multiMetricsDatas.entries 0)
            window

/-- With `METRIC_ENGINE_UTILIZATION` not enabled, the sizing call still answers `XPUM_OK` with
the engine count, and only the data call reports the metric not enabled. -/
theorem getEngineStatistics_sizing_skips_metric_check :
    (getEngineStatistics { getDevice := fun _ => some { engineCount := 2 } } 0 true 0 0).result =
        .ok ∧
      (getEngineStatistics { getDevice := fun _ => some { engineCount := 2 } } 0 true 0 0).count =
        2 ∧
      (getEngineStatistics { getDevice := fun _ => some { engineCount := 2 } } 0 false 2
        0).result = .metricNotEnabled := by
  decide

theorem engineStatsRow_ne_error (dev : Device) (deviceId : Int) (pData : MeasurementData)
    (e : Nat × AdditionalData) (r : XpumResult) :
    engineStatsRow dev deviceId pData e ≠ some (.error r) := by
  unfold engineStatsRow; split <;> simp

theorem engineStatsRow_resolves {dev : Device} {deviceId : Int} {pData : MeasurementData}
    (e : Nat × AdditionalData) (h : (engineStatsRow dev deviceId pData e).isSome) :
    (dev.engineIndex e.1 != uint32Max) = true := by
  unfold engineStatsRow at h
  split at h <;> simp_all

section Statistics

variable {core : Core} {deviceId : Int} {sessionId : Nat}

theorem getEngineStatistics_sizing {dev : Device}
    (hdev : core.getDevice (toString deviceId) = some dev) (count : UInt32) :
    getEngineStatistics core deviceId true count sessionId =
      { result := .ok, count := dev.engineCount } := by
  simp [getEngineStatistics, hdev]

/-- What a data call can end with: an early answer, or the end of its write loop over the
latest statistics sample. -/
theorem getEngineStatistics_data_cases (core : Core) (deviceId : Int) (count : UInt32)
    (sessionId : Nat) :
    (getEngineStatistics core deviceId false count sessionId).Early ∨
      ∃ dev pData, core.getDevice (toString deviceId) = some dev ∧
        checkMetric dev core.enabledMetrics .metricEngineUtilization = none ∧
        core.latestStatistics .metricEngineUtilization (toString deviceId) sessionId =
          some pData ∧
        getEngineStatistics core deviceId false count sessionId =
          finishWrite count
            (writeEntries count.toNat (engineStatsRow dev deviceId pData)
              pData.multiMetricsDatas.entries 0)
            (some (core.engineStatsTimestamp sessionId deviceId, core.currentTime)) := by
  unfold getEngineStatistics
  split
  · exact .inl ⟨rfl, by simp, by simp⟩
  · rename_i dev hdev
    simp only [Bool.false_eq_true, ite_false]
    split
    · exact .inl (checkMetric_early ‹_› _)
    · split
      · exact .inl ⟨rfl, by simp, fun _ => rfl⟩
      · exact .inr ⟨dev, _, hdev, ‹_›, ‹_›, rfl⟩

/-- A data call whose buffer has room for every entry whose handle resolves never returns
`XPUM_BUFFER_TOO_SMALL`. -/
theorem getEngineStatistics_ne_bufferTooSmall (count : UInt32)
    (hfit : ∀ dev pData, core.getDevice (toString deviceId) = some dev →
      checkMetric dev core.enabledMetrics .metricEngineUtilization = none →
      core.latestStatistics .metricEngineUtilization (toString deviceId) sessionId = some pData →
      (resolvedEngines dev pData).length ≤ count.toNat) :
    (getEngineStatistics core deviceId false count sessionId).result ≠ .bufferTooSmall := by
  rcases getEngineStatistics_data_cases core deviceId count sessionId with
    h | ⟨dev, pData, hdev, hc, hp, h⟩
  · exact h.ne_bufferTooSmall
  · rw [h]
    exact finishWrite_ne_bufferTooSmall (fun e => engineStatsRow_ne_error _ _ _ e _)
      ((length_acceptedRows_le engineStatsRow_resolves _).trans (hfit dev pData hdev hc hp))

/-- **The statistics rows.** A data call on a sample that returns `XPUM_OK` stored one row per
entry, in handle order, whose handle resolves and whose value is not `UINT64_MAX`, with the
entry's tile, values and logical index. -/
theorem getEngineStatistics_rows_of_ok {dev : Device} {pData : MeasurementData}
    (hdev : core.getDevice (toString deviceId) = some dev)
    (hp : core.latestStatistics .metricEngineUtilization (toString deviceId) sessionId =
      some pData) (count : UInt32)
    (hok : (getEngineStatistics core deviceId false count sessionId).result = .ok) :
    (getEngineStatistics core deviceId false count sessionId).rows =
      (pData.multiMetricsDatas.entries.filter fun e =>
        dev.engineIndex e.1 != uint32Max && e.2.current != uint64Max).map fun e =>
          { isTileData := e.2.onSubdevice, tileId := e.2.subdeviceId, value := e.2.current,
            min := e.2.min, avg := e.2.avg, max := e.2.max, index := dev.engineIndex e.1,
            scale := pData.scale, type := Utility.toXPUMEngineType (pData.engineType e.1),
            deviceId } := by
  simp only [getEngineStatistics, hdev, hp, Bool.false_eq_true, ite_false] at hok ⊢
  split at hok
  · rcases checkMetric_cases ‹_› with rfl | rfl <;> cases hok
  · rw [finishWrite_rows_of_ok (fun e => engineStatsRow_ne_error _ _ _ e _) hok]
    exact acceptedRows_of_guard (fun _ => rfl) _

end Statistics

/-! ## `getEngineUtilizations` -/

/-- One entry of the loop of `getEngineUtilizations`: a row when the handle resolves. -/
def engineUtilizationRow (dev : Device) (pData : MeasurementData) (e : Nat × AdditionalData) :
    Option (Except XpumResult XpumDeviceEngineMetric) :=
  if dev.engineIndex e.1 != uint32Max then
    some (.ok
      { isTileData := e.2.onSubdevice, tileId := e.2.subdeviceId, value := e.2.current,
        index := dev.engineIndex e.1, scale := pData.scale,
        type := Utility.toXPUMEngineType (pData.engineType e.1) })
  else none

/-- `DataLogic::getEngineUtilizations`. `_count` is the caller's `*count`, which the query
overwrites with `getEngineCount()` before it reads it: the loop checks each row against the
engine count. -/
def getEngineUtilizations (core : Core) (deviceId : Int) (dataListNull : Bool)
    (_count : UInt32) : QueryResult XpumDeviceEngineMetric :=
  match core.getDevice (toString deviceId) with
  | none => { result := .resultDeviceNotFound, count := 0 }
  | some dev =>
    match checkMetric dev core.enabledMetrics .metricEngineUtilization with
    | some r => { result := r, count := 0 }
    | none =>
      let count := dev.engineCount
      if dataListNull then { result := .ok, count }
      else
        match core.latestData .metricEngineUtilization (toString deviceId) with
        | none => { result := .ok, count := 0 }
        | some pData =>
          finishWrite count
            (writeEntries count.toNat (engineUtilizationRow dev pData)
              pData.multiMetricsDatas.entries 0)
            none

theorem engineUtilizationRow_ne_error (dev : Device) (pData : MeasurementData)
    (e : Nat × AdditionalData) (r : XpumResult) :
    engineUtilizationRow dev pData e ≠ some (.error r) := by
  unfold engineUtilizationRow; split <;> simp

theorem engineUtilizationRow_resolves {dev : Device} {pData : MeasurementData}
    (e : Nat × AdditionalData) (h : (engineUtilizationRow dev pData e).isSome) :
    (dev.engineIndex e.1 != uint32Max) = true := by
  unfold engineUtilizationRow at h
  split at h <;> simp_all

section Utilizations

variable {core : Core} {deviceId : Int}

/-- Both calls report the metric check's code before anything else. -/
theorem getEngineUtilizations_of_checkMetric {dev : Device} {r : XpumResult}
    (hdev : core.getDevice (toString deviceId) = some dev)
    (h : checkMetric dev core.enabledMetrics .metricEngineUtilization = some r)
    (dataListNull : Bool) (count : UInt32) :
    getEngineUtilizations core deviceId dataListNull count = { result := r, count := 0 } := by
  simp [getEngineUtilizations, hdev, h]

theorem getEngineUtilizations_sizing {dev : Device}
    (hdev : core.getDevice (toString deviceId) = some dev)
    (h : checkMetric dev core.enabledMetrics .metricEngineUtilization = none) (count : UInt32) :
    getEngineUtilizations core deviceId true count =
      { result := .ok, count := dev.engineCount } := by
  simp [getEngineUtilizations, hdev, h]

/-- What a data call can end with: an early answer, or the end of its write loop over the
latest sample, checked against the engine count. -/
theorem getEngineUtilizations_data_cases (core : Core) (deviceId : Int) (count : UInt32) :
    (getEngineUtilizations core deviceId false count).Early ∨
      ∃ dev pData, core.getDevice (toString deviceId) = some dev ∧
        checkMetric dev core.enabledMetrics .metricEngineUtilization = none ∧
        core.latestData .metricEngineUtilization (toString deviceId) = some pData ∧
        getEngineUtilizations core deviceId false count =
          finishWrite dev.engineCount
            (writeEntries dev.engineCount.toNat (engineUtilizationRow dev pData)
              pData.multiMetricsDatas.entries 0)
            none := by
  unfold getEngineUtilizations
  split
  · exact .inl ⟨rfl, by simp, by simp⟩
  · rename_i dev hdev
    split
    · exact .inl (checkMetric_early ‹_› _)
    · simp only [Bool.false_eq_true, ite_false]
      split
      · exact .inl ⟨rfl, by simp, fun _ => rfl⟩
      · exact .inr ⟨dev, _, hdev, ‹_›, ‹_›, rfl⟩

/-- The data call stores up to `getEngineCount()` rows: the caller's `*count` bounds nothing. -/
theorem getEngineUtilizations_rows_le {dev : Device}
    (hdev : core.getDevice (toString deviceId) = some dev) (count : UInt32) :
    (getEngineUtilizations core deviceId false count).rows.length ≤ dev.engineCount.toNat := by
  rcases getEngineUtilizations_data_cases core deviceId count with
    h | ⟨dev', pData, hdev', -, -, h⟩
  · simp [h.rows_eq]
  · cases hdev.symm.trans hdev'
    simpa [h] using writeEntries_length_le _ (Nat.zero_le _)

/-- Engine counts and capacities of 2 and 1, and two handles that resolve: the data call
stores two rows and returns `XPUM_OK`. -/
theorem getEngineUtilizations_overruns_capacity :
    (getEngineUtilizations
        { getDevice := fun _ => some
            { capabilities := [.metricEngineUtilization], engineCount := 2,
              engineIndex := fun h => if h < 2 then UInt32.ofNat h else uint32Max },
          enabledMetrics := ⟨[.metricEngineUtilization], List.pairwise_singleton _ _⟩,
          latestData := fun _ _ => some
            { multiMetricsDatas := ⟨[(0, {}), (1, {})], by decide⟩ } }
        0 false 1).result = .ok ∧
      (getEngineUtilizations
        { getDevice := fun _ => some
            { capabilities := [.metricEngineUtilization], engineCount := 2,
              engineIndex := fun h => if h < 2 then UInt32.ofNat h else uint32Max },
          enabledMetrics := ⟨[.metricEngineUtilization], List.pairwise_singleton _ _⟩,
          latestData := fun _ _ => some
            { multiMetricsDatas := ⟨[(0, {}), (1, {})], by decide⟩ } }
        0 false 1).rows.length = 2 := by
  decide

/-- A data call on a sample with no more resolving handles than `getEngineCount()` never
returns `XPUM_BUFFER_TOO_SMALL`, whatever the caller's `*count`. -/
theorem getEngineUtilizations_ne_bufferTooSmall (count : UInt32)
    (hfit : ∀ dev pData, core.getDevice (toString deviceId) = some dev →
      checkMetric dev core.enabledMetrics .metricEngineUtilization = none →
      core.latestData .metricEngineUtilization (toString deviceId) = some pData →
      (resolvedEngines dev pData).length ≤ dev.engineCount.toNat) :
    (getEngineUtilizations core deviceId false count).result ≠ .bufferTooSmall := by
  rcases getEngineUtilizations_data_cases core deviceId count with
    h | ⟨dev, pData, hdev, hc, hp, h⟩
  · exact h.ne_bufferTooSmall
  · rw [h]
    exact finishWrite_ne_bufferTooSmall (fun e => engineUtilizationRow_ne_error _ _ e _)
      ((length_acceptedRows_le engineUtilizationRow_resolves _).trans (hfit dev pData hdev hc hp))

/-- **The utilization rows.** A data call on a sample that returns `XPUM_OK` stored one row per
entry, in handle order, whose handle resolves, with the entry's tile, value and logical
index: an entry holding the no-data value `UINT64_MAX` gets a row too. -/
theorem getEngineUtilizations_rows_of_ok {dev : Device} {pData : MeasurementData}
    (hdev : core.getDevice (toString deviceId) = some dev)
    (hp : core.latestData .metricEngineUtilization (toString deviceId) = some pData)
    (count : UInt32) (hok : (getEngineUtilizations core deviceId false count).result = .ok) :
    (getEngineUtilizations core deviceId false count).rows =
      (pData.multiMetricsDatas.entries.filter fun e => dev.engineIndex e.1 != uint32Max).map
        fun e =>
          { isTileData := e.2.onSubdevice, tileId := e.2.subdeviceId, value := e.2.current,
            index := dev.engineIndex e.1, scale := pData.scale,
            type := Utility.toXPUMEngineType (pData.engineType e.1) } := by
  simp only [getEngineUtilizations, hdev, hp, Bool.false_eq_true, ite_false] at hok ⊢
  split at hok
  · rcases checkMetric_cases ‹_› with rfl | rfl <;> cases hok
  · rw [finishWrite_rows_of_ok (fun e => engineUtilizationRow_ne_error _ _ e _) hok]
    exact acceptedRows_of_guard (fun _ => rfl) _

/-- One engine whose sample holds the no-data value `UINT64_MAX`: `getEngineUtilizations`
returns `XPUM_OK` with a row carrying that value, where `getEngineStatistics`, on the same
sample, returns `XPUM_OK` with no row. -/
theorem getEngineUtilizations_reports_noData_value :
    (getEngineUtilizations
        { getDevice := fun _ => some
            { capabilities := [.metricEngineUtilization], engineCount := 1,
              engineIndex := fun h => if h = 0 then 0 else uint32Max },
          enabledMetrics := ⟨[.metricEngineUtilization], List.pairwise_singleton _ _⟩,
          latestData := fun _ _ => some
            { multiMetricsDatas := ⟨[(0, { current := uint64Max })], by decide⟩ } }
        0 false 1).result = .ok ∧
      ((getEngineUtilizations
        { getDevice := fun _ => some
            { capabilities := [.metricEngineUtilization], engineCount := 1,
              engineIndex := fun h => if h = 0 then 0 else uint32Max },
          enabledMetrics := ⟨[.metricEngineUtilization], List.pairwise_singleton _ _⟩,
          latestData := fun _ _ => some
            { multiMetricsDatas := ⟨[(0, { current := uint64Max })], by decide⟩ } }
        0 false 1).rows.map (·.value)) = [uint64Max] ∧
      (getEngineStatistics
        { getDevice := fun _ => some
            { capabilities := [.metricEngineUtilization], engineCount := 1,
              engineIndex := fun h => if h = 0 then 0 else uint32Max },
          enabledMetrics := ⟨[.metricEngineUtilization], List.pairwise_singleton _ _⟩,
          latestStatistics := fun _ _ _ => some
            { multiMetricsDatas := ⟨[(0, { current := uint64Max })], by decide⟩ } }
        0 false 1 0).result = .ok ∧
      (getEngineStatistics
        { getDevice := fun _ => some
            { capabilities := [.metricEngineUtilization], engineCount := 1,
              engineIndex := fun h => if h = 0 then 0 else uint32Max },
          enabledMetrics := ⟨[.metricEngineUtilization], List.pairwise_singleton _ _⟩,
          latestStatistics := fun _ _ _ => some
            { multiMetricsDatas := ⟨[(0, { current := uint64Max })], by decide⟩ } }
        0 false 1 0).rows = [] := by
  decide

end Utilizations

end DataLogic

end XpuSmi
