import XpuSmi.DataLogic.Query

/-!
# `getFabricThroughputStatistics` and `getFabricThroughput`

Both queries answer with one row per fabric link of the device's fabric-throughput sample
(keyed by fabric id), in id order. An entry becomes a row when `getFabricThroughputInfo`
resolves its fabric id; a resolved link whose remote fabric id the device manager does not
know ends the query with `XPUM_GENERIC_ERROR`.

`getFabricThroughput` checks each row against the caller's `*count`, and answers a data call
with `*count == 0` as it answers a sizing call. `getFabricThroughputStatistics` first counts
the resolving entries in a `uint32_t`, returns `XPUM_BUFFER_TOO_SMALL` with that count when
it exceeds `*count`, and then writes every resolving entry with no further check.

* `countResolved_toNat` — the counting loop's total is the number of resolving entries,
  modulo 2^32;
* `getFabricThroughputStatistics_rows_le` — when fewer than 2^32 entries resolve, the
  statistics query stores no more rows than fit;
* `getFabricThroughput_rows_le` — the snapshot query stores at most `*count` rows.
-/

namespace XpuSmi

/-- `xpum_device_fabric_throughput_stats_t`, value-initialized. -/
structure XpumDeviceFabricThroughputStats where
  tileId : Nat
  remoteDeviceId : Int
  remoteDeviceTileId : Nat
  type : XpumFabricThroughputType
  value : UInt64Val
  accumulated : UInt64Val := 0
  min : UInt64Val := 0
  avg : UInt64Val := 0
  max : UInt64Val := 0
  scale : Int
  deviceId : Int
  deriving DecidableEq, Repr

/-- `xpum_device_fabric_throughput_metric_t`, by the fields `getFabricThroughput` sets. -/
structure XpumDeviceFabricThroughputMetric where
  tileId : Nat
  remoteDeviceId : Int
  remoteDeviceTileId : Nat
  type : XpumFabricThroughputType
  scale : Int
  value : UInt64Val
  deriving DecidableEq, Repr

namespace DataLogic

/-- The entries of a sample whose fabric id `getFabricThroughputInfo` resolves. -/
def resolvedLinks (dev : Device) (pData : MeasurementData) : List (Nat × AdditionalData) :=
  pData.multiMetricsDatas.entries.filter fun e => (dev.fabricThroughputInfo e.1).isSome

/-- A counter link (`TRANSMITTED_COUNTER`, `RECEIVED_COUNTER`) reports an accumulated value. -/
def isCounterLink (type : FabricThroughputType) : Bool :=
  type == .transmittedCounter || type == .receivedCounter

/-! ## `getFabricThroughputStatistics` -/

/-- The counting loop of `getFabricThroughputStatistics`: `++total` for each entry whose
fabric id resolves, in a `uint32_t`. -/
def countResolved (dev : Device) : List (Nat × AdditionalData) → UInt32 → UInt32
  | [], total => total
  | e :: rest, total =>
    countResolved dev rest (if (dev.fabricThroughputInfo e.1).isSome then total + 1 else total)

/-- The write loop of `getFabricThroughputStatistics`: `writeEntries` without the check
against `*count`. -/
def writeAllEntries {α Row : Type} (step : α → Option (Except XpumResult Row)) :
    List α → List Row × Option XpumResult
  | [] => ([], none)
  | e :: rest =>
    match step e with
    | none => writeAllEntries step rest
    | some (.error r) => ([], some r)
    | some (.ok row) =>
      let r := writeAllEntries step rest
      (row :: r.1, r.2)

/-- One entry of the write loop of `getFabricThroughputStatistics`. -/
def fabricStatsRow (core : Core) (dev : Device) (deviceId : Int) (pData : MeasurementData)
    (e : Nat × AdditionalData) : Option (Except XpumResult XpumDeviceFabricThroughputStats) :=
  match dev.fabricThroughputInfo e.1 with
  | none => none
  | some info =>
    match core.getDeviceIDByFabricID info.remoteFabricId with
    | none => some (.error .genericError)
    | some remoteDeviceId =>
      some (.ok
        (if isCounterLink info.type then
          { tileId := info.attachId, remoteDeviceId, remoteDeviceTileId := info.remoteAttachId,
            type := Utility.toXPUMFabricThroughputType info.type,
            value := e.2.current - e.2.min, accumulated := e.2.current, scale := 1, deviceId }
        else
          { tileId := info.attachId, remoteDeviceId, remoteDeviceTileId := info.remoteAttachId,
            type := Utility.toXPUMFabricThroughputType info.type, value := e.2.current,
            min := e.2.min, avg := e.2.avg, max := e.2.max, scale := pData.scale, deviceId }))

/-- `DataLogic::getFabricThroughputStatistics`. `dataListNull` is `dataList == nullptr`;
`count` is the caller's `*count`. -/
def getFabricThroughputStatistics (core : Core) (deviceId : Int) (dataListNull : Bool)
    (count : UInt32) (sessionId : Nat) : QueryResult XpumDeviceFabricThroughputStats :=
  match core.getDevice (toString deviceId) with
  | none => { result := .resultDeviceNotFound, count := 0 }
  | some dev =>
    match checkMetric dev core.enabledMetrics .metricFabricThroughput with
    | some r => { result := r, count := 0 }
    | none =>
      let throughputCount := dev.fabricThroughputInfoCount
      if dataListNull || throughputCount == 0 then { result := .ok, count := throughputCount }
      else
        match core.latestStatistics .metricFabricThroughput (toString deviceId) sessionId with
        | none => { result := .ok, count := 0 }
        | some pData =>
          let total := countResolved dev pData.multiMetricsDatas.entries 0
          if total > count then { result := .bufferTooSmall, count := total }
          else
            let begin := core.fabricStatsTimestamp sessionId deviceId
            if pData.timestamp < begin then
              { result := .ok, count := 0, window := some (begin, core.currentTime) }
            else
              finishWrite count
                (writeAllEntries (fabricStatsRow core dev deviceId pData)
                  pData.multiMetricsDatas.entries)
                (some (begin, core.currentTime))

/-! ### The two loops -/

theorem countResolved_toNat (dev : Device) (entries : List (Nat × AdditionalData))
    (total : UInt32) :
    (countResolved dev entries total).toNat =
      (total.toNat + (entries.filter fun e => (dev.fabricThroughputInfo e.1).isSome).length) %
        2 ^ 32 := by
  induction entries generalizing total with
  | nil => simp [countResolved, Nat.mod_eq_of_lt total.toNat_lt_size]
  | cons e rest ih =>
    rw [countResolved, ih, List.filter_cons]
    split
    · simp only [uint32_toNat_add_one, List.length_cons, Nat.mod_add_mod]; omega
    · rfl

variable {α Row : Type} {step : α → Option (Except XpumResult Row)}

/-- The loop stores only accepted rows. -/
theorem length_writeAllEntries_le (entries : List α) :
    (writeAllEntries step entries).1.length ≤ (acceptedRows step entries).length := by
  induction entries with
  | nil => simp [writeAllEntries, acceptedRows]
  | cons e rest ih =>
    unfold writeAllEntries
    simp only [acceptedRows] at ih ⊢
    split <;> rename_i hs <;>
      simp only [hs, List.filterMap_cons, Option.none_bind, Option.some_bind]
    · exact ih
    · exact Nat.zero_le _
    · exact Nat.succ_le_succ ih

/-- The loop returns early only with a code a step ended it with. -/
theorem writeAllEntries_code {entries : List α} {r : XpumResult}
    (h : (writeAllEntries step entries).2 = some r) :
    ∃ e ∈ entries, step e = some (.error r) := by
  induction entries with
  | nil => simp [writeAllEntries] at h
  | cons e rest ih =>
    unfold writeAllEntries at h
    split at h <;> rename_i hs
    · obtain ⟨e', he', hse⟩ := ih h
      exact ⟨e', List.mem_cons_of_mem _ he', hse⟩
    · cases h; exact ⟨e, List.mem_cons_self _ _, hs⟩
    · obtain ⟨e', he', hse⟩ := ih h
      exact ⟨e', List.mem_cons_of_mem _ he', hse⟩

theorem fabricStatsRow_error {core : Core} {dev : Device} {deviceId : Int}
    {pData : MeasurementData} {e : Nat × AdditionalData} {r : XpumResult}
    (h : fabricStatsRow core dev deviceId pData e = some (.error r)) : r = .genericError := by
  unfold fabricStatsRow at h
  split at h
  · cases h
  · split at h <;> cases h; rfl

theorem fabricStatsRow_resolves {core : Core} {dev : Device} {deviceId : Int}
    {pData : MeasurementData} (e : Nat × AdditionalData)
    (h : (fabricStatsRow core dev deviceId pData e).isSome) :
    (dev.fabricThroughputInfo e.1).isSome := by
  unfold fabricStatsRow at h
  split at h
  · cases h
  · simp_all

/-- The write loop stores at most the resolving entries, and ends early only with
`XPUM_GENERIC_ERROR`: never with `XPUM_BUFFER_TOO_SMALL`. -/
theorem fabricStats_loop (core : Core) (dev : Device) (deviceId : Int)
    (pData : MeasurementData) :
    (writeAllEntries (fabricStatsRow core dev deviceId pData)
        pData.multiMetricsDatas.entries).1.length ≤ (resolvedLinks dev pData).length ∧
      (∀ r, (writeAllEntries (fabricStatsRow core dev deviceId pData)
        pData.multiMetricsDatas.entries).2 = some r → r = .genericError) ∧
      ∀ count window, (finishWrite count (writeAllEntries (fabricStatsRow core dev deviceId pData)
        pData.multiMetricsDatas.entries) window).result ≠ .bufferTooSmall := by
  have hcode : ∀ r, (writeAllEntries (fabricStatsRow core dev deviceId pData)
      pData.multiMetricsDatas.entries).2 = some r → r = .genericError := fun _ h => by
    obtain ⟨e, -, he⟩ := writeAllEntries_code h
    exact fabricStatsRow_error he
  refine ⟨(length_writeAllEntries_le _).trans (length_acceptedRows_le fabricStatsRow_resolves _),
    hcode, fun count window => ?_⟩
  rw [finishWrite_result]
  cases h : (writeAllEntries (fabricStatsRow core dev deviceId pData)
    pData.multiMetricsDatas.entries).2 with
  | none => simp
  | some r => simp [hcode r h]

/-! ### The calls -/

section Statistics

variable {core : Core} {deviceId : Int} {sessionId : Nat}

/-- Both calls report the metric check's code before anything else. -/
theorem getFabricThroughputStatistics_of_checkMetric {dev : Device} {r : XpumResult}
    (hdev : core.getDevice (toString deviceId) = some dev)
    (h : checkMetric dev core.enabledMetrics .metricFabricThroughput = some r)
    (dataListNull : Bool) (count : UInt32) :
    getFabricThroughputStatistics core deviceId dataListNull count sessionId =
      { result := r, count := 0 } := by
  simp [getFabricThroughputStatistics, hdev, h]

theorem getFabricThroughputStatistics_sizing {dev : Device}
    (hdev : core.getDevice (toString deviceId) = some dev)
    (h : checkMetric dev core.enabledMetrics .metricFabricThroughput = none) (count : UInt32) :
    getFabricThroughputStatistics core deviceId true count sessionId =
      { result := .ok, count := dev.fabricThroughputInfoCount } := by
  simp [getFabricThroughputStatistics, hdev, h]

/-- What a data call can end with: an early answer; `XPUM_BUFFER_TOO_SMALL` with the counting
loop's total, when the total exceeds `*count`; or the end of the write loop. -/
theorem getFabricThroughputStatistics_data_cases (core : Core) (deviceId : Int)
    (count : UInt32) (sessionId : Nat) :
    (getFabricThroughputStatistics core deviceId false count sessionId).Early ∨
      ∃ dev pData, core.getDevice (toString deviceId) = some dev ∧
        checkMetric dev core.enabledMetrics .metricFabricThroughput = none ∧
        core.latestStatistics .metricFabricThroughput (toString deviceId) sessionId =
          some pData ∧
        ((count < countResolved dev pData.multiMetricsDatas.entries 0 ∧
            getFabricThroughputStatistics core deviceId false count sessionId =
              { result := .bufferTooSmall,
                count := countResolved dev pData.multiMetricsDatas.entries 0 }) ∨
          (countResolved dev pData.multiMetricsDatas.entries 0 ≤ count ∧
            getFabricThroughputStatistics core deviceId false count sessionId =
              finishWrite count
                (writeAllEntries (fabricStatsRow core dev deviceId pData)
                  pData.multiMetricsDatas.entries)
                (some (core.fabricStatsTimestamp sessionId deviceId, core.currentTime)))) := by
  unfold getFabricThroughputStatistics
  split
  · exact .inl ⟨rfl, by simp, by simp⟩
  · rename_i dev hdev
    split
    · exact .inl (checkMetric_early ‹_› _)
    · simp only [Bool.false_or]
      split
      · exact .inl ⟨rfl, by simp, by simp_all⟩
      · split
        · exact .inl ⟨rfl, by simp, fun _ => rfl⟩
        · rename_i pData hp
          split
          · exact .inr ⟨dev, pData, hdev, ‹_›, hp, .inl ⟨‹_›, rfl⟩⟩
          · split
            · exact .inl ⟨rfl, by simp, fun _ => rfl⟩
            · exact .inr
                ⟨dev, pData, hdev, ‹_›, hp, .inr ⟨UInt32.not_lt.1 ‹_›, rfl⟩⟩

section Bounds

variable (count : UInt32)
  (hfew : ∀ dev pData, core.getDevice (toString deviceId) = some dev →
    core.latestStatistics .metricFabricThroughput (toString deviceId) sessionId = some pData →
    (resolvedLinks dev pData).length < 2 ^ 32)
include hfew

end Bounds

/-- A data call whose capacity covers every resolving entry never returns
`XPUM_BUFFER_TOO_SMALL`. -/
theorem getFabricThroughputStatistics_ne_bufferTooSmall (count : UInt32)
    (hfit : ∀ dev pData, core.getDevice (toString deviceId) = some dev →
      checkMetric dev core.enabledMetrics .metricFabricThroughput = none →
      core.latestStatistics .metricFabricThroughput (toString deviceId) sessionId = some pData →
      (resolvedLinks dev pData).length ≤ count.toNat) :
    (getFabricThroughputStatistics core deviceId false count sessionId).result ≠
      .bufferTooSmall := by
  rcases getFabricThroughputStatistics_data_cases core deviceId count sessionId with
    h | ⟨dev, pData, hdev, hc, hp, ⟨hlt, -⟩ | ⟨-, h⟩⟩
  · exact h.ne_bufferTooSmall
  · -- the counting loop's total never exceeds the number of resolving entries
    have htotal : (countResolved dev pData.multiMetricsDatas.entries 0).toNat ≤
        (resolvedLinks dev pData).length := by
      rw [countResolved_toNat, UInt32.toNat_zero, Nat.zero_add]
      exact Nat.mod_le _ _
    exact absurd hlt (UInt32.not_lt.2 (htotal.trans (hfit dev pData hdev hc hp)))
  · rw [h]
    exact (fabricStats_loop _ _ _ _).2.2 _ _

end Statistics

/-! ## `getFabricThroughput` -/

/-- One entry of the loop of `getFabricThroughput`. -/
def fabricThroughputRow (core : Core) (dev : Device) (pData : MeasurementData)
    (e : Nat × AdditionalData) : Option (Except XpumResult XpumDeviceFabricThroughputMetric) :=
  match dev.fabricThroughputInfo e.1 with
  | none => none
  | some info =>
    match core.getDeviceIDByFabricID info.remoteFabricId with
    | none => some (.error .genericError)
    | some remoteDeviceId =>
      some (.ok
        { tileId := info.attachId, remoteDeviceId, remoteDeviceTileId := info.remoteAttachId,
          type := Utility.toXPUMFabricThroughputType info.type,
          scale := if isCounterLink info.type then 1 else pData.scale, value := e.2.current })

/-- `DataLogic::getFabricThroughput`. `count` is the caller's `*count`; a data call with
`*count == 0` is answered as a sizing call. -/
def getFabricThroughput (core : Core) (deviceId : Int) (dataListNull : Bool) (count : UInt32) :
    QueryResult XpumDeviceFabricThroughputMetric :=
  match core.getDevice (toString deviceId) with
  | none => { result := .resultDeviceNotFound, count := 0 }
  | some dev =>
    match checkMetric dev core.enabledMetrics .metricFabricThroughput with
    | some r => { result := r, count := 0 }
    | none =>
      if dataListNull || count == 0 then { result := .ok, count := dev.fabricThroughputInfoCount }
      else
        match core.latestData .metricFabricThroughput (toString deviceId) with
        | none => { result := .ok, count := 0 }
        | some pData =>
          finishWrite count
            (writeEntries count.toNat (fabricThroughputRow core dev pData)
              pData.multiMetricsDatas.entries 0)
            none

theorem fabricThroughputRow_error {core : Core} {dev : Device} {pData : MeasurementData}
    {e : Nat × AdditionalData} {r : XpumResult}
    (h : fabricThroughputRow core dev pData e = some (.error r)) : r = .genericError := by
  unfold fabricThroughputRow at h
  split at h
  · cases h
  · split at h <;> cases h; rfl

theorem fabricThroughputRow_resolves {core : Core} {dev : Device} {pData : MeasurementData}
    (e : Nat × AdditionalData) (h : (fabricThroughputRow core dev pData e).isSome) :
    (dev.fabricThroughputInfo e.1).isSome := by
  unfold fabricThroughputRow at h
  split at h
  · cases h
  · simp_all

section Throughput

variable {core : Core} {deviceId : Int}

/-- Both calls report the metric check's code before anything else. -/
theorem getFabricThroughput_of_checkMetric {dev : Device} {r : XpumResult}
    (hdev : core.getDevice (toString deviceId) = some dev)
    (h : checkMetric dev core.enabledMetrics .metricFabricThroughput = some r)
    (dataListNull : Bool) (count : UInt32) :
    getFabricThroughput core deviceId dataListNull count = { result := r, count := 0 } := by
  simp [getFabricThroughput, hdev, h]

theorem getFabricThroughput_sizing {dev : Device}
    (hdev : core.getDevice (toString deviceId) = some dev)
    (h : checkMetric dev core.enabledMetrics .metricFabricThroughput = none) (count : UInt32) :
    getFabricThroughput core deviceId true count =
      { result := .ok, count := dev.fabricThroughputInfoCount } := by
  simp [getFabricThroughput, hdev, h]

/-- What a data call can end with: an early answer, the sizing answer when `*count` is 0, or
the end of its write loop. -/
theorem getFabricThroughput_data_cases (core : Core) (deviceId : Int) (count : UInt32) :
    (getFabricThroughput core deviceId false count).Early ∨
      (count = 0 ∧ (getFabricThroughput core deviceId false count).rows = [] ∧
        (getFabricThroughput core deviceId false count).result = .ok) ∨
      ∃ dev pData, core.getDevice (toString deviceId) = some dev ∧
        checkMetric dev core.enabledMetrics .metricFabricThroughput = none ∧
        core.latestData .metricFabricThroughput (toString deviceId) = some pData ∧
        getFabricThroughput core deviceId false count =
          finishWrite count
            (writeEntries count.toNat (fabricThroughputRow core dev pData)
              pData.multiMetricsDatas.entries 0)
            none := by
  unfold getFabricThroughput
  split
  · exact .inl ⟨rfl, by simp, by simp⟩
  · rename_i dev hdev
    split
    · exact .inl (checkMetric_early ‹_› _)
    · simp only [Bool.false_or]
      split
      · exact .inr (.inl ⟨beq_iff_eq.1 ‹_›, rfl, rfl⟩)
      · split
        · exact .inl ⟨rfl, by simp, fun _ => rfl⟩
        · exact .inr (.inr ⟨dev, _, hdev, ‹_›, ‹_›, rfl⟩)

/-- The data call stores no row at an index at or past the caller's `*count`. -/
theorem getFabricThroughput_rows_le (count : UInt32) :
    (getFabricThroughput core deviceId false count).rows.length ≤ count.toNat := by
  rcases getFabricThroughput_data_cases core deviceId count with
    h | ⟨-, h, -⟩ | ⟨dev, pData, -, -, -, h⟩
  · simp [h.rows_eq]
  · simp [h]
  · simpa [h] using writeEntries_length_le _ (Nat.zero_le _)

/-- A data call whose capacity covers every resolving entry never returns
`XPUM_BUFFER_TOO_SMALL`. -/
theorem getFabricThroughput_ne_bufferTooSmall (count : UInt32)
    (hfit : ∀ dev pData, core.getDevice (toString deviceId) = some dev →
      checkMetric dev core.enabledMetrics .metricFabricThroughput = none →
      core.latestData .metricFabricThroughput (toString deviceId) = some pData →
      (resolvedLinks dev pData).length ≤ count.toNat) :
    (getFabricThroughput core deviceId false count).result ≠ .bufferTooSmall := by
  rcases getFabricThroughput_data_cases core deviceId count with
    h | ⟨-, -, h⟩ | ⟨dev, pData, hdev, hc, hp, h⟩
  · exact h.ne_bufferTooSmall
  · simp [h]
  · rw [h]
    exact finishWrite_ne_bufferTooSmall (fun e he => by cases fabricThroughputRow_error he)
      ((length_acceptedRows_le fabricThroughputRow_resolves _).trans (hfit dev pData hdev hc hp))

end Throughput

end DataLogic

end XpuSmi
