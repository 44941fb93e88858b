import Mathlib.Data.Rat.Floor
import XpuSmi.DataLogic.Metrics

/-!
# `DumpRawDataTask::updateData`: the values a dump prints

A dump task prints one line of columns per refresh, about one device (`tileId == -1`) or one
of its tiles. `updateData` refreshes what the columns read. It takes the rows of
`getLatestMetrics` and files their entries into `rawDeviceDataMap` (the device row) and
`rawTileDataMap` (the tile rows, by tile id), a later entry for a metric replacing an earlier
one. A metric the tiles report and the device row does not gets a device-level value from the
tiles: the first tile's data, with every later tile folded in, summed for the metrics of
`sumMetricsList` and averaged for the others. `rawDataMap`, what the stats and
throttle-reason columns read, is the device row's data with these aggregates, or a tile's own
data for a tile dump.

The `double` steps of the average are exact here, over `ℚ`; `std::round` and the store of a
`double` into a `uint64_t` are `cRound` and `doubleToUInt64`. The `uint64_t` products
`value * scale` wrap, as in the code.

* `aggregateTiles_sum` — for a sum metric whose tiles report one positive scale, the
  aggregate is the sum of the tile values, while nothing wraps;
* `aggregateNext_mean` — a later tile of an averaged metric sets the value to
  `agg * tileCount + tile / (tileCount + 1)`, rounded: the division reaches the new tile's
  term only;
* `updateRawData_of_tiles` — for a metric the device row lacks, `rawDataMap` holds the
  aggregate of the tiles that report it, in tile-id order.
-/

namespace XpuSmi

namespace DumpRawDataTask

open DataLogic

/-! ## The `double` steps -/

/-- `std::round` of a `double`, taken as exact: the nearest integer, halves away from zero. -/
def cRound (q : ℚ) : ℤ := if 0 ≤ q then ⌊q + 1 / 2⌋ else -⌊-q + 1 / 2⌋

/-- A `double` stored into a `uint64_t`: truncated toward zero. The store is undefined out of
range; here it wraps. -/
def doubleToUInt64 (q : ℚ) : UInt64Val := BitVec.ofInt 64 (if 0 ≤ q then ⌊q⌋ else ⌈q⌉)

/-- `round(x * 100) / 100`, stored into the `uint64_t` value. -/
def roundTwoDecimals (q : ℚ) : UInt64Val := doubleToUInt64 ((cRound (q * 100) : ℚ) / 100)

/-! ## The tile aggregation -/

/-- The data of one more tile folded into the aggregate `agg` of the `tileCount` tiles before
it: the `tileCount != 0` branch of the loop. The `int32_t` scales and the `int` count enter
the `uint64_t` products as `uint64_t`. -/
def aggregateNext (isSum : Bool) (tileCount : Nat) (agg tile : XpumDeviceMetricData) :
    XpumDeviceMetricData :=
  if isSum then
    if agg.scale == 0 then tile
    else
      { agg with
        value := agg.value + tile.value * BitVec.ofInt 64 tile.scale / BitVec.ofInt 64 agg.scale }
  else if agg.scale == 0 then
    if tile.scale != 0 then
      { tile with value := roundTwoDecimals ((tile.value.toNat : ℚ) / (1 + tileCount : ℚ)) }
    else agg
  else
    { agg with
      value := roundTwoDecimals
        ((((agg.value * BitVec.ofInt 64 agg.scale * BitVec.ofNat 64 tileCount).toNat : ℚ) +
          ((tile.value * BitVec.ofInt 64 tile.scale).toNat : ℚ) / (1 + tileCount : ℚ)) /
            (agg.scale : ℚ)) }

/-- The tile loop of `updateData` for one metric past its first tile: the remaining tiles that
report the metric, in tile-id order, with `tileCount` tiles already folded into `agg`. -/
def aggregateRest (isSum : Bool) :
    List XpumDeviceMetricData → Nat → XpumDeviceMetricData → XpumDeviceMetricData
  | [], _, agg => agg
  | tile :: rest, tileCount, agg =>
    aggregateRest isSum rest (tileCount + 1) (aggregateNext isSum tileCount agg tile)

/-- The device-level data of a metric from the tiles that report it, in tile-id order: the
first tile's data (`tileCount == 0`) with each later tile folded in; none when no tile
reports the metric. -/
def aggregateTiles (isSum : Bool) : List XpumDeviceMetricData → Option XpumDeviceMetricData
  | [] => none
  | first :: rest => some (aggregateRest isSum rest 1 first)

/-! ### What one tile does -/

@[simp] theorem uint64_toNat_ofNat (n : Nat) :
    (no_index (OfNat.ofNat n : UInt64Val)).toNat = n % 2 ^ 64 :=
  rfl

theorem toNat_ofInt_natCast {s : Nat} (hs : s < 2 ^ 64) :
    (BitVec.ofInt 64 (s : Int)).toNat = s := by
  rw [BitVec.toNat_ofInt]; omega

/-- `value * scale / scale` in `uint64_t` is `value` while the product does not wrap. -/
theorem mul_div_scale {t : UInt64Val} {s : Nat} (hs : 0 < s) (hs64 : s < 2 ^ 64)
    (h : t.toNat * s < 2 ^ 64) : t * BitVec.ofInt 64 (s : Int) / BitVec.ofInt 64 (s : Int) = t := by
  apply BitVec.eq_of_toNat_eq
  rw [BitVec.toNat_udiv, BitVec.toNat_mul, toNat_ofInt_natCast hs64, Nat.mod_eq_of_lt h,
    Nat.mul_div_cancel _ hs]

section SameScale

variable {tileCount : Nat} {agg tile : XpumDeviceMetricData} {s : Nat}

/-- A later tile of a sum metric, at the aggregate's positive scale: its value is added, while
`value * scale` does not wrap. -/
theorem aggregateNext_sum (hagg : agg.scale = s) (htile : tile.scale = s) (hs : 0 < s)
    (hs64 : s < 2 ^ 64) (hprod : tile.value.toNat * s < 2 ^ 64) :
    aggregateNext true tileCount agg tile = { agg with value := agg.value + tile.value } := by
  have hs0 : (s : Int) ≠ 0 := by omega
  simp only [aggregateNext, ite_true, beq_iff_eq, hagg, hs0, ite_false, htile,
    mul_div_scale hs hs64 hprod]

/-- **The average's step.** A later tile of an averaged metric, at the aggregate's positive
scale, with no wrap in the `uint64_t` products: the new value is
`agg * tileCount + tile / (tileCount + 1)`, rounded to two decimals. The division by
`1 + tileCount` reaches the new tile's term only, where a running mean divides the sum. -/
theorem aggregateNext_mean (hagg : agg.scale = s) (htile : tile.scale = s) (hs : 0 < s)
    (hs64 : s < 2 ^ 64) (hk : 0 < tileCount) (hagg64 : agg.value.toNat * s * tileCount < 2 ^ 64)
    (hprod : tile.value.toNat * s < 2 ^ 64) (hcount : tileCount < 2 ^ 64) :
    aggregateNext false tileCount agg tile =
      { agg with
        value := roundTwoDecimals
          (agg.value.toNat * tileCount + tile.value.toNat / (tileCount + 1 : ℚ)) } := by
  have hs0 : (s : Int) ≠ 0 := by omega
  have hq : (s : ℚ) ≠ 0 := by exact_mod_cast hs.ne'
  have hagg64' : agg.value.toNat * s < 2 ^ 64 :=
    lt_of_le_of_lt (Nat.le_mul_of_pos_right _ hk) hagg64
  simp only [aggregateNext, Bool.false_eq_true, ite_false, beq_iff_eq, hagg, hs0, htile]
  congr 2
  rw [BitVec.toNat_mul, BitVec.toNat_mul, BitVec.toNat_mul, toNat_ofInt_natCast hs64,
    BitVec.toNat_ofNat, Nat.mod_eq_of_lt hcount, Nat.mod_eq_of_lt hagg64',
    Nat.mod_eq_of_lt hagg64, Nat.mod_eq_of_lt hprod]
  push_cast
  field_simp
  ring

/-- The loop past the first tile of a sum metric, all at one positive scale: the value grows
by the remaining tiles' values, while nothing wraps. -/
theorem aggregateRest_sum {rest : List XpumDeviceMetricData} (hs : 0 < s) (hs64 : s < 2 ^ 64)
    (hscale : ∀ t ∈ rest, t.scale = s) (hprod : ∀ t ∈ rest, t.value.toNat * s < 2 ^ 64)
    (tileCount : Nat) (hagg : agg.scale = s)
    (hsum : agg.value.toNat + (rest.map (·.value.toNat)).sum < 2 ^ 64) :
    (aggregateRest true rest tileCount agg).value.toNat =
      agg.value.toNat + (rest.map (·.value.toNat)).sum := by
  induction rest generalizing tileCount agg with
  | nil => simp [aggregateRest]
  | cons tile rest ih =>
    simp only [List.mem_cons, forall_eq_or_imp] at hscale hprod
    simp only [List.map_cons, List.sum_cons] at hsum ⊢
    have hadd : (agg.value + tile.value).toNat = agg.value.toNat + tile.value.toNat := by
      rw [BitVec.toNat_add]; omega
    rw [aggregateRest, aggregateNext_sum hagg hscale.1 hs hs64 hprod.1,
      @ih { agg with value := agg.value + tile.value } hscale.2 hprod.2 _ hagg
        (by simp only [hadd]; omega)]
    simp only [hadd]; omega

end SameScale

/-- **Sums.** For a sum metric whose tiles all report one positive scale, the device-level
value is the sum of the tile values, while no `value * scale` and no partial sum wraps. -/
theorem aggregateTiles_sum {tiles : List XpumDeviceMetricData} {s : Nat} (hne : tiles ≠ [])
    (hs : 0 < s) (hs64 : s < 2 ^ 64) (hscale : ∀ t ∈ tiles, t.scale = s)
    (hprod : ∀ t ∈ tiles, t.value.toNat * s < 2 ^ 64)
    (hsum : (tiles.map (·.value.toNat)).sum < 2 ^ 64) :
    (aggregateTiles true tiles).map (·.value.toNat) = some (tiles.map (·.value.toNat)).sum := by
  obtain ⟨first, rest, rfl⟩ := List.exists_cons_of_ne_nil hne
  simp only [List.mem_cons, forall_eq_or_imp] at hscale hprod
  simp only [List.map_cons, List.sum_cons] at hsum ⊢
  rw [aggregateTiles, Option.map_some',
    aggregateRest_sum hs hs64 hscale.2 hprod.2 1 hscale.1 hsum]

/-! ## The maps -/

/-- A `std::map<xpum_stats_type_t, xpum_device_metric_data_t>` that the code only writes with
`map[type] = data`, looks up and copies whole: the data under each type. -/
abbrev MetricDataMap := XpumStatsType → Option XpumDeviceMetricData

/-- `map[data.metricsType] = data`. -/
def MetricDataMap.set (m : MetricDataMap) (data : XpumDeviceMetricData) : MetricDataMap :=
  fun t => if t = data.metricsType then some data else m t

/-- The two maps `updateData` files the rows' entries into. -/
structure RawMaps where
  rawDeviceDataMap : MetricDataMap
  rawTileDataMap : StdMap Int MetricDataMap

/-- One row of `deviceMetricsList` filed: a tile row's entries under
`rawTileDataMap[tileId][metricsType]`, the device row's under
`rawDeviceDataMap[metricsType]`. -/
def RawMaps.addRow (maps : RawMaps) (row : XpumDeviceMetrics) : RawMaps :=
  if row.isTileData then
    { maps with
      rawTileDataMap := row.dataList.foldl
        (fun tiles data => tiles.alter row.tileId (fun _ => none) (·.set data))
        maps.rawTileDataMap }
  else { maps with rawDeviceDataMap := row.dataList.foldl MetricDataMap.set maps.rawDeviceDataMap }

/-- The maps after the loop over `deviceMetricsList`. -/
def rawMaps (deviceMetricsList : List XpumDeviceMetrics) : RawMaps :=
  deviceMetricsList.foldl RawMaps.addRow ⟨fun _ => none, .empty⟩

/-- The data the tiles report for a metric, in tile-id order. -/
def tileDatas (tiles : StdMap Int MetricDataMap) (metric : XpumStatsType) :
    List XpumDeviceMetricData :=
  tiles.entries.filterMap (·.2 metric)

/-- `rawDataMap` after the metric part of `updateData` for a dump of tile `tileId` (`-1`: the
whole device). `isSumMetric` is membership in `sumMetricsList`, which is not among the
sources. A device dump gets the device row's data and, for each metric only the tiles report
(`aggregatedMetricTypes`, the tiles' types less the device row's), the tiles' aggregate; a tile
dump gets the tile's own data. -/
def updateRawData (isSumMetric : XpumStatsType → Bool) (tileId : Int)
    (deviceMetricsList : List XpumDeviceMetrics) : MetricDataMap :=
  let maps := rawMaps deviceMetricsList
  if tileId = -1 then fun metric =>
    match maps.rawDeviceDataMap metric with
    | some data => some data
    | none => aggregateTiles (isSumMetric metric) (tileDatas maps.rawTileDataMap metric)
  else fun metric => (maps.rawTileDataMap.find? tileId).bind (· metric)

/-- `updateData` reads the rows of `getLatestMetrics`; they fill the vector its sizing call
sized whenever `num_subdevice + 1` is an `int`. -/
def updateData (core : Core) (deviceId : Int) (isSumMetric : XpumStatsType → Bool)
    (tileId : Int) : MetricDataMap :=
  updateRawData isSumMetric tileId (getLatestMetrics core deviceId false 0).rows

/-- A device dump's value for a metric the device row lacks is the aggregate of the tiles that
report it, in tile-id order. -/
theorem updateRawData_of_tiles {isSumMetric : XpumStatsType → Bool}
    {deviceMetricsList : List XpumDeviceMetrics} {metric : XpumStatsType}
    (h : (rawMaps deviceMetricsList).rawDeviceDataMap metric = none) :
    updateRawData isSumMetric (-1) deviceMetricsList metric =
      aggregateTiles (isSumMetric metric)
        (tileDatas (rawMaps deviceMetricsList).rawTileDataMap metric) := by
  simp [updateRawData, h]

/-- Two tiles report an averaged metric, with 10 and 20, and the device row does not: the
device-level value is 20 (`10 * 1 + 20 / 2`), where the mean is 15. -/
theorem updateRawData_tile_mean_diverges (isSumMetric : XpumStatsType → Bool)
    (metric : XpumStatsType) (h : isSumMetric metric = false) :
    (updateRawData isSumMetric (-1)
        [{ deviceId := 0, isTileData := false, tileId := 0, dataList := [] },
          { deviceId := 0, isTileData := true, tileId := 0,
            dataList :=
              [{ metricsType := metric, isCounter := false, value := 10, timestamp := 0,
                  scale := 1 }] },
          { deviceId := 0, isTileData := true, tileId := 1,
            dataList :=
              [{ metricsType := metric, isCounter := false, value := 20, timestamp := 0,
                  scale := 1 }] }]
        metric).map (·.value) = some 20 := by
  rw [updateRawData_of_tiles (by simp [rawMaps, RawMaps.addRow]), h]
  norm_num [tileDatas, rawMaps, RawMaps.addRow, StdMap.alter, StdMap.alterEntries,
    MetricDataMap.set, List.filterMap_cons, aggregateTiles, aggregateRest]
  rw [aggregateNext_mean rfl rfl one_pos (by norm_num) one_pos (by simp) (by simp)
    (by norm_num)]
  dsimp only
  norm_num [roundTwoDecimals, cRound, doubleToUInt64]
  rfl

/-- With no sum metric at all, the GPU temperature shows the divergence. -/
theorem updateRawData_tile_mean_diverges_temperature :
    (fun _ => false : XpumStatsType → Bool) .statsGpuCoreTemperature = false ∧
      (updateRawData (fun _ => false) (-1)
          [{ deviceId := 0, isTileData := false, tileId := 0, dataList := [] },
            { deviceId := 0, isTileData := true, tileId := 0,
              dataList :=
                [{ metricsType := .statsGpuCoreTemperature, isCounter := false, value := 10,
                    timestamp := 0, scale := 1 }] },
            { deviceId := 0, isTileData := true, tileId := 1,
              dataList :=
                [{ metricsType := .statsGpuCoreTemperature, isCounter := false, value := 20,
                    timestamp := 0, scale := 1 }] }]
          .statsGpuCoreTemperature).map (·.value) = some 20 :=
  ⟨rfl, updateRawData_tile_mean_diverges _ _ rfl⟩

end DumpRawDataTask

end XpuSmi
