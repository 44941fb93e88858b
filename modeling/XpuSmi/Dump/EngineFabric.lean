import XpuSmi.Basic.Decimal
import XpuSmi.DataLogic.Engine
import XpuSmi.DataLogic.Fabric
import XpuSmi.DataLogic.FabricLink
import XpuSmi.Dump.Columns

/-!
# The engine and fabric columns of a dump

Besides `rawDataMap`, `updateData` refreshes the two maps the engine and fabric columns read.
It asks `getEngineUtilizations` and `getFabricThroughput` for their rows, each time with a
sizing call (`nullptr`) and then a data call into a `std::vector` of the size the first call
reported:

* `engineUtilRawDataMap` holds the utilization rows by engine type and engine index, in
  order; a tile dump keeps only the rows of its tile. The loop reads the first `*count`
  entries of the vector.
* `fabricRawDataMap` holds the throughput rows by the text `"<device>/<tile>-><device>/<tile>"`
  of the direction they measure, the last row of a key winning. The loop reads every entry of
  the vector, whatever the data call stored.

An engine column shows the first row of its engine (and, when the engines are counted per
tile, of its tile); a fabric column shows the row under the key of its direction.

* `updateEngineData_eq` — the engine loop reads exactly the rows the data call stored, never
  an entry the call left value-initialized and never past the vector, although
  `getEngineUtilizations` ignores the caller's capacity;
* `engineColumns_show_first_row` — every engine column shows the first stored row of the
  engine type, index and tile its header names;
* `fabricKey_injective` — the key text names one direction;
* `updateFabricData_eq` — the fabric loop files the stored rows and then every entry the data
  call left value-initialized;
* `fabricColumns_show_header_direction` — every fabric column shows the last entry the loop
  read for the direction its header names;
* `updateFabricData_value_initialized` — when the data call stores fewer rows than the sizing
  call reported, the value-initialized row is filed last, under its own key.
-/

namespace XpuSmi

namespace DumpRawDataTask

open DataLogic

/-! ## Vectors filled by a data call -/

section Vector

variable {α : Type}

/-- `std::vector<T> v(size)` after a call stored `rows` through `v.data()`: entry `i` is the
`i`-th row stored, or the value-initialized `zero` where the call stored nothing. -/
def vectorAfter (size : Nat) (zero : α) (rows : List α) : List α :=
  (List.range size).map fun i => rows.getD i zero

/-- The entries `v[0]`, ..., `v[n - 1]` a loop `for (i = 0; i < n; i++)` reads; `none` when
`n` is past the end of `v`. -/
def readPrefix (v : List α) (n : Nat) : Option (List α) :=
  if n ≤ v.length then some (v.take n) else none

@[simp] theorem length_vectorAfter (size : Nat) (zero : α) (rows : List α) :
    (vectorAfter size zero rows).length = size := by
  simp [vectorAfter]

/-- A vector the call filled up to `rows.length` holds the rows, then value-initialized
entries. -/
theorem vectorAfter_eq {size : Nat} {rows : List α} (h : rows.length ≤ size) (zero : α) :
    vectorAfter size zero rows = rows ++ List.replicate (size - rows.length) zero := by
  apply List.ext_getElem (by simp; omega)
  intro i h1 h2
  simp only [vectorAfter, List.getElem_map, List.getElem_range, List.getD_eq_getElem?_getD]
  by_cases hi : i < rows.length
  · rw [List.getElem_append_left hi, List.getElem?_eq_getElem hi, Option.getD_some]
  · rw [List.getElem_append_right (by omega), List.getElem_replicate,
      List.getElem?_eq_none (by omega), Option.getD_none]

/-- Reading as many entries as the call stored reads exactly the stored rows. -/
theorem readPrefix_vectorAfter {size : Nat} {rows : List α} (h : rows.length ≤ size)
    (zero : α) : readPrefix (vectorAfter size zero rows) rows.length = some rows := by
  rw [readPrefix, if_pos (by simpa using h), vectorAfter_eq h, List.take_left]

end Vector

/-! ## Engine utilization -/

/-- `engineUtilRawDataMap`: engine type, then engine index, to the rows filed there, in
order. A key the task never filed reads as no row. -/
abbrev EngineUtilRawDataMap := XpumEngineType → Nat → List XpumDeviceEngineMetric

/-- `engineUtilRawDataMap[row.type][row.index].push_back(row)`, creating the entries first when
they are missing. -/
def EngineUtilRawDataMap.push (m : EngineUtilRawDataMap) (row : XpumDeviceEngineMetric) :
    EngineUtilRawDataMap :=
  fun type index =>
    if row.type = type ∧ row.index.toNat = index then m type index ++ [row] else m type index

/-- Whether `updateData` files an engine row: every row for a device dump (`tileId == -1`), a
tile row of the dumped tile for a tile dump. -/
def keepsEngineRow (tileId : Int) (row : XpumDeviceEngineMetric) : Bool :=
  tileId == -1 || (row.isTileData && tileId == row.tileId)

/-- One pass of the engine loop of `updateData`. -/
def fileEngineRow (tileId : Int) (m : EngineUtilRawDataMap) (row : XpumDeviceEngineMetric) :
    EngineUtilRawDataMap :=
  if keepsEngineRow tileId row then m.push row else m

/-- `*count` after the sizing call `getEngineUtilizations(deviceId, nullptr, &size)`. -/
def engineSizingCount (core : Core) (deviceId : Int) : UInt32 :=
  (getEngineUtilizations core deviceId true 0).count

/-- The data call `getEngineUtilizations(deviceId, list.data(), &size)` on a vector of the
size the sizing call reported. `data()` of an empty vector may be a null pointer (it is with
libstdc++): `emptyDataNull` says which. -/
def engineDataCall (core : Core) (deviceId : Int) (emptyDataNull : Bool) :
    QueryResult XpumDeviceEngineMetric :=
  getEngineUtilizations core deviceId (engineSizingCount core deviceId == 0 && emptyDataNull)
    (engineSizingCount core deviceId)

/-- The engine part of `updateData`: `engineUtilRawDataMap` after the loop over the first
`*count` entries of the vector, where `zero` is the value-initialized row; `none` when the loop
would read past the vector. -/
def updateEngineData (core : Core) (deviceId tileId : Int) (emptyDataNull : Bool)
    (zero : XpumDeviceEngineMetric) : Option EngineUtilRawDataMap :=
  (readPrefix
      (vectorAfter (engineSizingCount core deviceId).toNat zero
        (engineDataCall core deviceId emptyDataNull).rows)
      (engineDataCall core deviceId emptyDataNull).count.toNat).map
    (·.foldl (fileEngineRow tileId) fun _ _ => [])

/-- The data call leaves in `*count` the number of rows it stored, and stores no more than the
sizing call reported. -/
theorem engineDataCall_count (core : Core) (deviceId : Int) (emptyDataNull : Bool) :
    (engineDataCall core deviceId emptyDataNull).count.toNat =
        (engineDataCall core deviceId emptyDataNull).rows.length ∧
      (engineDataCall core deviceId emptyDataNull).rows.length ≤
        (engineSizingCount core deviceId).toNat := by
  unfold engineDataCall engineSizingCount
  cases hdev : core.getDevice (toString deviceId) with
  | none => simp [getEngineUtilizations, hdev]
  | some dev =>
    cases hcm : checkMetric dev core.enabledMetrics .metricEngineUtilization with
    | some r => simp [getEngineUtilizations_of_checkMetric hdev hcm]
    | none =>
      rw [getEngineUtilizations_sizing hdev hcm]
      cases hnull : (dev.engineCount == 0 && emptyDataNull) with
      | true =>
        simp only [Bool.and_eq_true, beq_iff_eq] at hnull
        simp [getEngineUtilizations_sizing hdev hcm, hnull.1]
      | false =>
        simp only [getEngineUtilizations, hdev, hcm, Bool.false_eq_true, ite_false]
        split
        · simp
        · rw [finishWrite_rows]
          exact finishWrite_count_eq_length fun e r => engineUtilizationRow_ne_error _ _ e r

/-- **The engine loop reads what was stored.** Whatever the device, its engines and its
sample, the loop of `updateData` reads exactly the rows the data call stored, in order: never
past the vector and never an entry the call left value-initialized. -/
theorem updateEngineData_eq (core : Core) (deviceId tileId : Int) (emptyDataNull : Bool)
    (zero : XpumDeviceEngineMetric) :
    updateEngineData core deviceId tileId emptyDataNull zero =
      some ((engineDataCall core deviceId emptyDataNull).rows.foldl (fileEngineRow tileId)
        fun _ _ => []) := by
  obtain ⟨hcount, hle⟩ := engineDataCall_count core deviceId emptyDataNull
  rw [updateEngineData, hcount, readPrefix_vectorAfter hle, Option.map_some']

/-- After the loop over `rows`, the rows under an engine type and an index are the rows kept
with that type and index, in order. -/
theorem foldl_fileEngineRow (tileId : Int) (rows : List XpumDeviceEngineMetric)
    (m : EngineUtilRawDataMap) (type : XpumEngineType) (index : Nat) :
    (rows.foldl (fileEngineRow tileId) m) type index =
      m type index ++ rows.filter fun row =>
        keepsEngineRow tileId row && row.type == type && row.index.toNat == index := by
  induction rows generalizing m with
  | nil => simp
  | cons row rows ih =>
    rw [List.foldl_cons, ih, List.filter_cons]
    by_cases hk : keepsEngineRow tileId row = true <;>
      by_cases ht : row.type = type ∧ row.index.toNat = index <;>
      simp [fileEngineRow, EngineUtilRawDataMap.push, hk, ht]

/-- The value an engine column's closure returns: the first row under its engine type and
index (when the engines are counted per tile, the first of its tile), scaled; the empty string
when there is none. -/
def engineColumnValue (config : DumpTypeOption) (needAggFromTiles : Bool) (tileId : Int)
    (engineType : XpumEngineType) (engineIdx : Nat) (m : EngineUtilRawDataMap) : String :=
  match (if needAggFromTiles then (m engineType engineIdx).find? fun d => tileId == d.tileId
    else (m engineType engineIdx).head?) with
  | none => ""
  | some data => getScaledValue data.value ⟨BitVec.ofInt 32 (data.scale * config.scale)⟩

/-- The engine column's closure on the map the loop filled: the first stored row, among the
rows the dump keeps, with the column's engine type and index (and tile, when the engines are
counted per tile), scaled. -/
theorem engineColumnValue_updateEngineData {core : Core} {deviceId tileId : Int}
    {emptyDataNull : Bool} {zero : XpumDeviceEngineMetric} {m : EngineUtilRawDataMap}
    (hm : updateEngineData core deviceId tileId emptyDataNull zero = some m)
    (config : DumpTypeOption) (needAggFromTiles : Bool) (columnTile : Int)
    (engineType : XpumEngineType) (engineIdx : Nat) :
    engineColumnValue config needAggFromTiles columnTile engineType engineIdx m =
      match (engineDataCall core deviceId emptyDataNull).rows.find? (fun row =>
          keepsEngineRow tileId row && row.type == engineType && row.index.toNat == engineIdx &&
            (!needAggFromTiles || columnTile == row.tileId)) with
      | none => ""
      | some data =>
        getScaledValue data.value ⟨BitVec.ofInt 32 (data.scale * config.scale)⟩ := by
  obtain ⟨hcount, hle⟩ := engineDataCall_count core deviceId emptyDataNull
  rw [updateEngineData, hcount, readPrefix_vectorAfter hle, Option.map_some',
    Option.some.injEq] at hm
  subst hm
  rw [engineColumnValue, foldl_fileEngineRow, List.nil_append]
  congr 1
  cases needAggFromTiles
  · simp
  · rw [if_pos rfl, List.find?_filter]
    simp only [Bool.decide_and, Bool.decide_eq_true, Bool.not_true, Bool.false_or]

/-! ## Fabric keys -/

/-- The text `"<a>/<b>-><c>/<d>"` a `std::stringstream` builds for the direction from tile `b`
of device `a` to tile `d` of device `c`: the key `updateData` files a throughput row under, and
the key a fabric column looks up. -/
def fabricKey (a b c d : Int) : String :=
  toString a ++ "/" ++ toString b ++ "->" ++ toString c ++ "/" ++ toString d

/-- A separator that is in neither prefix splits both texts at the same place. -/
theorem append_cons_cancel {x : Char} {p p' q q' : List Char} (hp : x ∉ p) (hp' : x ∉ p')
    (h : p ++ x :: q = p' ++ x :: q') : p = p' ∧ q = q' := by
  induction p generalizing p' with
  | nil =>
    cases p' with
    | nil => exact ⟨rfl, (List.cons.inj h).2⟩
    | cons y p' => exact absurd ((List.cons.inj h).1 ▸ List.mem_cons_self _ _) hp'
  | cons y p ih =>
    cases p' with
    | nil => exact absurd ((List.cons.inj h).1 ▸ List.mem_cons_self _ _) hp
    | cons y' p' =>
      simp only [List.cons_append, List.cons.injEq] at h
      obtain ⟨rfl, h⟩ := h
      obtain ⟨rfl, rfl⟩ := ih (fun h' => hp (List.mem_cons_of_mem _ h'))
        (fun h' => hp' (List.mem_cons_of_mem _ h')) h
      exact ⟨rfl, rfl⟩

theorem slash_not_mem_toString (n : Int) : '/' ∉ (toString n).data := fun h => by
  rcases Decimal.mem_toString_int h with h | h <;> revert h <;> decide

theorem gt_not_mem_toString (n : Int) : '>' ∉ (toString n).data := fun h => by
  rcases Decimal.mem_toString_int h with h | h <;> revert h <;> decide

theorem fabricKey_data (a b c d : Int) :
    (fabricKey a b c d).data =
      (toString a).data ++ '/' :: ((toString b).data ++ ['-'] ++
        '>' :: ((toString c).data ++ '/' :: (toString d).data)) := by
  simp [fabricKey]

/-- **A key names one direction.** The text `"<a>/<b>-><c>/<d>"` determines `a`, `b`, `c` and
`d`: rows of different directions never share a key. -/
theorem fabricKey_injective {a b c d a' b' c' d' : Int}
    (h : fabricKey a b c d = fabricKey a' b' c' d') : a = a' ∧ b = b' ∧ c = c' ∧ d = d' := by
  have h := congrArg String.data h
  rw [fabricKey_data, fabricKey_data] at h
  obtain ⟨ha, h⟩ := append_cons_cancel (slash_not_mem_toString a) (slash_not_mem_toString a') h
  obtain ⟨hb, h⟩ := append_cons_cancel
    (by simpa using gt_not_mem_toString b) (by simpa using gt_not_mem_toString b') h
  obtain ⟨hc, hd⟩ := append_cons_cancel (slash_not_mem_toString c) (slash_not_mem_toString c') h
  exact ⟨Decimal.toString_int_injective (String.ext ha),
    Decimal.toString_int_injective (String.ext (List.append_cancel_right hb)),
    Decimal.toString_int_injective (String.ext hc),
    Decimal.toString_int_injective (String.ext hd)⟩

/-! ## Fabric throughput -/

/-- The direction a throughput row measures, as (device, tile) it is from and (device, tile) it
is to: from its tile to the remote tile for a transmitted row, the other way for a received
one. The counters have none: `updateData` skips them. -/
def fabricRowDirection (deviceId : Int) (row : XpumDeviceFabricThroughputMetric) :
    Option (Int × Int × Int × Int) :=
  match row.type with
  | .fabricThroughputTypeTransmitted =>
    some (deviceId, row.tileId, row.remoteDeviceId, row.remoteDeviceTileId)
  | .fabricThroughputTypeReceived =>
    some (row.remoteDeviceId, row.remoteDeviceTileId, deviceId, row.tileId)
  | _ => none

/-- `fabricRawDataMap`: key text to the row filed under it last. -/
abbrev FabricRawDataMap := String → Option XpumDeviceFabricThroughputMetric

/-- One pass of the fabric loop of `updateData`: `fabricRawDataMap[key] = row` under the key of
the row's direction; `continue` for a counter. -/
def fileFabricRow (deviceId : Int) (m : FabricRawDataMap) (row : XpumDeviceFabricThroughputMetric) :
    FabricRawDataMap :=
  match fabricRowDirection deviceId row with
  | none => m
  | some (a, b, c, d) => fun key => if key = fabricKey a b c d then some row else m key

/-- `*count` after the sizing call `getFabricThroughput(deviceId, nullptr, &size)`. -/
def fabricSizingCount (core : Core) (deviceId : Int) : UInt32 :=
  (getFabricThroughput core deviceId true 0).count

/-- The data call `getFabricThroughput(deviceId, list.data(), &size)` on a vector of the size
the sizing call reported. -/
def fabricDataCall (core : Core) (deviceId : Int) (emptyDataNull : Bool) :
    QueryResult XpumDeviceFabricThroughputMetric :=
  getFabricThroughput core deviceId (fabricSizingCount core deviceId == 0 && emptyDataNull)
    (fabricSizingCount core deviceId)

/-- The fabric part of `updateData`: `fabricRawDataMap` after the loop over every entry of the
vector, where `zero` is the value-initialized row. -/
def updateFabricData (core : Core) (deviceId : Int) (emptyDataNull : Bool)
    (zero : XpumDeviceFabricThroughputMetric) : FabricRawDataMap :=
  (vectorAfter (fabricSizingCount core deviceId).toNat zero
      (fabricDataCall core deviceId emptyDataNull).rows).foldl
    (fileFabricRow deviceId) fun _ => none

/-- The value a fabric column's closure returns: the row under its key, scaled to kB/s; the
empty string when there is none. -/
def fabricColumnValue (config : DumpTypeOption) (key : String) (m : FabricRawDataMap) : String :=
  match m key with
  | none => ""
  | some data => getScaledValue data.value ⟨BitVec.ofInt 32 (data.scale * config.scale * 1000)⟩

theorem getFabricThroughput_null_rows (core : Core) (deviceId : Int) (count : UInt32) :
    (getFabricThroughput core deviceId true count).rows = [] := by
  unfold getFabricThroughput
  split
  · rfl
  · split <;> simp

/-- The data call stores no more rows than the sizing call reported. -/
theorem fabricDataCall_rows_le (core : Core) (deviceId : Int) (emptyDataNull : Bool) :
    (fabricDataCall core deviceId emptyDataNull).rows.length ≤
      (fabricSizingCount core deviceId).toNat := by
  unfold fabricDataCall
  cases (fabricSizingCount core deviceId == 0 && emptyDataNull)
  · exact getFabricThroughput_rows_le _
  · simp [getFabricThroughput_null_rows]

/-- **The fabric loop reads every entry.** The loop of `updateData` files the rows the data
call stored, in order, and then one value-initialized entry for each row the sizing call
reported and the data call did not store. -/
theorem updateFabricData_eq (core : Core) (deviceId : Int) (emptyDataNull : Bool)
    (zero : XpumDeviceFabricThroughputMetric) :
    updateFabricData core deviceId emptyDataNull zero =
      ((fabricDataCall core deviceId emptyDataNull).rows ++
          List.replicate ((fabricSizingCount core deviceId).toNat -
            (fabricDataCall core deviceId emptyDataNull).rows.length) zero).foldl
        (fileFabricRow deviceId) fun _ => none := by
  rw [updateFabricData, vectorAfter_eq (fabricDataCall_rows_le core deviceId emptyDataNull)]

/-- Filing a row under the key of a direction: the row, when it measures that direction. -/
theorem fileFabricRow_key (deviceId : Int) (m : FabricRawDataMap)
    (row : XpumDeviceFabricThroughputMetric) (a b c d : Int) :
    fileFabricRow deviceId m row (fabricKey a b c d) =
      if fabricRowDirection deviceId row = some (a, b, c, d) then some row
      else m (fabricKey a b c d) := by
  unfold fileFabricRow
  cases hdir : fabricRowDirection deviceId row with
  | none => simp
  | some dir =>
    obtain ⟨a', b', c', d'⟩ := dir
    by_cases hk : fabricKey a b c d = fabricKey a' b' c' d'
    · obtain ⟨rfl, rfl, rfl, rfl⟩ := fabricKey_injective hk
      simp
    · simp only [hk, if_false, Option.some.injEq, Prod.mk.injEq]
      rw [if_neg]
      rintro ⟨rfl, rfl, rfl, rfl⟩
      exact hk rfl

/-- After the loop, the key of a direction holds the last row of that direction. -/
theorem foldl_fileFabricRow (deviceId : Int) (rows : List XpumDeviceFabricThroughputMetric)
    (m : FabricRawDataMap) (a b c d : Int) :
    (rows.foldl (fileFabricRow deviceId) m) (fabricKey a b c d) =
      (rows.reverse.find? fun row => fabricRowDirection deviceId row == some (a, b, c, d)).or
        (m (fabricKey a b c d)) := by
  induction rows generalizing m with
  | nil => rfl
  | cons row rows ih =>
    rw [List.foldl_cons, ih, fileFabricRow_key, List.reverse_cons, List.find?_append,
      Option.or_assoc]
    by_cases h : fabricRowDirection deviceId row = some (a, b, c, d) <;> simp [h]

/-- **What a fabric column shows.** At every refresh, the fabric column of a direction shows
the last entry the loop read for that direction, scaled to kB/s: among the rows the data call
stored and the value-initialized entries after them; the empty string, printed `N/A`, when
there is none. -/
theorem fabricColumnValue_updateFabricData (core : Core) (deviceId : Int) (emptyDataNull : Bool)
    (zero : XpumDeviceFabricThroughputMetric) (config : DumpTypeOption) (a b c d : Int) :
    fabricColumnValue config (fabricKey a b c d)
        (updateFabricData core deviceId emptyDataNull zero) =
      match ((fabricDataCall core deviceId emptyDataNull).rows ++
          List.replicate ((fabricSizingCount core deviceId).toNat -
            (fabricDataCall core deviceId emptyDataNull).rows.length) zero).reverse.find?
          (fun row => fabricRowDirection deviceId row == some (a, b, c, d)) with
      | none => ""
      | some data =>
        getScaledValue data.value ⟨BitVec.ofInt 32 (data.scale * config.scale * 1000)⟩ := by
  rw [fabricColumnValue, updateFabricData_eq, foldl_fileFabricRow, Option.or_none]

/-- **Value-initialized entries are filed.** When the data call stores fewer rows than the
sizing call reported, and the value-initialized row has a direction (its type, the enumerator
of value 0, is transmitted or received), that row is the last one filed under its key: the
column of that direction shows it, whatever the rows the data call stored. -/
theorem updateFabricData_value_initialized (core : Core) (deviceId : Int) (emptyDataNull : Bool)
    (zero : XpumDeviceFabricThroughputMetric) {a b c d : Int}
    (hdir : fabricRowDirection deviceId zero = some (a, b, c, d))
    (hfew : (fabricDataCall core deviceId emptyDataNull).rows.length <
      (fabricSizingCount core deviceId).toNat) :
    updateFabricData core deviceId emptyDataNull zero (fabricKey a b c d) = some zero := by
  rw [updateFabricData_eq, foldl_fileFabricRow, List.reverse_append, List.reverse_replicate]
  obtain ⟨k, hk⟩ : ∃ k, (fabricSizingCount core deviceId).toNat -
      (fabricDataCall core deviceId emptyDataNull).rows.length = k + 1 :=
    ⟨_, (Nat.succ_pred_eq_of_pos (by omega)).symm⟩
  rw [hk, List.replicate_succ, List.cons_append, List.find?_cons]
  simp [hdir]

/-- A device with one fabric throughput entry, enabled and supported, and no sample yet. -/
def noSampleFabricCore : Core :=
  { getDevice := fun _ => some
      { capabilities := [.metricFabricThroughput], fabricThroughputInfoCount := 1 },
    enabledMetrics := ⟨[.metricFabricThroughput], List.pairwise_singleton _ _⟩ }

/-- Before the first sample, the sizing call reports one row and the data call stores none:
the value-initialized row, transmitted from tile 0 of device 0 to tile 0 of device 0, is
filed under its key. -/
theorem updateFabricData_value_initialized_no_sample :
    (fabricRowDirection 0 ⟨0, 0, 0, .fabricThroughputTypeTransmitted, 0, 0⟩ =
        some (0, 0, 0, 0) ∧
      (fabricDataCall noSampleFabricCore 0 true).rows.length <
        (fabricSizingCount noSampleFabricCore 0).toNat) ∧
    updateFabricData noSampleFabricCore 0 true ⟨0, 0, 0, .fabricThroughputTypeTransmitted, 0, 0⟩
      (fabricKey 0 0 0 0) = some ⟨0, 0, 0, .fabricThroughputTypeTransmitted, 0, 0⟩ :=
  ⟨⟨rfl, by decide⟩, updateFabricData_value_initialized _ _ _ _ rfl (by decide)⟩

/-! ## The columns -/

/-- What the closures that keep no state read at a refresh: the two maps `updateData` filled,
the clock (`Utility::getCurrentMillisecond()`, as the `uint64_t` `getLocalTimeString` takes),
and the C library's `localtime`. -/
structure DumpData where
  engineUtilRawDataMap : EngineUtilRawDataMap
  fabricRawDataMap : FabricRawDataMap
  currentMillisecond : UInt64Val
  localtime : Int → Option Utility.Tm

/-- An engine type and its number of engines, as `getDeviceAndTileEngineCount` lists them. -/
structure EngineCountByType where
  engineType : XpumEngineType
  count : Nat

/-- An entry of `getDeviceAndTileEngineCount`: the engine counts of the device or of one
tile. -/
structure EngineCount where
  isTileLevel : Bool
  tileId : Int
  engineCountList : List EngineCountByType

/-- The columns `buildColumns` makes for a `DUMP_OPTION_ENGINE` entry of engine type
`engineType` over the engine counts it selected (`curEngineCountList`, per tile when
`needAggFromTiles`): one per engine of that type, headed `"<name> [<tile>/]<index> (%)"`.
`engineName` is `engineNameMap[config.engineType]`; `lastTimestamp` is what a new
`DumpColumn` holds, which these columns never read. -/
def engineColumns (engineName : String) (config : DumpTypeOption) (engineType : XpumEngineType)
    (needAggFromTiles : Bool) (curEngineCountList : List EngineCount)
    (lastTimestamp : UInt64Val) : List (DumpColumn DumpData) :=
  curEngineCountList.flatMap fun ec =>
    ec.engineCountList.flatMap fun ecByType =>
      if ecByType.engineType != engineType then []
      else
        (List.range ecByType.count).map fun engineIdx =>
          { header := engineName ++ " " ++
              (if needAggFromTiles then toString ec.tileId ++ "/" else "") ++
              toString engineIdx ++ " (%)",
            kind := .stateless fun d =>
              engineColumnValue config needAggFromTiles ec.tileId ecByType.engineType engineIdx
                d.engineUtilRawDataMap,
            lastTimestamp }

/-- A fabric column: headed `"XL <key> (kB/s)"`, showing the row under `key`. -/
def fabricColumn (config : DumpTypeOption) (key : String) (lastTimestamp : UInt64Val) :
    DumpColumn DumpData :=
  { header := "XL " ++ key ++ " (kB/s)",
    kind := .stateless fun d => fabricColumnValue config key d.fabricRawDataMap,
    lastTimestamp }

/-- The columns `buildColumns` makes for a `DUMP_OPTION_FABRIC` entry: for each fabric link of
the dumped device or tile, the transmitted direction, then the received one. -/
def fabricColumns (config : DumpTypeOption) (deviceId : Int) (links : List FabricLinkInfo)
    (lastTimestamp : UInt64Val) : List (DumpColumn DumpData) :=
  links.flatMap fun fc =>
    [fabricColumn config (fabricKey deviceId fc.tileId fc.remoteDeviceId fc.remoteTileId)
        lastTimestamp,
      fabricColumn config (fabricKey fc.remoteDeviceId fc.remoteTileId deviceId fc.tileId)
        lastTimestamp]

/-- Every engine column is the column of one engine of its type: of an entry of the engine
counts, at an index below that entry's count for the type. -/
theorem mem_engineColumns {engineName : String} {config : DumpTypeOption}
    {engineType : XpumEngineType} {needAggFromTiles : Bool}
    {curEngineCountList : List EngineCount} {lastTimestamp : UInt64Val}
    {dc : DumpColumn DumpData}
    (hdc : dc ∈ engineColumns engineName config engineType needAggFromTiles curEngineCountList
      lastTimestamp) :
    ∃ ec ∈ curEngineCountList, ∃ engineIdx : Nat,
      (∃ ecByType ∈ ec.engineCountList,
        ecByType.engineType = engineType ∧ engineIdx < ecByType.count) ∧
      dc = { header := engineName ++ " " ++
                (if needAggFromTiles then toString ec.tileId ++ "/" else "") ++
                toString engineIdx ++ " (%)",
              kind := .stateless fun d =>
                engineColumnValue config needAggFromTiles ec.tileId engineType engineIdx
                  d.engineUtilRawDataMap,
              lastTimestamp } := by
  simp only [engineColumns, List.mem_flatMap] at hdc
  obtain ⟨ec, hec, ecByType, hby, hdc⟩ := hdc
  by_cases htype : ecByType.engineType = engineType
  · rw [if_neg (by simp [htype])] at hdc
    obtain ⟨engineIdx, hidx, rfl⟩ := List.mem_map.mp hdc
    exact ⟨ec, hec, engineIdx, ⟨ecByType, hby, htype, List.mem_range.mp hidx⟩,
      by rw [htype]⟩
  · rw [if_pos (by simpa using htype)] at hdc
    cases hdc

/-- Every fabric column is the column of one direction. -/
theorem mem_fabricColumns {config : DumpTypeOption} {deviceId : Int}
    {links : List FabricLinkInfo} {lastTimestamp : UInt64Val} {dc : DumpColumn DumpData}
    (hdc : dc ∈ fabricColumns config deviceId links lastTimestamp) :
    ∃ a b c d : Int, dc = fabricColumn config (fabricKey a b c d) lastTimestamp := by
  simp only [fabricColumns, List.mem_flatMap, List.mem_cons, List.mem_singleton,
    List.not_mem_nil, or_false] at hdc
  obtain ⟨fc, -, rfl | rfl⟩ := hdc <;> exact ⟨_, _, _, _, rfl⟩

/-- **A fabric column shows the direction its header names.** Every fabric column is headed
`"XL <a>/<b>-><c>/<d> (kB/s)"` for one direction, which the header determines, and at every
refresh of any run it shows the last entry the fabric loop read for that direction, scaled to
kB/s, or `N/A`; it keeps no state. -/
theorem fabricColumns_show_header_direction (config : DumpTypeOption) (deviceId : Int)
    (links : List FabricLinkInfo) (lastTimestamp : UInt64Val) (core : Core)
    (emptyDataNull : Bool) (zero : XpumDeviceFabricThroughputMetric)
    (dc : DumpColumn DumpData) (hdc : dc ∈ fabricColumns config deviceId links lastTimestamp) :
    ∃ a b c d : Int, dc.header = "XL " ++ fabricKey a b c d ++ " (kB/s)" ∧
      ∀ r : Refresh DumpData,
        r.other.fabricRawDataMap = updateFabricData core deviceId emptyDataNull zero →
        dc.getValue r =
          (match ((fabricDataCall core deviceId emptyDataNull).rows ++
              List.replicate ((fabricSizingCount core deviceId).toNat -
                (fabricDataCall core deviceId emptyDataNull).rows.length) zero).reverse.find?
              (fun row => fabricRowDirection deviceId row == some (a, b, c, d)) with
            | none => ""
            | some data =>
              getScaledValue data.value ⟨BitVec.ofInt 32 (data.scale * config.scale * 1000)⟩,
            dc) := by
  obtain ⟨a, b, c, d, rfl⟩ := mem_fabricColumns hdc
  refine ⟨a, b, c, d, rfl, fun r hr => ?_⟩
  simp only [DumpColumn.getValue, fabricColumn, hr, fabricColumnValue_updateFabricData]

/-- The first column of a link from tile 0 to tile 0 of device 1 shows the direction
`0/0->1/0`. -/
theorem fabricColumns_show_header_direction_one_link :
    fabricColumn ⟨"XL", .statsFabricThroughput, 1⟩ (fabricKey 0 0 1 0) 0 ∈
        fabricColumns ⟨"XL", .statsFabricThroughput, 1⟩ 0 [⟨0, 1, 0⟩] 0 ∧
      ∃ a b c d : Int,
        (fabricColumn ⟨"XL", .statsFabricThroughput, 1⟩ (fabricKey 0 0 1 0) 0).header =
          "XL " ++ fabricKey a b c d ++ " (kB/s)" ∧
        ∀ r : Refresh DumpData,
          r.other.fabricRawDataMap = updateFabricData noSampleFabricCore 0 true
            ⟨0, 0, 0, .fabricThroughputTypeTransmitted, 0, 0⟩ →
          (fabricColumn ⟨"XL", .statsFabricThroughput, 1⟩ (fabricKey 0 0 1 0) 0).getValue r =
            (match ((fabricDataCall noSampleFabricCore 0 true).rows ++
                List.replicate ((fabricSizingCount noSampleFabricCore 0).toNat -
                  (fabricDataCall noSampleFabricCore 0 true).rows.length)
                  (⟨0, 0, 0, .fabricThroughputTypeTransmitted, 0, 0⟩ :
                    XpumDeviceFabricThroughputMetric)).reverse.find?
                (fun row => fabricRowDirection 0 row == some (a, b, c, d)) with
              | none => ""
              | some data => getScaledValue data.value ⟨BitVec.ofInt 32
                  (data.scale * (⟨"XL", .statsFabricThroughput, 1⟩ : DumpTypeOption).scale *
                    1000)⟩,
              fabricColumn ⟨"XL", .statsFabricThroughput, 1⟩ (fabricKey 0 0 1 0) 0) :=
  have hdc : fabricColumn ⟨"XL", .statsFabricThroughput, 1⟩ (fabricKey 0 0 1 0) 0 ∈
      fabricColumns ⟨"XL", .statsFabricThroughput, 1⟩ 0 [⟨0, 1, 0⟩] 0 :=
    List.mem_cons_self _ _
  ⟨hdc, fabricColumns_show_header_direction _ _ _ _ _ _ _ _ hdc⟩

/-- **An engine column shows the engine its header names.** Every engine column is headed
with the index of one engine of its type (and its tile, when the engines are counted per tile),
and at every refresh of any run it shows the first row the data call stored, among the rows
the dump keeps, for that engine type, index and tile, scaled, or `N/A`; it keeps no state. -/
theorem engineColumns_show_first_row (engineName : String) (config : DumpTypeOption)
    (engineType : XpumEngineType) (needAggFromTiles : Bool)
    (curEngineCountList : List EngineCount) (lastTimestamp : UInt64Val) (core : Core)
    (deviceId tileId : Int) (emptyDataNull : Bool) (zero : XpumDeviceEngineMetric)
    (dc : DumpColumn DumpData)
    (hdc : dc ∈ engineColumns engineName config engineType needAggFromTiles curEngineCountList
      lastTimestamp) :
    ∃ ec ∈ curEngineCountList, ∃ engineIdx : Nat,
      (∃ ecByType ∈ ec.engineCountList,
        ecByType.engineType = engineType ∧ engineIdx < ecByType.count) ∧
      dc.header = engineName ++ " " ++
        (if needAggFromTiles then toString ec.tileId ++ "/" else "") ++ toString engineIdx ++
        " (%)" ∧
      ∀ r : Refresh DumpData,
        updateEngineData core deviceId tileId emptyDataNull zero =
          some r.other.engineUtilRawDataMap →
        dc.getValue r =
          (match (engineDataCall core deviceId emptyDataNull).rows.find? (fun row =>
              keepsEngineRow tileId row && row.type == engineType &&
                row.index.toNat == engineIdx &&
                (!needAggFromTiles || ec.tileId == row.tileId)) with
            | none => ""
            | some data =>
              getScaledValue data.value ⟨BitVec.ofInt 32 (data.scale * config.scale)⟩,
            dc) := by
  obtain ⟨ec, hec, engineIdx, hby, rfl⟩ := mem_engineColumns hdc
  refine ⟨ec, hec, engineIdx, hby, rfl, fun r hr => ?_⟩
  simp only [DumpColumn.getValue, engineColumnValue_updateEngineData hr]

/-- A device with three compute engine handles, each engine index 0 of its scope: one sampled
at device level at 10 %, one on tile 0 at 20 % and one on tile 1 at 30 %. -/
def computeEnginesCore : Core :=
  { getDevice := fun _ => some
      { capabilities := [.metricEngineUtilization], engineCount := 3,
        engineIndex := fun h => if h < 3 then 0 else uint32Max },
    enabledMetrics := ⟨[.metricEngineUtilization], List.pairwise_singleton _ _⟩,
    latestData := fun _ _ => some
      { multiMetricsDatas :=
          ⟨[(0, { current := 10 }), (1, { current := 20, onSubdevice := true }),
            (2, { current := 30, onSubdevice := true, subdeviceId := 1 })], by decide⟩,
        engineType := fun _ => .engineGroupComputeSingle } }

/-- What the dump's closures read after `updateData` on `computeEnginesCore`, in a dump of
tile `tileId` (`-1` for the device). -/
def computeEnginesRefresh (tileId : Int) : Refresh DumpData :=
  ⟨fun _ => none,
    ⟨(engineDataCall computeEnginesCore 0 true).rows.foldl (fileEngineRow tileId) fun _ _ => [],
      fun _ => none, 0, fun _ => none⟩⟩

/-- The column of compute engine 0 of a device whose engines are counted as a whole. -/
def computeZeroColumn : DumpColumn DumpData :=
  { header := "Compute 0 (%)",
    kind := .stateless fun d =>
      engineColumnValue ⟨"Compute", .statsEngineUtilization, 1⟩ false (-1) .engineTypeCompute 0
        d.engineUtilRawDataMap,
    lastTimestamp := 0 }

/-- A device with one compute engine, counted as a whole, has the column of compute engine 0;
in a dump of `computeEnginesCore` it shows the first stored row of compute engine 0, the
device-level one, at 10 %. -/
theorem engineColumns_show_first_row_compute :
    computeZeroColumn ∈ engineColumns "Compute" ⟨"Compute", .statsEngineUtilization, 1⟩
        .engineTypeCompute false [⟨false, -1, [⟨.engineTypeCompute, 1⟩]⟩] 0 ∧
      updateEngineData computeEnginesCore 0 (-1) true ⟨false, 0, 0, 0, 0, .engineTypeCompute⟩ =
        some (computeEnginesRefresh (-1)).other.engineUtilRawDataMap ∧
      (computeZeroColumn.getValue (computeEnginesRefresh (-1))).1 = "10" := by
  have hdc : computeZeroColumn ∈
      engineColumns "Compute" ⟨"Compute", .statsEngineUtilization, 1⟩ .engineTypeCompute false
        [⟨false, -1, [⟨.engineTypeCompute, 1⟩]⟩] 0 :=
    List.mem_singleton.2 rfl
  have hr : updateEngineData computeEnginesCore 0 (-1) true
      ⟨false, 0, 0, 0, 0, .engineTypeCompute⟩ =
        some (computeEnginesRefresh (-1)).other.engineUtilRawDataMap := rfl
  obtain ⟨ec, hec, engineIdx, ⟨ecByType, hby, -, hidx⟩, -, hval⟩ :=
    engineColumns_show_first_row _ _ _ _ _ _ computeEnginesCore 0 (-1) true _ _ hdc
  obtain rfl := List.mem_singleton.1 hec
  obtain rfl := List.mem_singleton.1 hby
  obtain rfl : engineIdx = 0 := Nat.lt_one_iff.1 hidx
  rw [hval _ hr]
  exact ⟨hdc, hr, by decide⟩

end DumpRawDataTask

end XpuSmi
