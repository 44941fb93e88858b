import XpuSmi.DataLogic.MeasurementData

/-!
# `TimeWeightedAverageDataHandler`: counters into rates

`handleData` turns the raw counters of a sampling round into rates against the previous
round, the baseline `p_preData`. It runs two loops over the round's devices, in key order:

* `counterOverflowDetection` discards baseline readings that are larger than the new ones.
  A device-level decrease nulls the whole baseline and returns at once; a sub-device
  decrease erases that sub-device's baseline reading (`clearSubdeviceRawdata`).
* `calculateData` then writes `(cur - pre) / (cur_ts - pre_ts)`, in uint64 arithmetic, for
  every entity whose two readings carry data and whose raw timestamps differ.

Both sub-device loops walk the sample's sub-device readings in key order under the guard
`iter != end && baseline.find(key) != end`, so each stops at the first sub-device missing
from the baseline. Modelled loop for loop; the calls `calculateData` makes to `setCurrent`
and `setSubdeviceDataCurrent` are its result, a list of `Write`s in call order.
`updateStatistics`, which `handleData` runs last, belongs to the statistics store and is
not among the sources.

The closed forms proved here are what the rate-safety theorems use:

* `counterOverflowDetectionLoop_eq` — the device loop either meets a device-level decrease
  and yields no baseline, or clears sub-devices device by device (`clearedBaseline`);
* `find?_clearedBaseline` — after it, the baseline entry of a device is that device's entry
  with its sub-devices cleared by the sample's own readings;
* `mem_calculateSubdeviceData_clear` — the invariant linking the two sub-device loops:
  every sub-device rate is written from readings that overflow detection passed.
-/

namespace XpuSmi

namespace TimeWeightedAverageDataHandler

/-- A call `setCurrent value` (device entity) or `setSubdeviceDataCurrent subDeviceId value`
(sub-device entity) on the sample's entry of the entity's device. -/
structure Write where
  entity : Entity
  value : UInt64Val
  deriving DecidableEq, Repr

/-- The overflow test on one entity: both readings carry data and `pre_data > cur_data`. -/
def counterDecreased (pre cur : SubdeviceRawData) : Bool :=
  pre.rawData != uint64Max && cur.rawData != uint64Max && pre.rawData > cur.rawData

/-- The guard of `calculateData` on one entity: both readings carry data and
`cur_data_raw_timestamp - pre_data_raw_timestamp != 0` in uint64. -/
def rateReady (pre cur : SubdeviceRawData) : Bool :=
  pre.rawData != uint64Max && cur.rawData != uint64Max &&
    cur.rawTimestamp - pre.rawTimestamp != 0

/-- `(cur_data - pre_data) / (cur_data_raw_timestamp - pre_data_raw_timestamp)` in uint64. -/
def rate (pre cur : SubdeviceRawData) : UInt64Val :=
  (cur.rawData - pre.rawData) / (cur.rawTimestamp - pre.rawTimestamp)

/-! ## `counterOverflowDetection` -/

/-- The device-level test of `counterOverflowDetection` for a device whose sample is `md`
and whose baseline entry is `preEntry`. -/
def deviceCounterDecreased (preEntry : Option MeasurementData) (md : MeasurementData) : Bool :=
  match md.rawOnDevice, preEntry.bind MeasurementData.rawOnDevice with
  | some cur, some pre => counterDecreased pre cur
  | _, _ => false

/-- The sub-device loop of `counterOverflowDetection`: walk the sample's sub-device readings
while the sub-device is still in the baseline, erasing the baseline reading of each one that
went down. -/
def clearDecreasedSubdevices :
    List (Nat × SubdeviceRawData) → StdMap Nat SubdeviceRawData → StdMap Nat SubdeviceRawData
  | [], preRaw => preRaw
  | (subDeviceId, cur) :: rest, preRaw =>
    match preRaw.find? subDeviceId with
    | none => preRaw
    | some pre =>
      clearDecreasedSubdevices rest
        (if counterDecreased pre cur then preRaw.erase subDeviceId else preRaw)

/-- What `counterOverflowDetection` does to the baseline entry `pmd` of a device whose
sample is `md`. -/
def clearSubdevices (md pmd : MeasurementData) : MeasurementData :=
  if md.hasSubdeviceRawData && pmd.hasSubdeviceRawData then
    { pmd with subdeviceRawDatas :=
        clearDecreasedSubdevices md.subdeviceRawDatas.entries pmd.subdeviceRawDatas }
  else pmd

/-- The baseline after the sub-device loop of one device. -/
def overflowStep (preData : SharedData) (e : String × MeasurementData) : SharedData :=
  ⟨preData.datas.adjust e.1 (clearSubdevices e.2)⟩

/-- The device loop of `counterOverflowDetection`; `none` is `p_preData = nullptr`. -/
def counterOverflowDetectionLoop :
    List (String × MeasurementData) → SharedData → Option SharedData
  | [], preData => some preData
  | (deviceId, md) :: rest, preData =>
    if deviceCounterDecreased (preData.datas.find? deviceId) md then none
    else counterOverflowDetectionLoop rest (overflowStep preData (deviceId, md))

/-- `TimeWeightedAverageDataHandler::counterOverflowDetection`: the baseline it leaves. -/
def counterOverflowDetection (preData : Option SharedData) (data : SharedData) :
    Option SharedData :=
  preData.bind (counterOverflowDetectionLoop data.datas.entries)

/-! ## `calculateData` -/

/-- The sub-device loop of `calculateData`: walk the sample's sub-device readings while the
sub-device is in the baseline, writing a rate for each one that passes `rateReady`. -/
def calculateSubdeviceData (deviceId : String) :
    List (Nat × SubdeviceRawData) → StdMap Nat SubdeviceRawData → List Write
  | [], _ => []
  | (subDeviceId, cur) :: rest, preRaw =>
    match preRaw.find? subDeviceId with
    | none => []
    | some pre =>
      (if rateReady pre cur then [⟨.subdevice deviceId subDeviceId, rate pre cur⟩] else []) ++
        calculateSubdeviceData deviceId rest preRaw

/-- The body of `calculateData`'s device loop for device `deviceId`, sample `md` and
baseline entry `preEntry`: the device-level block, then the sub-device loop. -/
def calculateDeviceData (preEntry : Option MeasurementData) (deviceId : String)
    (md : MeasurementData) : List Write :=
  (match md.rawOnDevice, preEntry.bind MeasurementData.rawOnDevice with
    | some cur, some pre =>
      if rateReady pre cur then [⟨.device deviceId, rate pre cur⟩] else []
    | _, _ => []) ++
  (match preEntry with
    | some pmd =>
      if md.hasSubdeviceRawData && pmd.hasSubdeviceRawData then
        calculateSubdeviceData deviceId md.subdeviceRawDatas.entries pmd.subdeviceRawDatas
      else []
    | none => [])

/-- `TimeWeightedAverageDataHandler::calculateData`: the writes it makes, in order. -/
def calculateData (preData : Option SharedData) (data : SharedData) : List Write :=
  match preData with
  | none => []
  | some pre => data.datas.entries.flatMap fun e => calculateDeviceData (pre.datas.find? e.1) e.1 e.2

/-- What `handleData` leaves: the baseline after overflow detection, and the rate writes. -/
structure Handled where
  preData : Option SharedData
  writes : List Write

/-- `TimeWeightedAverageDataHandler::handleData`, up to `updateStatistics`. -/
def handleData (preData : Option SharedData) (data : SharedData) : Handled :=
  match preData with
  | none => ⟨none, []⟩
  | some _ =>
    let preData' := counterOverflowDetection preData data
    ⟨preData', calculateData preData' data⟩

/-! ## Overflow detection in closed form -/

/-- Some device of the round has a device-level decrease against the baseline. -/
def deviceLevelDecrease (preData data : SharedData) : Bool :=
  data.datas.entries.any fun e => deviceCounterDecreased (preData.datas.find? e.1) e.2

/-- The baseline once every device of the round has had its sub-devices cleared. -/
def clearedBaseline (preData data : SharedData) : SharedData :=
  data.datas.entries.foldl overflowStep preData

theorem rawOnDevice_clearSubdevices (md pmd : MeasurementData) :
    (clearSubdevices md pmd).rawOnDevice = pmd.rawOnDevice := by
  unfold clearSubdevices; split <;> rfl

theorem deviceCounterDecreased_map_clear (preEntry : Option MeasurementData)
    (md md' : MeasurementData) :
    deviceCounterDecreased (preEntry.map (clearSubdevices md)) md' =
      deviceCounterDecreased preEntry md' := by
  cases preEntry <;> simp [deviceCounterDecreased, rawOnDevice_clearSubdevices]

theorem find?_overflowStep (preData : SharedData) (deviceId deviceId' : String)
    (md : MeasurementData) :
    (overflowStep preData (deviceId, md)).datas.find? deviceId' =
      if deviceId' = deviceId then (preData.datas.find? deviceId').map (clearSubdevices md)
      else preData.datas.find? deviceId' :=
  StdMap.find?_adjust _ _ _ _

/-- Clearing sub-devices never changes a device-level overflow test. -/
theorem deviceCounterDecreased_overflowStep (preData : SharedData) (e : String × MeasurementData)
    (deviceId : String) (md : MeasurementData) :
    deviceCounterDecreased ((overflowStep preData e).datas.find? deviceId) md =
      deviceCounterDecreased (preData.datas.find? deviceId) md := by
  rw [find?_overflowStep]
  split
  · exact deviceCounterDecreased_map_clear _ _ _
  · rfl

/-- The device loop of `counterOverflowDetection`: no baseline if some device-level counter
went down, else the baseline with every device's sub-devices cleared. -/
theorem counterOverflowDetectionLoop_eq (entries : List (String × MeasurementData))
    (preData : SharedData) :
    counterOverflowDetectionLoop entries preData =
      if entries.any (fun e => deviceCounterDecreased (preData.datas.find? e.1) e.2) then none
      else some (entries.foldl overflowStep preData) := by
  induction entries generalizing preData with
  | nil => rfl
  | cons e rest ih =>
    obtain ⟨deviceId, md⟩ := e
    have hrest : (fun e : String × MeasurementData =>
        deviceCounterDecreased ((overflowStep preData (deviceId, md)).datas.find? e.1) e.2) =
        fun e => deviceCounterDecreased (preData.datas.find? e.1) e.2 :=
      funext fun e => deviceCounterDecreased_overflowStep _ _ _ _
    cases h : deviceCounterDecreased (preData.datas.find? deviceId) md
    · rw [counterOverflowDetectionLoop, h, ih, hrest, List.any_cons, List.foldl_cons]
      simp only [h, Bool.false_or, Bool.false_eq_true, ite_false]
    · simp [counterOverflowDetectionLoop, h]

theorem counterOverflowDetection_some (preData data : SharedData) :
    counterOverflowDetection (some preData) data =
      if deviceLevelDecrease preData data then none
      else some (clearedBaseline preData data) :=
  counterOverflowDetectionLoop_eq _ _

/-- A device the round does not hold keeps its baseline entry. -/
theorem find?_foldl_overflowStep_of_lookup_none {entries : List (String × MeasurementData)}
    {deviceId : String} (h : entries.lookup deviceId = none) (preData : SharedData) :
    (entries.foldl overflowStep preData).datas.find? deviceId =
      preData.datas.find? deviceId := by
  induction entries generalizing preData with
  | nil => rfl
  | cons e rest ih =>
    obtain ⟨deviceId', md⟩ := e
    have hne : deviceId ≠ deviceId' := by
      rintro rfl; simp [StdMap.lookup_cons_self] at h
    rw [StdMap.lookup_cons_ne md rest hne] at h
    rw [List.foldl_cons, ih h, find?_overflowStep, if_neg hne]

/-- A device the round holds has its baseline entry cleared by its own sample. -/
theorem find?_foldl_overflowStep_of_lookup {entries : List (String × MeasurementData)}
    (hs : entries.Pairwise (fun a b => a.1 < b.1)) {deviceId : String} {md : MeasurementData}
    (h : entries.lookup deviceId = some md) (preData : SharedData) :
    (entries.foldl overflowStep preData).datas.find? deviceId =
      (preData.datas.find? deviceId).map (clearSubdevices md) := by
  induction entries generalizing preData with
  | nil => cases h
  | cons e rest ih =>
    obtain ⟨deviceId', md'⟩ := e
    rw [List.foldl_cons]
    by_cases hd : deviceId = deviceId'
    · subst hd
      rw [StdMap.lookup_cons_self] at h
      cases h
      rw [find?_foldl_overflowStep_of_lookup_none (StdMap.lookup_tail_none hs),
        find?_overflowStep, if_pos rfl]
    · rw [StdMap.lookup_cons_ne md' rest hd] at h
      rw [ih hs.of_cons h, find?_overflowStep, if_neg hd]

theorem find?_clearedBaseline {preData data : SharedData} {deviceId : String}
    {md : MeasurementData} (h : data.datas.find? deviceId = some md) :
    (clearedBaseline preData data).datas.find? deviceId =
      (preData.datas.find? deviceId).map (clearSubdevices md) :=
  find?_foldl_overflowStep_of_lookup data.datas.sorted h preData

/-! ## The two sub-device loops -/

/-- The sub-device loop of overflow detection erases only sub-devices it visits. -/
theorem find?_clearDecreasedSubdevices_of_lookup_none {readings : List (Nat × SubdeviceRawData)}
    {subDeviceId : Nat} (h : readings.lookup subDeviceId = none)
    (preRaw : StdMap Nat SubdeviceRawData) :
    (clearDecreasedSubdevices readings preRaw).find? subDeviceId = preRaw.find? subDeviceId := by
  induction readings generalizing preRaw with
  | nil => rfl
  | cons e rest ih =>
    obtain ⟨s, cur⟩ := e
    have hne : subDeviceId ≠ s := by
      rintro rfl; simp [StdMap.lookup_cons_self] at h
    rw [StdMap.lookup_cons_ne cur rest hne] at h
    unfold clearDecreasedSubdevices
    split
    · rfl
    · rw [ih h]
      split
      · exact StdMap.find?_erase_ne _ hne
      · rfl

/-- **The two loops agree.** Every rate the sub-device loop of `calculateData` writes after
the sub-device loop of `counterOverflowDetection` has run over the same readings is
computed from a baseline reading the overflow test passed: the calculation stops at the
first sub-device that overflow detection erased or never reached. -/
theorem mem_calculateSubdeviceData_clear (deviceId : String)
    {readings : List (Nat × SubdeviceRawData)} (hs : readings.Pairwise (fun a b => a.1 < b.1))
    (preRaw : StdMap Nat SubdeviceRawData) {w : Write}
    (hw : w ∈ calculateSubdeviceData deviceId readings
      (clearDecreasedSubdevices readings preRaw)) :
    ∃ s p c, w.entity = .subdevice deviceId s ∧ preRaw.find? s = some p ∧
      readings.lookup s = some c ∧ rateReady p c = true ∧ counterDecreased p c = false ∧
      w.value = rate p c := by
  induction readings generalizing preRaw with
  | nil => cases hw
  | cons e rest ih =>
    obtain ⟨s, cur⟩ := e
    have htail : rest.lookup s = none := StdMap.lookup_tail_none hs
    simp only [clearDecreasedSubdevices] at hw
    split at hw
    · simp [calculateSubdeviceData, *] at hw
    · rename_i p hp
      by_cases hdec : counterDecreased p cur
      · simp [calculateSubdeviceData, hdec, find?_clearDecreasedSubdevices_of_lookup_none htail]
          at hw
      · simp only [hdec, Bool.false_eq_true, ite_false, calculateSubdeviceData,
          find?_clearDecreasedSubdevices_of_lookup_none htail, hp, List.mem_append] at hw
        rcases hw with hw | hw
        · split at hw
          · simp only [List.mem_singleton] at hw
            subst hw
            exact ⟨s, p, cur, rfl, hp, StdMap.lookup_cons_self _ _ _, ‹_›,
              by simpa using hdec, rfl⟩
          · cases hw
        · obtain ⟨s', p', c', he, hp', hc', hr⟩ := ih hs.of_cons preRaw hw
          have hne : s' ≠ s := by rintro rfl; simp [htail] at hc'
          exact ⟨s', p', c', he, hp', by rw [StdMap.lookup_cons_ne cur rest hne]; exact hc', hr⟩

/-! ## One device's writes -/

theorem hasSubdeviceRawData_clearSubdevices (md pmd : MeasurementData) :
    (clearSubdevices md pmd).hasSubdeviceRawData = pmd.hasSubdeviceRawData := by
  unfold clearSubdevices; split <;> rfl

/-- What one device's writes are: its device-level rate, or a write of the sub-device
loop run against its baseline entry. -/
theorem mem_calculateDeviceData {preEntry : Option MeasurementData} {deviceId : String}
    {md : MeasurementData} {w : Write} (hw : w ∈ calculateDeviceData preEntry deviceId md) :
    (∃ p c, w.entity = .device deviceId ∧ preEntry.bind MeasurementData.rawOnDevice = some p ∧
      md.rawOnDevice = some c ∧ rateReady p c = true ∧ w.value = rate p c) ∨
    (∃ pmd, preEntry = some pmd ∧ md.hasSubdeviceRawData = true ∧
      pmd.hasSubdeviceRawData = true ∧
      w ∈ calculateSubdeviceData deviceId md.subdeviceRawDatas.entries
        pmd.subdeviceRawDatas) := by
  unfold calculateDeviceData at hw
  rcases List.mem_append.mp hw with hw | hw
  · left
    split at hw
    · rename_i cur pre hc hp
      split at hw
      · simp only [List.mem_singleton] at hw
        subst hw
        exact ⟨pre, cur, rfl, hp, hc, ‹_›, rfl⟩
      · cases hw
    · cases hw
  · right
    cases preEntry with
    | none => cases hw
    | some pmd =>
      simp only [Bool.and_eq_true] at hw
      split at hw
      · rename_i hflags
        exact ⟨pmd, rfl, hflags.1, hflags.2, hw⟩
      · cases hw

end TimeWeightedAverageDataHandler

end XpuSmi
