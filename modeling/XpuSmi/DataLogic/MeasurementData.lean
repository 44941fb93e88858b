import Mathlib.Data.String.Basic
import XpuSmi.Basic.Utility

/-!
# Samples: `MeasurementData` and `SharedData`

One `MeasurementData` holds one metric of one device. The sampler fills its raw side (the
device-level raw counter and timestamp, and one raw reading per sub-device); the rate
computation derives `current` values from it; the statistics store and the latest-data store
hand out its statistics side (current/min/avg/max at device level and per sub-device) and,
for engines and fabric links, one value per entity in `multiMetricsDatas`.

The class itself is not among the sources. Each of its flags (`hasDataOnDevice`,
`hasRawDataOnDevice`, `hasSubdeviceData`, `hasSubdeviceRawData`) is a field of its own here,
read by the code through the accessor of the same name, and every field has a default so
that a reading can be written down by the fields it sets. A `SharedData` is one sampling
round: a `std::map` from device id to that device's `MeasurementData` (`getData()`).
-/

namespace XpuSmi

/-- `SubdeviceRawData`: one raw counter reading and its raw timestamp. The device-level
reading (`getRawdata`, `getRawTimestamp`) is packed into the same shape by
`MeasurementData.rawOnDevice`. -/
structure SubdeviceRawData where
  rawData : UInt64Val
  rawTimestamp : UInt64Val
  deriving DecidableEq, Repr

/-- The statistics of one sub-device (`getSubdeviceDataCurrent`, `getSubdeviceDataMin`, ...). -/
structure SubdeviceData where
  current : UInt64Val := 0
  min : UInt64Val := 0
  avg : UInt64Val := 0
  max : UInt64Val := 0
  deriving DecidableEq, Repr

/-- `AdditionalData`: the value of one engine or fabric link in a multi-entity sample. -/
structure AdditionalData where
  current : UInt64Val := 0
  min : UInt64Val := 0
  avg : UInt64Val := 0
  max : UInt64Val := 0
  onSubdevice : Bool := false
  subdeviceId : Nat := 0
  deriving DecidableEq, Repr

/-- `MeasurementData`, by the fields the modelled functions read. `engineType` is
`EngineCollectionMeasurementData::getEngineType`; multi-entity maps are keyed by engine
handle or fabric id. -/
structure MeasurementData where
  hasDataOnDevice : Bool := false
  current : UInt64Val := 0
  min : UInt64Val := 0
  avg : UInt64Val := 0
  max : UInt64Val := 0
  scale : Int := 1
  timestamp : UInt64Val := 0
  hasRawDataOnDevice : Bool := false
  rawdata : UInt64Val := 0
  rawTimestamp : UInt64Val := 0
  hasSubdeviceData : Bool := false
  subdeviceDatas : StdMap Nat SubdeviceData := .empty
  hasSubdeviceRawData : Bool := false
  subdeviceRawDatas : StdMap Nat SubdeviceRawData := .empty
  multiMetricsDatas : StdMap Nat AdditionalData := .empty
  engineType : Nat → ZesEngineGroup := fun _ => .other

namespace MeasurementData

/-- The device-level raw reading, when the sample has one. -/
def rawOnDevice (md : MeasurementData) : Option SubdeviceRawData :=
  if md.hasRawDataOnDevice then some ⟨md.rawdata, md.rawTimestamp⟩ else none

/-- The raw reading of sub-device `subdeviceId`, when the sample has sub-device readings. -/
def subdeviceRaw (md : MeasurementData) (subdeviceId : Nat) : Option SubdeviceRawData :=
  if md.hasSubdeviceRawData then md.subdeviceRawDatas.find? subdeviceId else none

end MeasurementData

/-- `SharedData`: one sampling round, device id to sample. -/
structure SharedData where
  datas : StdMap String MeasurementData

/-- What a derived value belongs to: a device, or one sub-device of a device. -/
inductive Entity
  | device (deviceId : String)
  | subdevice (deviceId : String) (subdeviceId : Nat)
  deriving DecidableEq, Repr

/-- The device an entity belongs to. -/
def Entity.deviceId : Entity → String
  | .device d => d
  | .subdevice d _ => d

namespace SharedData

/-- The raw reading a round holds for an entity. -/
def rawOf (sd : SharedData) : Entity → Option SubdeviceRawData
  | .device d => (sd.datas.find? d).bind MeasurementData.rawOnDevice
  | .subdevice d s => (sd.datas.find? d).bind (·.subdeviceRaw s)

/-- A round holding one device. -/
def single (deviceId : String) (md : MeasurementData) : SharedData :=
  ⟨⟨[(deviceId, md)], List.pairwise_singleton _ _⟩⟩

/-- The round without device `deviceId`. -/
def erase (sd : SharedData) (deviceId : String) : SharedData := ⟨sd.datas.erase deviceId⟩

end SharedData

end XpuSmi
