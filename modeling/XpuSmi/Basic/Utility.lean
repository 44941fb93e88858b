import XpuSmi.Basic.StdMap

/-!
# Metric types, capabilities, result codes and the `Utility` conversions

The enumerations the telemetry core passes around, and the `Utility` functions the query
layer calls on them: `capabilityFromMeasurementType` (which capability a device must report
for a metric to be served), `isCounterMetric` (whether a metric is a monotonic accumulator),
`xpumStatsTypeFromMeasurementType`, `toXPUMEngineType` and `toXPUMFabricThroughputType`.

Enumerators keep the source's words without the `XPUM_` prefix. The headers declaring
`MeasurementType` and `xpum_stats_type_t` are not among the sources; their enumerators are
listed in the order in which `Utility::xpumStatsTypeFromMeasurementType` and
`Utility::measurementTypeFromXpumStatsType` switch on them. That order is what `std::set`
iteration and the sparse-metric range test of `getMetricsStatistics` read.
-/

namespace XpuSmi

/-- `uint64_t` values are 64-bit vectors; arithmetic on them wraps. -/
abbrev UInt64Val := BitVec 64

/-- `std::numeric_limits<uint64_t>::max()`, the raw "no data" sentinel. -/
def uint64Max : UInt64Val := BitVec.allOnes 64

/-- `std::numeric_limits<uint32_t>::max()`, what `getEngineIndex` returns for an unknown
handle. -/
def uint32Max : UInt32 := 4294967295

/-- `MeasurementType`. -/
inductive MeasurementType
  | metricTemperature | metricFrequency | metricPower | metricMemoryUsed
  | metricMemoryUtilization | metricMemoryBandwidth | metricMemoryRead | metricMemoryWrite
  | metricMemoryReadThroughput | metricMemoryWriteThroughput | metricComputation
  | metricEngineUtilization | metricEngineGroupComputeAllUtilization
  | metricEngineGroupMediaAllUtilization | metricEngineGroupCopyAllUtilization
  | metricEngineGroupRenderAllUtilization | metricEngineGroup3dAllUtilization
  | metricEnergy | metricEuActive | metricEuStall | metricEuIdle
  | metricRasErrorCatReset | metricRasErrorCatProgrammingErrors
  | metricRasErrorCatDriverErrors | metricRasErrorCatCacheErrorsCorrectable
  | metricRasErrorCatCacheErrorsUncorrectable | metricRasErrorCatDisplayErrorsCorrectable
  | metricRasErrorCatDisplayErrorsUncorrectable
  | metricRasErrorCatNonComputeErrorsCorrectable
  | metricRasErrorCatNonComputeErrorsUncorrectable
  | metricRequestFrequency | metricMemoryTemperature | metricFrequencyThrottle
  | metricFrequencyThrottleReasonGpu | metricPcieReadThroughput | metricPcieWriteThroughput
  | metricPcieRead | metricPcieWrite | metricFabricThroughput | metricMediaEngineFrequency
  | metricPerf | metricMax
  deriving DecidableEq, Repr

/-- Enumerators compare by their position, as C++ compares enum values. -/
instance : LT MeasurementType := ⟨fun a b => a.toCtorIdx < b.toCtorIdx⟩

instance : LE MeasurementType := ⟨fun a b => a.toCtorIdx ≤ b.toCtorIdx⟩

instance (a b : MeasurementType) : Decidable (a < b) :=
  inferInstanceAs (Decidable (a.toCtorIdx < b.toCtorIdx))

instance (a b : MeasurementType) : Decidable (a ≤ b) :=
  inferInstanceAs (Decidable (a.toCtorIdx ≤ b.toCtorIdx))

/-- `xpum::DeviceCapability`. -/
inductive DeviceCapability
  | metricTemperature | metricFrequency | metricPower | metricEnergy
  | metricMemoryUsedUtilization | metricMemoryThroughputBandwidth | metricComputation
  | metricEngineUtilization | metricEngineGroupComputeAllUtilization
  | metricEngineGroupMediaAllUtilization | metricEngineGroupCopyAllUtilization
  | metricEngineGroupRenderAllUtilization | metricEngineGroup3dAllUtilization
  | metricEuActiveStallIdle | metricRasError | metricMemoryTemperature
  | metricFrequencyThrottle | metricFrequencyThrottleReasonGpu | metricPcieReadThroughput
  | metricPcieWriteThroughput | metricPcieRead | metricPcieWrite | metricFabricThroughput
  | metricPerf | deviceCapabilityMax
  deriving DecidableEq, Repr

/-- `xpum_stats_type_t`. -/
inductive XpumStatsType
  | statsGpuCoreTemperature | statsGpuFrequency | statsPower | statsMemoryUsed
  | statsMemoryUtilization | statsMemoryBandwidth | statsMemoryRead | statsMemoryWrite
  | statsMemoryReadThroughput | statsMemoryWriteThroughput | statsGpuUtilization
  | statsEngineUtilization | statsEngineGroupComputeAllUtilization
  | statsEngineGroupMediaAllUtilization | statsEngineGroupCopyAllUtilization
  | statsEngineGroupRenderAllUtilization | statsEngineGroup3dAllUtilization
  | statsEnergy | statsEuActive | statsEuStall | statsEuIdle
  | statsRasErrorCatReset | statsRasErrorCatProgrammingErrors | statsRasErrorCatDriverErrors
  | statsRasErrorCatCacheErrorsCorrectable | statsRasErrorCatCacheErrorsUncorrectable
  | statsRasErrorCatDisplayErrorsCorrectable | statsRasErrorCatDisplayErrorsUncorrectable
  | statsRasErrorCatNonComputeErrorsCorrectable
  | statsRasErrorCatNonComputeErrorsUncorrectable
  | statsGpuRequestFrequency | statsMemoryTemperature | statsFrequencyThrottle
  | statsFrequencyThrottleReasonGpu | statsPcieReadThroughput | statsPcieWriteThroughput
  | statsPcieRead | statsPcieWrite | statsFabricThroughput | statsMediaEngineFrequency
  | statsMax
  deriving DecidableEq, Repr

/-- The `xpum_result_t` codes the query layer returns. -/
inductive XpumResult
  | ok | resultDeviceNotFound | metricNotEnabled | metricNotSupported | bufferTooSmall
  | genericError
  deriving DecidableEq, Repr

/-- `zes_engine_group_t`, the single-engine groups `toXPUMEngineType` names, and every other
group as `other`. -/
inductive ZesEngineGroup
  | engineGroupComputeSingle | engineGroupRenderSingle | engineGroupMediaDecodeSingle
  | engineGroupMediaEncodeSingle | engineGroupCopySingle | engineGroupMediaEnhancementSingle
  | engineGroup3dSingle | other
  deriving DecidableEq, Repr

/-- `xpum_engine_type_t`. -/
inductive XpumEngineType
  | engineTypeCompute | engineTypeRender | engineTypeDecode | engineTypeEncode
  | engineTypeCopy | engineTypeMediaEnhancement | engineType3d | engineTypeUnknown
  deriving DecidableEq, Repr

/-- `FabricThroughputType`. -/
inductive FabricThroughputType
  | received | transmitted | receivedCounter | transmittedCounter
  deriving DecidableEq, Repr

/-- `xpum_fabric_throughput_type_t`. -/
inductive XpumFabricThroughputType
  | fabricThroughputTypeReceived | fabricThroughputTypeTransmitted
  | fabricThroughputTypeReceivedCounter | fabricThroughputTypeTransmittedCounter
  | fabricThroughputTypeMax
  deriving DecidableEq, Repr

namespace Utility

open MeasurementType

/-- `Utility::capabilityFromMeasurementType`. -/
def capabilityFromMeasurementType : MeasurementType → DeviceCapability
  | metricTemperature => .metricTemperature
  | metricFrequency => .metricFrequency
  | metricRequestFrequency => .metricFrequency
  | metricMediaEngineFrequency => .metricFrequency
  | metricPower => .metricPower
  | metricMemoryUsed => .metricMemoryUsedUtilization
  | metricMemoryUtilization => .metricMemoryUsedUtilization
  | metricMemoryBandwidth => .metricMemoryThroughputBandwidth
  | metricMemoryRead => .metricMemoryThroughputBandwidth
  | metricMemoryWrite => .metricMemoryThroughputBandwidth
  | metricMemoryReadThroughput => .metricMemoryThroughputBandwidth
  | metricMemoryWriteThroughput => .metricMemoryThroughputBandwidth
  | metricComputation => .metricComputation
  | metricEngineUtilization => .metricEngineUtilization
  | metricEnergy => .metricEnergy
  | metricEngineGroupComputeAllUtilization => .metricEngineGroupComputeAllUtilization
  | metricEngineGroupMediaAllUtilization => .metricEngineGroupMediaAllUtilization
  | metricEngineGroupCopyAllUtilization => .metricEngineGroupCopyAllUtilization
  | metricEngineGroupRenderAllUtilization => .metricEngineGroupRenderAllUtilization
  | metricEngineGroup3dAllUtilization => .metricEngineGroup3dAllUtilization
  | metricEuActive => .metricEuActiveStallIdle
  | metricEuStall => .metricEuActiveStallIdle
  | metricEuIdle => .metricEuActiveStallIdle
  | metricRasErrorCatReset => .metricRasError
  | metricRasErrorCatProgrammingErrors => .metricRasError
  | metricRasErrorCatDriverErrors => .metricRasError
  | metricRasErrorCatCacheErrorsCorrectable => .metricRasError
  | metricRasErrorCatCacheErrorsUncorrectable => .metricRasError
  | metricRasErrorCatDisplayErrorsCorrectable => .metricRasError
  | metricRasErrorCatDisplayErrorsUncorrectable => .metricRasError
  | metricRasErrorCatNonComputeErrorsCorrectable => .metricRasError
  | metricRasErrorCatNonComputeErrorsUncorrectable => .metricRasError
  | metricMemoryTemperature => .metricMemoryTemperature
  | metricFrequencyThrottle => .metricFrequencyThrottle
  | metricFrequencyThrottleReasonGpu => .metricFrequencyThrottleReasonGpu
  | metricPcieReadThroughput => .metricPcieReadThroughput
  | metricPcieWriteThroughput => .metricPcieWriteThroughput
  | metricPcieRead => .metricPcieRead
  | metricPcieWrite => .metricPcieWrite
  | metricFabricThroughput => .metricFabricThroughput
  | metricPerf => .metricPerf
  | metricMax => .deviceCapabilityMax

/-- `Utility::isCounterMetric`. -/
def isCounterMetric (type : MeasurementType) : Bool :=
  type == metricEnergy || type == metricMemoryRead || type == metricMemoryWrite ||
  type == metricRasErrorCatReset || type == metricRasErrorCatProgrammingErrors ||
  type == metricRasErrorCatDriverErrors || type == metricRasErrorCatCacheErrorsCorrectable ||
  type == metricRasErrorCatCacheErrorsUncorrectable ||
  type == metricRasErrorCatDisplayErrorsCorrectable ||
  type == metricRasErrorCatDisplayErrorsUncorrectable ||
  type == metricRasErrorCatNonComputeErrorsCorrectable ||
  type == metricRasErrorCatNonComputeErrorsUncorrectable ||
  type == metricPcieRead || type == metricPcieWrite

/-- `Utility::xpumStatsTypeFromMeasurementType`. -/
def xpumStatsTypeFromMeasurementType : MeasurementType → XpumStatsType
  | metricTemperature => .statsGpuCoreTemperature
  | metricFrequency => .statsGpuFrequency
  | metricPower => .statsPower
  | metricMemoryUsed => .statsMemoryUsed
  | metricMemoryUtilization => .statsMemoryUtilization
  | metricMemoryBandwidth => .statsMemoryBandwidth
  | metricMemoryRead => .statsMemoryRead
  | metricMemoryWrite => .statsMemoryWrite
  | metricMemoryReadThroughput => .statsMemoryReadThroughput
  | metricMemoryWriteThroughput => .statsMemoryWriteThroughput
  | metricComputation => .statsGpuUtilization
  | metricEngineUtilization => .statsEngineUtilization
  | metricEngineGroupComputeAllUtilization => .statsEngineGroupComputeAllUtilization
  | metricEngineGroupMediaAllUtilization => .statsEngineGroupMediaAllUtilization
  | metricEngineGroupCopyAllUtilization => .statsEngineGroupCopyAllUtilization
  | metricEngineGroupRenderAllUtilization => .statsEngineGroupRenderAllUtilization
  | metricEngineGroup3dAllUtilization => .statsEngineGroup3dAllUtilization
  | metricEnergy => .statsEnergy
  | metricEuActive => .statsEuActive
  | metricEuStall => .statsEuStall
  | metricEuIdle => .statsEuIdle
  | metricRasErrorCatReset => .statsRasErrorCatReset
  | metricRasErrorCatProgrammingErrors => .statsRasErrorCatProgrammingErrors
  | metricRasErrorCatDriverErrors => .statsRasErrorCatDriverErrors
  | metricRasErrorCatCacheErrorsCorrectable => .statsRasErrorCatCacheErrorsCorrectable
  | metricRasErrorCatCacheErrorsUncorrectable => .statsRasErrorCatCacheErrorsUncorrectable
  | metricRasErrorCatDisplayErrorsCorrectable => .statsRasErrorCatDisplayErrorsCorrectable
  | metricRasErrorCatDisplayErrorsUncorrectable => .statsRasErrorCatDisplayErrorsUncorrectable
  | metricRasErrorCatNonComputeErrorsCorrectable =>
    .statsRasErrorCatNonComputeErrorsCorrectable
  | metricRasErrorCatNonComputeErrorsUncorrectable =>
    .statsRasErrorCatNonComputeErrorsUncorrectable
  | metricRequestFrequency => .statsGpuRequestFrequency
  | metricMemoryTemperature => .statsMemoryTemperature
  | metricFrequencyThrottle => .statsFrequencyThrottle
  | metricFrequencyThrottleReasonGpu => .statsFrequencyThrottleReasonGpu
  | metricPcieReadThroughput => .statsPcieReadThroughput
  | metricPcieWriteThroughput => .statsPcieWriteThroughput
  | metricPcieRead => .statsPcieRead
  | metricPcieWrite => .statsPcieWrite
  | metricFabricThroughput => .statsFabricThroughput
  | metricMediaEngineFrequency => .statsMediaEngineFrequency
  | metricPerf => .statsMax
  | metricMax => .statsMax

/-- `Utility::toXPUMEngineType`. -/
def toXPUMEngineType : ZesEngineGroup → XpumEngineType
  | .engineGroupComputeSingle => .engineTypeCompute
  | .engineGroupRenderSingle => .engineTypeRender
  | .engineGroupMediaDecodeSingle => .engineTypeDecode
  | .engineGroupMediaEncodeSingle => .engineTypeEncode
  | .engineGroupCopySingle => .engineTypeCopy
  | .engineGroupMediaEnhancementSingle => .engineTypeMediaEnhancement
  | .engineGroup3dSingle => .engineType3d
  | .other => .engineTypeUnknown

/-- `Utility::toXPUMFabricThroughputType`. -/
def toXPUMFabricThroughputType : FabricThroughputType → XpumFabricThroughputType
  | .received => .fabricThroughputTypeReceived
  | .transmitted => .fabricThroughputTypeTransmitted
  | .receivedCounter => .fabricThroughputTypeReceivedCounter
  | .transmittedCounter => .fabricThroughputTypeTransmittedCounter

end Utility

end XpuSmi
