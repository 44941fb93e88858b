import XpuSmi.Basic.StdMap
import XpuSmi.Basic.Utility
import XpuSmi.Basic.ParallelInBatches
import XpuSmi.Basic.Split
import XpuSmi.Basic.UEvent
import XpuSmi.Basic.Decimal
import XpuSmi.Basic.Binary64
import XpuSmi.DataLogic.MeasurementData
import XpuSmi.DataLogic.TimeWeightedAverage
import XpuSmi.DataLogic.RateSafety
import XpuSmi.DataLogic.Query
import XpuSmi.DataLogic.Metrics
import XpuSmi.DataLogic.Engine
import XpuSmi.DataLogic.Fabric
import XpuSmi.DataLogic.FabricLink
import XpuSmi.DataLogic.SizingProtocol
import XpuSmi.Dump.RawData
import XpuSmi.Dump.Columns
import XpuSmi.Dump.EngineFabric
import XpuSmi.Dump.File
