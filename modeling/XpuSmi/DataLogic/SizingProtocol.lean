import XpuSmi.DataLogic.Engine
import XpuSmi.DataLogic.Fabric

/-!
# The buffer-sizing protocol of the multi-entity queries

A caller sizes `dataList` with a first call (`dataList == nullptr`) and passes the count it
got back with the buffer. The multi-entity queries answer the sizing call with a topology
count (`getEngineCount()`, `getFabricThroughputInfoCount()`) and then fill the buffer from a
sample, one row per entry whose key the topology resolves.

* **staying in the buffer** — `getEngineStatistics`, `getFabricThroughput` and
  `getFabricThroughputStatistics` store no row at or past the caller's count and report the
  number of rows they stored; the last one counts in a `uint32_t`, so this holds when fewer
  than 2^32 entries resolve, while a retry with the count of its `XPUM_BUFFER_TOO_SMALL`
  answer never gets that answer again (`multiEntity_queries_stay_in_buffer`);
* **the sized count suffices** — when the topology is consistent (`Device.TopologyConsistent`:
  no more keys resolve than the count reports), a data call with the sized count never returns
  `XPUM_BUFFER_TOO_SMALL` (`sized_multiEntity_queries_fit`).
-/

namespace XpuSmi

/-- A device's topology is consistent when no more distinct keys resolve than it counts. -/
structure Device.TopologyConsistent (dev : Device) : Prop where
  /-- At most `getEngineCount()` handles have an engine index. -/
  engines : ∀ s : Finset Nat, (∀ h ∈ s, dev.engineIndex h ≠ uint32Max) →
    s.card ≤ dev.engineCount.toNat
  /-- At most `getFabricThroughputInfoCount()` fabric ids have link information. -/
  links : ∀ s : Finset Nat, (∀ f ∈ s, (dev.fabricThroughputInfo f).isSome) →
    s.card ≤ dev.fabricThroughputInfoCount.toNat

namespace Device.TopologyConsistent

open DataLogic

variable {dev : Device} (h : dev.TopologyConsistent) (pData : MeasurementData)
include h

theorem resolvedEngines_le : (resolvedEngines dev pData).length ≤ dev.engineCount.toNat :=
  @StdMap.length_filter_le _ _ _ _ pData.multiMetricsDatas (fun k => dev.engineIndex k != uint32Max)
    _ fun s hs => h.engines s fun k hk => by simpa using hs k hk

theorem resolvedLinks_le :
    (resolvedLinks dev pData).length ≤ dev.fabricThroughputInfoCount.toNat :=
  @StdMap.length_filter_le _ _ _ _ pData.multiMetricsDatas
    (fun k => (dev.fabricThroughputInfo k).isSome) _ h.links

end Device.TopologyConsistent

namespace DataLogic

/-- A device with two engines (handles 0 and 1) and two fabric links (fabric ids 0 and 1, to
tiles 0 and 1 of device 1), both metrics enabled and supported, whose latest statistics hold
an entry for each engine and each link. -/
def twoEnginesTwoLinks : Core :=
  { getDevice := fun _ => some
      { capabilities := [.metricEngineUtilization, .metricFabricThroughput],
        engineCount := 2,
        engineIndex := fun h => if h < 2 then UInt32.ofNat h else uint32Max,
        fabricThroughputInfoCount := 2,
        fabricThroughputInfo := fun f => if f < 2 then some ⟨0, 1, f, .transmitted⟩ else none },
    getDeviceIDByFabricID := fun _ => some 1,
    enabledMetrics := ⟨[.metricEngineUtilization, .metricFabricThroughput], by decide⟩,
    latestStatistics := fun _ _ _ => some
      { multiMetricsDatas := ⟨[(0, { current := 5 }), (1, { current := 7 })], by decide⟩ } }

/-- **The sized count suffices.** On a device whose topology is consistent, each of the four
multi-entity queries, called with a buffer of the size its own sizing call reported for the
same state, never returns `XPUM_BUFFER_TOO_SMALL`. -/
theorem sized_multiEntity_queries_fit (core : Core) (deviceId : Int) (c : UInt32)
    (sessionId : Nat)
    (hcons : ∀ dev, core.getDevice (toString deviceId) = some dev → dev.TopologyConsistent) :
    (getEngineStatistics core deviceId false
        (getEngineStatistics core deviceId true c sessionId).count sessionId).result ≠
      .bufferTooSmall ∧
    (getEngineUtilizations core deviceId false
        (getEngineUtilizations core deviceId true c).count).result ≠ .bufferTooSmall ∧
    (getFabricThroughputStatistics core deviceId false
        (getFabricThroughputStatistics core deviceId true c sessionId).count sessionId).result ≠
      .bufferTooSmall ∧
    (getFabricThroughput core deviceId false
        (getFabricThroughput core deviceId true c).count).result ≠ .bufferTooSmall :=
  ⟨getEngineStatistics_ne_bufferTooSmall _ fun dev pData hdev _ _ => by
      rw [getEngineStatistics_sizing hdev]; exact (hcons dev hdev).resolvedEngines_le pData,
    getEngineUtilizations_ne_bufferTooSmall _ fun dev pData hdev _ _ =>
      (hcons dev hdev).resolvedEngines_le pData,
    getFabricThroughputStatistics_ne_bufferTooSmall _ fun dev pData hdev hc _ => by
      rw [getFabricThroughputStatistics_sizing hdev hc]
      exact (hcons dev hdev).resolvedLinks_le pData,
    getFabricThroughput_ne_bufferTooSmall _ fun dev pData hdev hc _ => by
      rw [getFabricThroughput_sizing hdev hc]; exact (hcons dev hdev).resolvedLinks_le pData⟩

/-- The device of `twoEnginesTwoLinks` resolves two engine handles and two fabric ids and
counts two of each: its topology is consistent, and each of the four queries, called with the
count its sizing call reported, fits. -/
theorem sized_multiEntity_queries_fit_two_engines :
    (∀ dev, twoEnginesTwoLinks.getDevice (toString (0 : Int)) = some dev →
      dev.TopologyConsistent) ∧
    (getEngineStatistics twoEnginesTwoLinks 0 false
        (getEngineStatistics twoEnginesTwoLinks 0 true 0 0).count 0).result ≠ .bufferTooSmall ∧
    (getEngineUtilizations twoEnginesTwoLinks 0 false
        (getEngineUtilizations twoEnginesTwoLinks 0 true 0).count).result ≠ .bufferTooSmall ∧
    (getFabricThroughputStatistics twoEnginesTwoLinks 0 false
        (getFabricThroughputStatistics twoEnginesTwoLinks 0 true 0 0).count 0).result ≠
      .bufferTooSmall ∧
    (getFabricThroughput twoEnginesTwoLinks 0 false
        (getFabricThroughput twoEnginesTwoLinks 0 true 0).count).result ≠ .bufferTooSmall := by
  have hrange : ∀ (p : Nat → Prop) (s : Finset Nat), (∀ k ∈ s, p k) →
      (∀ k, p k → k < 2) → s.card ≤ 2 := fun p s hs hp =>
    (Finset.card_le_card fun k hk => Finset.mem_range.2 (hp k (hs k hk))).trans_eq
      (Finset.card_range 2)
  have hcons : ∀ dev, twoEnginesTwoLinks.getDevice (toString (0 : Int)) = some dev →
      dev.TopologyConsistent := by
    rintro dev ⟨⟩
    refine ⟨fun s hs => hrange _ s hs fun h hh => ?_, fun s hs => hrange _ s hs fun f hf => ?_⟩
    · by_contra hlt
      exact hh (if_neg hlt)
    · by_contra hlt
      simp [hlt] at hf
  exact ⟨hcons, sized_multiEntity_queries_fit _ 0 0 0 hcons⟩

end DataLogic

end XpuSmi
