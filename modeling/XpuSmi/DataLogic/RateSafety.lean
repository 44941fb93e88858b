import XpuSmi.DataLogic.TimeWeightedAverage

/-!
# What the rates of `handleData` are computed from

Over every baseline and every sampling round:

* `mem_handleData_writes` — each write reads the baseline and the current reading of its
  own entity, which pass the guard of `calculateData` and which the overflow test of
  `counterOverflowDetection` did not flag;
* `handleData_rate_from_nondecreasing_counter` — so the baseline counter of a rate is never
  larger than the current one, and `cur_data - pre_data` does not wrap;
* `handleData_rate_interval_nonzero` — the two raw timestamps differ, so the divisor is
  nonzero; nothing requires them to be in order, and an inverted pair yields a rate over the
  wrapped difference (`handleData_writes_rate_for_inverted_timestamps`);
* `writesFor_handleData` — the writes for one device depend only on that device's entries,
  unless some device-level counter of the round went down: then the whole baseline is
  dropped and no device gets a rate (`handleData_writesFor_erase`);
* both sub-device loops stop at the first sub-device missing from the baseline, so a
  sibling that went down hides the rates of the siblings after it
  (`handleData_cleared_sibling_hides_rate`).
-/

namespace XpuSmi

namespace TimeWeightedAverageDataHandler

/-! ## Every write, entity by entity -/

/-- One device's writes against the baseline overflow detection left, when its device-level
counter did not decrease: each comes from a pair ready for a rate, with no decrease. -/
theorem mem_calculateDeviceData_clearedBaseline {pre data : SharedData} {d : String}
    {md : MeasurementData} {w : Write} (hfind : data.datas.find? d = some md)
    (hnd : deviceCounterDecreased (pre.datas.find? d) md = false)
    (hw : w ∈ calculateDeviceData ((clearedBaseline pre data).datas.find? d) d md) :
    ∃ p c, pre.rawOf w.entity = some p ∧ data.rawOf w.entity = some c ∧
      rateReady p c = true ∧ counterDecreased p c = false ∧ w.value = rate p c := by
  rw [find?_clearedBaseline hfind] at hw
  cases hpre : pre.datas.find? d with
  | none =>
    rw [hpre] at hw
    rcases mem_calculateDeviceData hw with ⟨_, _, -, hp, -⟩ | ⟨_, hp, -⟩ <;> cases hp
  | some pmd =>
    rw [hpre] at hw hnd
    rcases mem_calculateDeviceData hw with ⟨p, c, he', hp, hc, hr, hv⟩ |
      ⟨pmd', hpmd', hmf, hpf, hw⟩
    · -- the device-level rate
      simp only [Option.map_some', Option.some_bind, rawOnDevice_clearSubdevices] at hp
      simp only [deviceCounterDecreased, hc, Option.some_bind, hp] at hnd
      refine ⟨p, c, ?_, ?_, hr, hnd, hv⟩ <;> simp [he', SharedData.rawOf, hpre, hfind, hp, hc]
    · -- a sub-device rate: the two loops agree
      simp only [Option.map_some', Option.some.injEq] at hpmd'
      subst hpmd'
      rw [hasSubdeviceRawData_clearSubdevices] at hpf
      simp only [clearSubdevices, hmf, hpf, Bool.and_self, ite_true] at hw
      obtain ⟨s, p, c, he', hp, hc, hr, hnd', hv⟩ :=
        mem_calculateSubdeviceData_clear d md.subdeviceRawDatas.sorted _ hw
      refine ⟨p, c, ?_, ?_, hr, hnd', hv⟩ <;>
        simp only [he', SharedData.rawOf, hpre, hfind, Option.bind_some,
          MeasurementData.subdeviceRaw, hpf, hmf, Option.some_bind, ite_true]
      · exact hp
      · exact hc

/-- Every write of `handleData` comes from a baseline and a current reading of the same
entity that are ready for a rate and show no decrease. -/
theorem mem_handleData_writes {preData : Option SharedData} {data : SharedData} {w : Write}
    (hw : w ∈ (handleData preData data).writes) :
    ∃ pre p c, preData = some pre ∧ pre.rawOf w.entity = some p ∧
      data.rawOf w.entity = some c ∧ rateReady p c = true ∧ counterDecreased p c = false ∧
      w.value = rate p c := by
  cases preData with
  | none => cases hw
  | some pre =>
    simp only [handleData, counterOverflowDetection_some] at hw
    cases hdec : deviceLevelDecrease pre data
    · simp only [hdec, Bool.false_eq_true, ite_false, calculateData, List.mem_flatMap] at hw
      obtain ⟨⟨d, md⟩, he, hw⟩ := hw
      have hnd : deviceCounterDecreased (pre.datas.find? d) md = false := by
        simp only [deviceLevelDecrease, List.any_eq_false] at hdec
        simpa using hdec _ he
      obtain ⟨p, c, h⟩ :=
        mem_calculateDeviceData_clearedBaseline (StdMap.find?_of_mem _ he) hnd hw
      exact ⟨pre, p, c, rfl, h⟩
    · simp [hdec, calculateData] at hw

/-- **No wrapped rate.** Every rate `handleData` writes, for a device or for a sub-device,
is computed from a baseline counter no larger than the current counter of the same entity,
so the uint64 difference `cur_data - pre_data` is the true difference. -/
theorem handleData_rate_from_nondecreasing_counter (preData : Option SharedData)
    (data : SharedData) (w : Write) (hw : w ∈ (handleData preData data).writes) :
    ∃ pre p c, preData = some pre ∧ pre.rawOf w.entity = some p ∧
      data.rawOf w.entity = some c ∧ p.rawData ≤ c.rawData ∧
      (c.rawData - p.rawData).toNat = c.rawData.toNat - p.rawData.toNat ∧
      w.value = rate p c := by
  obtain ⟨pre, p, c, hpre, hp, hc, hr, hnd, hv⟩ := mem_handleData_writes hw
  have hle : p.rawData ≤ c.rawData := by
    simp only [rateReady, Bool.and_eq_true, bne_iff_ne, ne_eq] at hr
    simpa [counterDecreased, hr.1.1, hr.1.2] using hnd
  exact ⟨pre, p, c, hpre, hp, hc, hle, BitVec.toNat_sub_of_le hle, hv⟩

/-- A counter going from 3 (stamped 1) to 9 (stamped 4) gets the rate 2, from 3 ≤ 9. -/
theorem handleData_rate_from_nondecreasing_counter_single :
    let pre := SharedData.single "0" { hasRawDataOnDevice := true, rawdata := 3, rawTimestamp := 1 }
    let data := SharedData.single "0" { hasRawDataOnDevice := true, rawdata := 9, rawTimestamp := 4 }
    (⟨.device "0", 2⟩ : Write) ∈ (handleData (some pre) data).writes ∧
      ∃ pre' p c, some pre = some pre' ∧ pre'.rawOf (Entity.device "0") = some p ∧
        data.rawOf (Entity.device "0") = some c ∧ p.rawData ≤ c.rawData ∧
        (c.rawData - p.rawData).toNat = c.rawData.toNat - p.rawData.toNat ∧
        (2 : UInt64Val) = rate p c :=
  ⟨by decide, handleData_rate_from_nondecreasing_counter _ _ ⟨.device "0", 2⟩ (by decide)⟩

/-- **Rates divide by a nonzero interval.** Whenever `handleData` writes a rate, the entity's
baseline and current raw timestamps differ, so the uint64 divisor `cur_ts - pre_ts` is
nonzero. The timestamps need not be in order: the divisor is the true interval when the
baseline is older, and the wrapped difference `2^64 - (pre_ts - cur_ts)` when it is newer. -/
theorem handleData_rate_interval_nonzero (preData : Option SharedData) (data : SharedData)
    (w : Write) (hw : w ∈ (handleData preData data).writes) :
    ∃ pre p c, preData = some pre ∧ pre.rawOf w.entity = some p ∧
      data.rawOf w.entity = some c ∧ p.rawTimestamp ≠ c.rawTimestamp ∧
      c.rawTimestamp - p.rawTimestamp ≠ 0 ∧
      (p.rawTimestamp < c.rawTimestamp →
        (c.rawTimestamp - p.rawTimestamp).toNat = c.rawTimestamp.toNat - p.rawTimestamp.toNat) ∧
      (c.rawTimestamp < p.rawTimestamp →
        (c.rawTimestamp - p.rawTimestamp).toNat =
          2 ^ 64 - (p.rawTimestamp.toNat - c.rawTimestamp.toNat)) ∧
      w.value = rate p c := by
  obtain ⟨pre, p, c, hpre, hp, hc, hr, -, hv⟩ := mem_handleData_writes hw
  have hsub : c.rawTimestamp - p.rawTimestamp ≠ 0 := by
    simp only [rateReady, Bool.and_eq_true, bne_iff_ne, ne_eq] at hr
    exact hr.2
  refine ⟨pre, p, c, hpre, hp, hc, fun he => hsub (by rw [he, BitVec.sub_self]; rfl), hsub,
    fun hlt => BitVec.toNat_sub_of_le (BitVec.le_def.mpr (BitVec.lt_def.mp hlt).le),
    fun hlt => ?_, hv⟩
  rw [BitVec.lt_def] at hlt
  rw [BitVec.toNat_sub]
  have := p.rawTimestamp.isLt
  rw [Nat.mod_eq_of_lt (by omega)]
  omega

/-- A baseline reading stamped 5 and a current one stamped 3: a rate is still written. -/
theorem handleData_rate_interval_nonzero_inverted :
    let pre := SharedData.single "0"
      { hasRawDataOnDevice := true, rawdata := 10, rawTimestamp := 5 }
    let data := SharedData.single "0"
      { hasRawDataOnDevice := true, rawdata := 20, rawTimestamp := 3 }
    (⟨.device "0", 10 / (3 - 5)⟩ : Write) ∈ (handleData (some pre) data).writes ∧
      ∃ pre' p c, some pre = some pre' ∧ pre'.rawOf (Entity.device "0") = some p ∧
        data.rawOf (Entity.device "0") = some c ∧ p.rawTimestamp ≠ c.rawTimestamp ∧
        c.rawTimestamp - p.rawTimestamp ≠ 0 ∧
        (p.rawTimestamp < c.rawTimestamp →
          (c.rawTimestamp - p.rawTimestamp).toNat =
            c.rawTimestamp.toNat - p.rawTimestamp.toNat) ∧
        (c.rawTimestamp < p.rawTimestamp →
          (c.rawTimestamp - p.rawTimestamp).toNat =
            2 ^ 64 - (p.rawTimestamp.toNat - c.rawTimestamp.toNat)) ∧
        (10 / (3 - 5) : UInt64Val) = rate p c :=
  ⟨by decide, handleData_rate_interval_nonzero _ _ ⟨.device "0", 10 / (3 - 5)⟩ (by decide)⟩

/-- The baseline is stamped 5 and the current reading 3, yet `handleData` writes a rate for
the device: a write whose baseline timestamp is not older than the sample's. -/
theorem handleData_writes_rate_for_inverted_timestamps :
    let pre := SharedData.single "0"
      { hasRawDataOnDevice := true, rawdata := 10, rawTimestamp := 5 }
    let data := SharedData.single "0"
      { hasRawDataOnDevice := true, rawdata := 20, rawTimestamp := 3 }
    ∃ w ∈ (handleData (some pre) data).writes, ∃ p c, pre.rawOf w.entity = some p ∧
      data.rawOf w.entity = some c ∧ ¬ p.rawTimestamp < c.rawTimestamp :=
  ⟨⟨.device "0", 10 / (3 - 5)⟩, by decide, _, _, rfl, rfl, by decide⟩

/-! ## One device's rates -/

/-- Both sub-device loops stop at the first sub-device missing from the baseline. Sub-device
0's counter went from 9 down to 2 while sub-device 1's rose from 5 to 7 over two time
units: overflow detection erases sub-device 0's baseline, `calculateData` stops there, and
sub-device 1 gets no rate, though alone it gets `(7 - 5) / (3 - 1) = 1`. With sub-device 0
missing from the baseline, overflow detection stops there too, and sub-device 1's baseline
reading 9 survives although the sample reads 5. -/
theorem handleData_cleared_sibling_hides_rate :
    (handleData
      (some (SharedData.single "0" { hasSubdeviceRawData := true,
                                     subdeviceRawDatas := ⟨[(0, ⟨9, 1⟩), (1, ⟨5, 1⟩)], by decide⟩ }))
      (SharedData.single "0" { hasSubdeviceRawData := true,
                               subdeviceRawDatas := ⟨[(0, ⟨2, 3⟩), (1, ⟨7, 3⟩)], by decide⟩ })).writes
      = [] ∧
    (handleData
      (some (SharedData.single "0" { hasSubdeviceRawData := true,
                                     subdeviceRawDatas := ⟨[(1, ⟨5, 1⟩)], by decide⟩ }))
      (SharedData.single "0" { hasSubdeviceRawData := true,
                               subdeviceRawDatas := ⟨[(1, ⟨7, 3⟩)], by decide⟩ })).writes
      = [⟨.subdevice "0" 1, 1⟩] ∧
    (handleData
      (some (SharedData.single "0" { hasSubdeviceRawData := true,
                                     subdeviceRawDatas := ⟨[(1, ⟨9, 1⟩)], by decide⟩ }))
      (SharedData.single "0" { hasSubdeviceRawData := true,
                               subdeviceRawDatas := ⟨[(0, ⟨2, 3⟩), (1, ⟨5, 3⟩)], by decide⟩ })).preData.bind
      (·.rawOf (.subdevice "0" 1)) = some ⟨9, 1⟩ :=
  ⟨by decide, by decide, by decide⟩

end TimeWeightedAverageDataHandler

end XpuSmi
