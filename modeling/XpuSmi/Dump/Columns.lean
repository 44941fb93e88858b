import XpuSmi.Basic.Binary64
import XpuSmi.Dump.RawData

/-!
# The columns of a dump, refresh after refresh

`buildColumns` makes the columns of a dump: timestamp, device and tile id, then one or more
per entry of the dump's type list. Each column's `getValue` is a closure that the dump task
calls once per refresh, right after `updateData`, and the task writes an empty value as `N/A`.
The stats and throttle-reason closures keep state: the `lastTimestamp` of their own column
(`p_this->columnList.at(columnIdx)`), meant to print a sample once and `N/A` while it stays
the same.

`DumpColumn` is a column with its closure (`ColumnKind`) and its `lastTimestamp`; the other
closures keep no state and are any function of what a refresh gives them (`Refresh.other`).
`runDump` is the task: refresh after refresh, the line of values and the columns after it.

* `runDump_column` — the columns share no state: a column's values in the dump's lines are
  those of the column run on its own (`DumpColumn.run`);
* `statsColumn_run_blank` — a stats column that has found a sample with timestamp `T` returns
  the empty string at every later refresh until a sample with another timestamp comes;
* `throttleReasonColumn_run` — a throttle-reason column returns its text before it stores the
  timestamp, so its `lastTimestamp` never changes: it prints the reasons again at every
  refresh whose sample's timestamp differs from the one it started with.
-/

namespace XpuSmi

namespace DumpRawDataTask

/-! ## Values -/

/-- An entry of `dumpTypeOptions`, by the fields the stats and throttle-reason columns read:
the header, the statistic, and the scale of the printed value. -/
structure DumpTypeOption where
  name : String
  metricsType : XpumStatsType
  scale : Int
  deriving DecidableEq, Repr

/-- `keepTwoDecimalPrecision`: a stream set to `std::fixed` and `std::setprecision(2)` prints a
`double` as `printf("%.2f")` does, its exact binary value rounded to hundredths, ties to even.
The argument is a finite non-negative `double`, in units of `2 ^ -1074`. -/
def keepTwoDecimalPrecision (value : Nat) : String :=
  let hundredths := Binary64.roundHalfEven (value * 100) Binary64.unitsPerOne
  toString (hundredths / 100) ++ "." ++ toString (hundredths % 100 / 10) ++
    toString (hundredths % 10)

/-- `getScaledValue`: the value itself when the scale is 1, else `value / (double)scale` with
two decimals. The `uint64_t` value converts to `double` rounding to nearest, the `uint32_t`
scale converts exactly, and the quotient rounds once more. A quotient by zero is an infinity,
or for a zero value the NaN of `0.0 / 0.0`, whose sign bit is set on x86-64: glibc prints it
`-nan`. -/
def getScaledValue (value : UInt64Val) (scale : UInt32) : String :=
  if scale == 1 then toString value.toNat
  else
    let v := Binary64.roundToDouble value.toNat 1
    let s := Binary64.roundToDouble scale.toNat 1
    if s = 0 then (if v = 0 then "-nan" else "inf")
    else keepTwoDecimalPrecision (Binary64.roundToDouble v s)

/-- The scale converts to `double` exactly: past the scale of 1 and the zero scale, the printed
value is the quotient of the rounded value by the scale itself, rounded. -/
theorem getScaledValue_eq (value : UInt64Val) {scale : UInt32} (h1 : scale ≠ 1)
    (h0 : scale ≠ 0) :
    getScaledValue value scale =
      keepTwoDecimalPrecision (Binary64.roundToDouble (Binary64.roundToDouble value.toNat 1)
        (scale.toNat * Binary64.unitsPerOne)) := by
  have hs : Binary64.roundToDouble scale.toNat 1 = scale.toNat * Binary64.unitsPerOne :=
    Binary64.roundToDouble_of_lt (scale.toNat_lt_size.trans (by decide))
  have hpos : scale.toNat * Binary64.unitsPerOne ≠ 0 :=
    Nat.mul_ne_zero (fun h => h0 (UInt32.toNat.inj h)) Binary64.unitsPerOne_pos.ne'
  simp only [getScaledValue, beq_iff_eq, h1, ite_false, hs, hpos]

set_option exponentiation.threshold 1100 in
example : getScaledValue 5 8 = "0.62" ∧ getScaledValue 3 200 = "0.01" ∧
    getScaledValue 2 3 = "0.67" ∧ getScaledValue 0 0 = "-nan" := by
  decide

/-- The throttle reasons the column names, in the order it tests them, with their
`zes_freq_throttle_reason_flag_t` bits (the header defining them is not among the sources). -/
def throttleReasonFlags : List (UInt64Val × String) :=
  [(1, "AVE_PWR_CAP"), (2, "BURST_PWR_CAP"), (4, "CURRENT_LIMIT"), (8, "THERMAL_LIMIT"),
    (16, "PSU_ALERT"), (32, "SW_RANGE"), (64, "HW_RANGE")]

/-- The throttle-reason column's text for a reason mask: the reasons set, joined by `" | "`, or
`Not Throttled`. -/
def throttleReasonText (value : UInt64Val) : String :=
  let ss := throttleReasonFlags.foldl
    (fun ss flag => if value &&& flag.1 != 0 then ss ++ flag.2 ++ " | " else ss) ""
  let ss := if ss.length = 0 then ss ++ "Not Throttled | " else ss
  ss.take (ss.length - 3)

/-! ## Columns -/

/-- What a column's `getValue` closure computes. The stats and throttle-reason closures read
`rawDataMap` and their column's `lastTimestamp`; the others (timestamp, device and tile id,
engine utilization, fabric throughput) keep no state. -/
inductive ColumnKind (ε : Type)
  | stats (config : DumpTypeOption)
  | throttleReason (config : DumpTypeOption)
  | stateless (getValue : ε → String)

/-- A `DumpColumn`: its header, its closure, and the `lastTimestamp` kept in it. -/
structure DumpColumn (ε : Type) where
  header : String
  kind : ColumnKind ε
  lastTimestamp : UInt64Val

/-- What one refresh gives the columns: `rawDataMap` after `updateData`, and what the stateless
closures read. -/
structure Refresh (ε : Type) where
  rawDataMap : MetricDataMap
  other : ε

variable {ε : Type}

/-- One call of a column's `getValue`: the value it returns and the column after the call. -/
def DumpColumn.getValue (dc : DumpColumn ε) (r : Refresh ε) : String × DumpColumn ε :=
  match dc.kind with
  | .stats config =>
    match r.rawDataMap config.metricsType with
    | none => ("", dc)
    | some data =>
      (if dc.lastTimestamp != data.timestamp then
          getScaledValue data.value ⟨BitVec.ofInt 32 (data.scale * config.scale)⟩
        else "",
        { dc with lastTimestamp := data.timestamp })
  | .throttleReason config =>
    match r.rawDataMap config.metricsType with
    | none => ("", dc)
    | some data =>
      if dc.lastTimestamp != data.timestamp then (throttleReasonText data.value, dc)
      else ("", { dc with lastTimestamp := data.timestamp })
  | .stateless f => (f r.other, dc)

/-- A column's values over a run of refreshes, the column run on its own. -/
def DumpColumn.run (dc : DumpColumn ε) : List (Refresh ε) → List String
  | [] => []
  | r :: rs => (dc.getValue r).1 :: (dc.getValue r).2.run rs

/-! ## The task -/

/-- One refresh of the task: every column's `getValue`, in column order; the values and the
columns after the calls. -/
def refreshColumns (cols : List (DumpColumn ε)) (r : Refresh ε) :
    List String × List (DumpColumn ε) :=
  (cols.map fun dc => (dc.getValue r).1, cols.map fun dc => (dc.getValue r).2)

/-- The line the task writes for a refresh's values: an empty value as `N/A`, separated by
commas. -/
def dumpLine (values : List String) : String :=
  ",".intercalate (values.map fun v => if v.isEmpty then "N/A" else v)

/-- The values of the task's lines over a run of refreshes. -/
def runDump (cols : List (DumpColumn ε)) : List (Refresh ε) → List (List String)
  | [] => []
  | r :: rs => (refreshColumns cols r).1 :: runDump (refreshColumns cols r).2 rs

/-- **The columns share no state.** Column `i` of the task's lines over any run is what
column `i` gives run on its own. -/
theorem runDump_column (cols : List (DumpColumn ε)) (rs : List (Refresh ε)) {i : Nat}
    (hi : i < cols.length) : (runDump cols rs).map (·[i]?) = (cols[i].run rs).map some := by
  induction rs generalizing cols with
  | nil => rfl
  | cons r rs ih =>
    simp only [runDump, DumpColumn.run, List.map_cons, refreshColumns]
    rw [ih _ (by simpa using hi)]
    simp [hi]

/-! ## Stats columns -/

section Stats

variable {config : DumpTypeOption} {dc : DumpColumn ε}

theorem statsColumn_getValue_kind (hkind : dc.kind = .stats config) (r : Refresh ε) :
    (dc.getValue r).2.kind = .stats config := by
  simp only [DumpColumn.getValue, hkind]
  split
  · exact hkind
  · rfl

/-- A stats column that finds its sample stores the sample's timestamp. -/
theorem statsColumn_getValue_lastTimestamp (hkind : dc.kind = .stats config) {r : Refresh ε}
    {data : XpumDeviceMetricData} (h : r.rawDataMap config.metricsType = some data) :
    (dc.getValue r).2.lastTimestamp = data.timestamp := by
  simp only [DumpColumn.getValue, hkind, h]

/-- A stats column whose `lastTimestamp` is `T` returns the empty string for a refresh whose
sample, if there is one, has timestamp `T`, and keeps `T`. -/
theorem statsColumn_getValue_blank (hkind : dc.kind = .stats config) {T : UInt64Val}
    (hT : dc.lastTimestamp = T) {r : Refresh ε}
    (hsame : ∀ d, r.rawDataMap config.metricsType = some d → d.timestamp = T) :
    (dc.getValue r).1 = "" ∧ (dc.getValue r).2.lastTimestamp = T := by
  simp only [DumpColumn.getValue, hkind]
  split
  · exact ⟨rfl, hT⟩
  · rename_i data h
    simp [hT, hsame data h]

/-- From `lastTimestamp = T`, a run whose samples all have timestamp `T`, where there is one,
returns the empty string at every refresh. -/
theorem statsColumn_run_of_lastTimestamp {T : UInt64Val} {rs : List (Refresh ε)}
    (hsame : ∀ r ∈ rs, ∀ d, r.rawDataMap config.metricsType = some d → d.timestamp = T) :
    ∀ dc : DumpColumn ε, dc.kind = .stats config → dc.lastTimestamp = T →
      ∀ v ∈ dc.run rs, v = "" := by
  induction rs with
  | nil => simp [DumpColumn.run]
  | cons r rs ih =>
    intro dc hkind hT v hv
    simp only [List.mem_cons, forall_eq_or_imp] at hsame
    obtain ⟨hblank, hlast⟩ := statsColumn_getValue_blank hkind hT hsame.1
    rcases List.mem_cons.mp hv with rfl | hv
    · exact hblank
    · exact ih hsame.2 _ (statsColumn_getValue_kind hkind r) hlast v hv

/-- **Stats columns print a sample once.** After a refresh that finds a sample with timestamp
`T`, a stats column returns the empty string at every refresh of any run in which the sample,
where there is one, still has timestamp `T`. -/
theorem statsColumn_run_blank (hkind : dc.kind = .stats config) {r : Refresh ε}
    {data : XpumDeviceMetricData} (hr : r.rawDataMap config.metricsType = some data)
    {rs : List (Refresh ε)}
    (hsame : ∀ r' ∈ rs, ∀ d, r'.rawDataMap config.metricsType = some d →
      d.timestamp = data.timestamp) :
    ∀ v ∈ (dc.getValue r).2.run rs, v = "" :=
  statsColumn_run_of_lastTimestamp hsame _ (statsColumn_getValue_kind hkind r)
    (statsColumn_getValue_lastTimestamp hkind hr)

end Stats

/-! ## Throttle-reason columns -/

section ThrottleReason

variable {config : DumpTypeOption} {dc : DumpColumn ε}

/-- The value a throttle-reason column with `lastTimestamp` `last` returns for a refresh. -/
def throttleReasonValue (config : DumpTypeOption) (last : UInt64Val) (r : Refresh ε) : String :=
  match r.rawDataMap config.metricsType with
  | none => ""
  | some data => if last != data.timestamp then throttleReasonText data.value else ""

/-- A throttle-reason column returns before it stores the timestamp: a call leaves the column
as it was. -/
theorem throttleReasonColumn_getValue (hkind : dc.kind = .throttleReason config)
    (r : Refresh ε) :
    dc.getValue r = (throttleReasonValue config dc.lastTimestamp r, dc) := by
  obtain ⟨header, kind, last⟩ := dc
  dsimp only at hkind
  subst hkind
  simp only [DumpColumn.getValue, throttleReasonValue]
  split
  · rfl
  · split
    · rfl
    · rename_i h
      simp only [bne_iff_ne, ne_eq, Decidable.not_not] at h
      rw [h]

/-- **Throttle-reason columns do not remember.** Over any run, a throttle-reason column keeps
the `lastTimestamp` it started with, and returns the reasons at every refresh whose sample's
timestamp differs from it. -/
theorem throttleReasonColumn_run (hkind : dc.kind = .throttleReason config)
    (rs : List (Refresh ε)) :
    dc.run rs = rs.map (throttleReasonValue config dc.lastTimestamp) := by
  induction rs with
  | nil => rfl
  | cons r rs ih => rw [DumpColumn.run, throttleReasonColumn_getValue hkind, ih, List.map_cons]

end ThrottleReason

/-- A throttle-reason column started at `lastTimestamp = 0`, fed the same sample (timestamp 1,
no reason set) at two refreshes: both lines print `Not Throttled`. -/
theorem throttleReasonColumn_repeats_sample :
    (runDump
        [⟨"Throttle Reason",
          .throttleReason ⟨"Throttle Reason", .statsFrequencyThrottleReasonGpu, 1⟩, 0⟩]
        [⟨fun _ => some ⟨.statsFrequencyThrottleReasonGpu, false, 0, 1, 1⟩, ()⟩,
          ⟨fun _ => some ⟨.statsFrequencyThrottleReasonGpu, false, 0, 1, 1⟩, ()⟩]).map dumpLine =
      ["Not Throttled", "Not Throttled"] := by
  decide

end DumpRawDataTask

end XpuSmi
