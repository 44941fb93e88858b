import XpuSmi.Basic.Split
import XpuSmi.Dump.EngineFabric

/-!
# The dump file

`start` builds the columns (`buildColumns`), writes the header line (`writeHeader`: the headers
separated by `", "`), and at every refresh appends the line of values (`writeToFile`: the values
separated by `","`, an empty value written `N/A`). The file is meant to be read back as
comma-separated values.

`buildColumns` makes the timestamp and id columns, then, for each entry of the dump's type list,
its stats, engine, fabric or throttle-reason columns: the engine columns over the engine counts
it selects (`selectEngineCounts`), the fabric columns over the links it selects
(`selectFabricLinks`).

No value holds a comma: the stats, engine and fabric values are decimal text (or `-nan`, `inf`),
the throttle reasons are upper-case names, the timestamp is a local time and the ids are
integers. So a line read back with `Utility::split` on `,` gives one field per column:

* `commaFree_getValue` — a column whose closure prints no comma returns none, at every refresh;
* `runDump_commaFree` — over any run, every line has one value per column, none with a comma;
* `split_dumpLine`, `split_headerLine` — reading a line back gives its values, `N/A` for an
  empty one; reading the header back gives the headers, each after the first with the space
  `writeHeader` puts after the comma;
* `tileDump_engineColumns_own_tile` — a tile dump's engine columns show rows of that tile
  only;
* `buildColumns_commaFreeFields` — the columns `buildColumns` makes write no comma, when the
  names of the dump types and of the engines hold none;
* `dumpFile_fields_eq_columns` — **one field per column**: over any run, every line of the
  file, the header included, reads back as exactly as many fields as the task has columns.
-/

namespace XpuSmi

namespace DumpRawDataTask

open DataLogic Utility

/-! ## Text with no comma -/

/-- Text with no comma: a field that reading the file on `,` keeps whole. -/
def CommaFree (s : String) : Prop := ',' ∉ s.data

instance : DecidablePred CommaFree := fun s => inferInstanceAs (Decidable (',' ∉ s.data))

@[simp] theorem commaFree_append {s t : String} :
    CommaFree (s ++ t) ↔ CommaFree s ∧ CommaFree t := by
  simp [CommaFree, not_or]

@[simp] theorem commaFree_empty : CommaFree "" := List.not_mem_nil _

@[simp] theorem commaFree_toString_nat (n : Nat) : CommaFree (toString n) :=
  fun h => absurd (Decimal.isDigit_of_mem_toDigits h) (by decide)

@[simp] theorem commaFree_toString_int (n : Int) : CommaFree (toString n) := fun h => by
  rcases Decimal.mem_toString_int h with h | h <;> revert h <;> decide

theorem commaFree_keepTwoDecimalPrecision (value : Nat) :
    CommaFree (keepTwoDecimalPrecision value) := by
  simp only [keepTwoDecimalPrecision, commaFree_append, commaFree_toString_nat, and_true,
    true_and]
  decide

theorem commaFree_getScaledValue (value : UInt64Val) (scale : UInt32) :
    CommaFree (getScaledValue value scale) := by
  unfold getScaledValue
  dsimp only
  split_ifs
  · exact commaFree_toString_nat _
  · decide
  · decide
  · exact commaFree_keepTwoDecimalPrecision _

theorem commaFree_throttleReasonText (value : UInt64Val) :
    CommaFree (throttleReasonText value) := by
  have hloop : ∀ (flags : List (UInt64Val × String)) (ss : String),
      (∀ f ∈ flags, CommaFree f.2) → CommaFree ss →
      CommaFree (flags.foldl
        (fun ss flag => if value &&& flag.1 != 0 then ss ++ flag.2 ++ " | " else ss) ss) := by
    intro flags
    induction flags with
    | nil => exact fun _ _ h => h
    | cons f fs ih =>
      intro ss hf hss
      refine ih _ (fun g hg => hf g (List.mem_cons_of_mem _ hg)) ?_
      dsimp only
      split_ifs
      · simp only [commaFree_append]
        exact ⟨⟨hss, hf f (List.mem_cons_self _ _)⟩, by decide⟩
      · exact hss
  have hfold := hloop throttleReasonFlags "" (by decide) (by decide)
  intro h
  simp only [throttleReasonText, String.data_take] at h
  have h := List.mem_of_mem_take h
  split_ifs at h
  · rw [String.data_append, List.mem_append] at h
    exact h.elim hfold (by decide)
  · exact hfold h

/-! ## Columns that write no comma -/

section Columns

variable {ε : Type}

/-- A column kind whose closure never returns a comma. The stats and throttle-reason closures
print decimal text and reason names; a closure that keeps no state may return any text, and is
required to return none with a comma. -/
def ColumnKind.CommaFreeValues : ColumnKind ε → Prop
  | .stateless f => ∀ d, CommaFree (f d)
  | _ => True

/-- A column that writes no comma into the file: neither its header nor any value. -/
def DumpColumn.CommaFreeFields (dc : DumpColumn ε) : Prop :=
  CommaFree dc.header ∧ dc.kind.CommaFreeValues

/-- A call of `getValue` keeps the column's kind: only `lastTimestamp` changes. -/
theorem DumpColumn.getValue_kind (dc : DumpColumn ε) (r : Refresh ε) :
    (dc.getValue r).2.kind = dc.kind := by
  unfold DumpColumn.getValue
  split <;> (repeat' split) <;> rfl

/-- A column whose closure prints no comma returns none. -/
theorem commaFree_getValue {dc : DumpColumn ε} (hdc : dc.kind.CommaFreeValues)
    (r : Refresh ε) : CommaFree (dc.getValue r).1 := by
  unfold DumpColumn.getValue
  split
  · split
    · exact commaFree_empty
    · split_ifs
      · exact commaFree_getScaledValue _ _
      · exact commaFree_empty
  · split
    · exact commaFree_empty
    · split_ifs
      · dsimp only
        exact commaFree_throttleReasonText _
      · exact commaFree_empty
  · rename_i f hf
    rw [hf] at hdc
    exact hdc _

/-- **Every line has one value per column, none with a comma.** Over any run of refreshes,
the columns keep their kinds, so each line holds one value per column and, when no closure
prints a comma, no value holds one. -/
theorem runDump_commaFree {cols : List (DumpColumn ε)}
    (hcols : ∀ dc ∈ cols, dc.kind.CommaFreeValues) (rs : List (Refresh ε)) :
    ∀ values ∈ runDump cols rs,
      values.length = cols.length ∧ ∀ v ∈ values, CommaFree v := by
  induction rs generalizing cols with
  | nil => simp [runDump]
  | cons r rs ih =>
    intro values hv
    rw [runDump, List.mem_cons] at hv
    rcases hv with rfl | hv
    · simp only [refreshColumns, List.length_map, List.mem_map, true_and]
      rintro _ ⟨dc, hdc, rfl⟩
      exact commaFree_getValue (hcols dc hdc) r
    · have hnext : ∀ dc ∈ (refreshColumns cols r).2, dc.kind.CommaFreeValues := by
        simp only [refreshColumns, List.mem_map]
        rintro _ ⟨dc, hdc, rfl⟩
        rw [DumpColumn.getValue_kind]
        exact hcols dc hdc
      simpa [refreshColumns] using ih hnext values hv

end Columns

/-! ## Reading the file back -/

section ReadBack

variable {ε : Type}

/-- `writeHeader`: the headers, separated by `", "`. -/
def headerLine (cols : List (DumpColumn ε)) : String :=
  ", ".intercalate (cols.map (·.header))

/-- The lines `start` writes to the dump file over a run of refreshes: the header, then one
line per refresh. -/
def dumpFile (cols : List (DumpColumn ε)) (rs : List (Refresh ε)) : List String :=
  headerLine cols :: (runDump cols rs).map dumpLine

/-- Reading a line back on `,` gives its values, `N/A` for an empty one. -/
theorem split_dumpLine {values : List String} (h : ∀ v ∈ values, CommaFree v) :
    split (dumpLine values) ',' = values.map fun v => if v.isEmpty then "N/A" else v := by
  rw [dumpLine, show "," = String.singleton ',' from rfl]
  apply split_intercalate
  · simp only [List.mem_map]
    rintro _ ⟨v, -, rfl⟩
    split_ifs with he
    · decide
    · rwa [ne_eq, ← String.isEmpty_iff]
  · simp only [List.mem_map]
    rintro _ ⟨v, hv, rfl⟩
    split_ifs
    · decide
    · exact h v hv

theorem intercalate_cons_cons {α : Type} (sep x y : List α) (ys : List (List α)) :
    sep.intercalate (x :: y :: ys) = x ++ sep ++ sep.intercalate (y :: ys) := by
  simp [List.intercalate, List.intersperse_cons_cons]

/-- `", "` between the headers is `,` before every header but the first, read with a leading
space. -/
theorem intercalate_comma_space {β : Type} (x : List Char) (ys : List β) (f : β → List Char) :
    [',', ' '].intercalate (x :: ys.map f) =
      [','].intercalate (x :: ys.map fun y => ' ' :: f y) := by
  induction ys generalizing x with
  | nil => rfl
  | cons y ys ih =>
    rw [List.map_cons, List.map_cons, intercalate_cons_cons, intercalate_cons_cons, ih,
      show ' ' :: f y = [' '] ++ f y from rfl, intercalate_cons_append]
    simp

/-- Reading the header back on `,` gives the headers, each after the first with the space
`writeHeader` puts after the comma. -/
theorem split_headerLine {dc : DumpColumn ε} {cols : List (DumpColumn ε)}
    (hne : dc.header ≠ "") (h : ∀ c ∈ dc :: cols, CommaFree c.header) :
    split (headerLine (dc :: cols)) ',' = dc.header :: cols.map fun c => " " ++ c.header := by
  have hline : headerLine (dc :: cols) =
      String.intercalate (String.singleton ',')
        (dc.header :: cols.map fun c => " " ++ c.header) := by
    apply String.ext
    simp only [headerLine, intercalate_data, List.map_cons, List.map_map, Function.comp_def]
    exact intercalate_comma_space _ _ _
  rw [hline]
  apply split_intercalate
  · simp only [List.mem_cons, List.mem_map]
    rintro _ (rfl | ⟨c, -, rfl⟩)
    · exact hne
    · exact fun he => List.cons_ne_nil _ _ (congrArg String.data he)
  · simp only [List.mem_cons, List.mem_map]
    rintro _ (rfl | ⟨c, hc, rfl⟩)
    · exact h dc (List.mem_cons_self _ _)
    · exact commaFree_append.2 ⟨by decide, h c (List.mem_cons_of_mem _ hc)⟩

/-- Over any run, every line of the file reads back as one field per column, when no column
writes a comma and the first header is not empty. -/
theorem dumpFile_fields {cols : List (DumpColumn ε)} (hcols : ∀ dc ∈ cols, dc.CommaFreeFields)
    (hfirst : ∀ dc ∈ cols.head?, dc.header ≠ "") (rs : List (Refresh ε)) :
    ∀ line ∈ dumpFile cols rs, (split line ',').length = cols.length := by
  intro line hline
  rcases List.mem_cons.mp hline with rfl | hline
  · cases cols with
    | nil => rw [split, splitLoop_eq]; rfl
    | cons dc cols =>
      rw [split_headerLine (hfirst dc rfl) fun c hc => (hcols c hc).1]
      simp
  · obtain ⟨values, hv, rfl⟩ := List.mem_map.mp hline
    obtain ⟨hlen, hvalues⟩ := runDump_commaFree (fun dc hdc => (hcols dc hdc).2) rs values hv
    rw [split_dumpLine hvalues, List.length_map, hlen]

end ReadBack

/-! ## The columns of a dump -/

/-- `xpum::dump::DumpOptionType`, what an entry of `dumpTypeOptions` dumps (the header defining
it is not among the sources); `other` stands for any type no branch of `buildColumns`
handles. -/
inductive DumpOptionType
  | stats | engine | fabric | throttleReason | other
  deriving DecidableEq, Repr

/-- An entry of `dumpTypeOptions`, by the fields `buildColumns` reads. -/
structure DumpOptionEntry where
  optionType : DumpOptionType
  config : DumpTypeOption
  engineType : XpumEngineType

/-- An entry of `getDeviceAndTileFabricCount`: the fabric links of the device or of one tile. -/
structure FabricCount where
  isTileLevel : Bool
  tileId : Int
  dataList : List FabricLinkInfo

/-- Whether an entry of the engine or fabric counts is the one of what the task dumps: the
device's for a device dump (`tileId == -1`), the tile's for a tile dump. -/
def describesDump (tileId : Int) (isTileLevel : Bool) (entryTileId : Int) : Bool :=
  (tileId == -1 && !isTileLevel) || (isTileLevel && tileId == entryTileId)

/-- `curEngineCountList` and `needAggFromTiles`: the first entry that describes the dump;
failing that, for a device dump, the entries of the tiles sorted by tile id, to be aggregated.
`std::sort` leaves the order of entries with equal tile ids unspecified; the model keeps them
in list order. -/
def selectEngineCounts (tileId : Int) (engineCountList : List EngineCount) :
    List EngineCount × Bool :=
  match engineCountList.find? fun ec => describesDump tileId ec.isTileLevel ec.tileId with
  | some ec => ([ec], false)
  | none =>
    ((engineCountList.filter fun ec => tileId == -1 && ec.isTileLevel).mergeSort
      fun a b => decide (a.tileId ≤ b.tileId), true)

/-- `pFabricCountList`: the links of the first entry that describes the dump; failing that, for
a device dump, those of every tile in order, appended to the first tile's list; `none` for the
null pointer. -/
def selectFabricLinks (tileId : Int) (fabricCountList : List FabricCount) :
    Option (List FabricLinkInfo) :=
  match fabricCountList.find? fun fc => describesDump tileId fc.isTileLevel fc.tileId with
  | some fc => some fc.dataList
  | none =>
    match fabricCountList.filter fun fc => fc.isTileLevel && tileId == -1 with
    | [] => none
    | tiles => some (tiles.flatMap (·.dataList))

/-- The timestamp column: the local time at each refresh, with the date when `showDate`. -/
def timestampColumn (showDate : Bool) (lastTimestamp : UInt64Val) : DumpColumn DumpData :=
  { header := "Timestamp",
    kind := .stateless fun d => getLocalTimeString d.localtime d.currentMillisecond showDate,
    lastTimestamp }

/-- The device id and tile id columns: `std::to_string` of the id. -/
def idColumn (header : String) (id : Int) (lastTimestamp : UInt64Val) : DumpColumn DumpData :=
  { header, kind := .stateless fun _ => toString id, lastTimestamp }

/-- The columns `buildColumns` makes for one entry of the dump's type list. -/
def optionColumns (engineNameMap : XpumEngineType → String) (deviceId : Int)
    (curEngineCountList : List EngineCount) (needAggFromTiles : Bool)
    (fabricLinks : Option (List FabricLinkInfo)) (lastTimestamp : UInt64Val)
    (opt : DumpOptionEntry) : List (DumpColumn DumpData) :=
  match opt.optionType with
  | .stats => [{ header := opt.config.name, kind := .stats opt.config, lastTimestamp }]
  | .engine =>
    if curEngineCountList.isEmpty then []
    else
      engineColumns (engineNameMap opt.engineType) opt.config opt.engineType needAggFromTiles
        curEngineCountList lastTimestamp
  | .fabric =>
    match fabricLinks with
    | none => []
    | some links => fabricColumns opt.config deviceId links lastTimestamp
  | .throttleReason =>
    [{ header := opt.config.name, kind := .throttleReason opt.config, lastTimestamp }]
  | .other => []

/-- `DumpRawDataTask::buildColumns`. `engineCountList` and `fabricCountList` are what
`getDeviceAndTileEngineCount(deviceId)` and `getDeviceAndTileFabricCount(deviceId)` return,
`engineNameMap` is `xpum::dump::engineNameMap`, `dumpTypeList` the entries of
`dumpTypeOptions` the dump's type list names, and `lastTimestamp` what a new `DumpColumn`
holds. -/
def buildColumns (showDate : Bool) (deviceId tileId : Int)
    (engineNameMap : XpumEngineType → String) (engineCountList : List EngineCount)
    (fabricCountList : List FabricCount) (dumpTypeList : List DumpOptionEntry)
    (lastTimestamp : UInt64Val) : List (DumpColumn DumpData) :=
  [timestampColumn showDate lastTimestamp, idColumn "DeviceId" deviceId lastTimestamp] ++
    (if tileId ≠ -1 then [idColumn "TileId" tileId lastTimestamp] else []) ++
    dumpTypeList.flatMap (optionColumns engineNameMap deviceId
      (selectEngineCounts tileId engineCountList).1 (selectEngineCounts tileId engineCountList).2
      (selectFabricLinks tileId fabricCountList) lastTimestamp)

/-! ## A tile dump shows its own tile -/

/-- **A tile dump shows its own tile.** In a dump of tile `tileId`, every column `buildColumns`
makes for an engine entry of the dump's type list shows, at every refresh after `updateData`,
`N/A` or the utilization of an engine of the entry's type on that tile, as the data call
stored it: never a row of another tile or of the whole device. -/
theorem tileDump_engineColumns_own_tile {tileId : Int} (htile : tileId ≠ -1)
    (engineNameMap : XpumEngineType → String) (deviceId : Int)
    (engineCountList : List EngineCount) (fabricCountList : List FabricCount)
    (lastTimestamp : UInt64Val) {opt : DumpOptionEntry} (hengine : opt.optionType = .engine)
    {dc : DumpColumn DumpData}
    (hdc : dc ∈ optionColumns engineNameMap deviceId (selectEngineCounts tileId engineCountList).1
      (selectEngineCounts tileId engineCountList).2 (selectFabricLinks tileId fabricCountList)
      lastTimestamp opt)
    (core : Core) (emptyDataNull : Bool) (zero : XpumDeviceEngineMetric) (r : Refresh DumpData)
    (hr : updateEngineData core deviceId tileId emptyDataNull zero =
      some r.other.engineUtilRawDataMap) :
    (dc.getValue r).1 = "" ∨
      ∃ row ∈ (engineDataCall core deviceId emptyDataNull).rows,
        row.isTileData = true ∧ (row.tileId : Int) = tileId ∧ row.type = opt.engineType ∧
        (dc.getValue r).1 =
          getScaledValue row.value ⟨BitVec.ofInt 32 (row.scale * opt.config.scale)⟩ := by
  simp only [optionColumns, hengine] at hdc
  split_ifs at hdc
  · cases hdc
  obtain ⟨ec, -, engineIdx, -, rfl⟩ := mem_engineColumns hdc
  simp only [DumpColumn.getValue, engineColumnValue_updateEngineData hr]
  split
  · exact .inl rfl
  · rename_i row hfind
    have hrow := List.find?_some hfind
    simp only [keepsEngineRow, Bool.and_eq_true, Bool.or_eq_true, beq_iff_eq, htile,
      false_or] at hrow
    obtain ⟨⟨⟨⟨htileData, htileId⟩, hrowType⟩, -⟩, -⟩ := hrow
    exact .inr ⟨row, List.mem_of_find?_eq_some hfind, htileData, htileId.symm, hrowType, rfl⟩

/-- The column of compute engine 0 of tile 0, in a dump of tile 0. -/
def tileComputeZeroColumn : DumpColumn DumpData :=
  { header := "Compute 0 (%)",
    kind := .stateless fun d =>
      engineColumnValue ⟨"Compute", .statsEngineUtilization, 1⟩ false 0 .engineTypeCompute 0
        d.engineUtilRawDataMap,
    lastTimestamp := 0 }

/-- The engine counts of `computeEnginesCore`'s device: one compute engine at device level and
one on each of its two tiles. -/
def computeEngineCounts : List EngineCount :=
  [⟨false, -1, [⟨.engineTypeCompute, 1⟩]⟩, ⟨true, 0, [⟨.engineTypeCompute, 1⟩]⟩,
    ⟨true, 1, [⟨.engineTypeCompute, 1⟩]⟩]

/-- A dump of tile 0 of `computeEnginesCore`, whose tile has one compute engine: its column
shows tile 0's row, at 20 %, not the device's or tile 1's. -/
theorem tileDump_engineColumns_own_tile_compute :
    ((0 : Int) ≠ -1 ∧
      (⟨.engine, ⟨"Compute", .statsEngineUtilization, 1⟩, .engineTypeCompute⟩ :
        DumpOptionEntry).optionType = .engine ∧
      tileComputeZeroColumn ∈ optionColumns (fun _ => "Compute") 0
        (selectEngineCounts 0 computeEngineCounts).1
        (selectEngineCounts 0 computeEngineCounts).2
        (selectFabricLinks 0 []) 0
        ⟨.engine, ⟨"Compute", .statsEngineUtilization, 1⟩, .engineTypeCompute⟩ ∧
      updateEngineData computeEnginesCore 0 0 true ⟨false, 0, 0, 0, 0, .engineTypeCompute⟩ =
        some (computeEnginesRefresh 0).other.engineUtilRawDataMap) ∧
    ((tileComputeZeroColumn.getValue (computeEnginesRefresh 0)).1 = "" ∨
      ∃ row ∈ (engineDataCall computeEnginesCore 0 true).rows,
        row.isTileData = true ∧ (row.tileId : Int) = 0 ∧ row.type = .engineTypeCompute ∧
        (tileComputeZeroColumn.getValue (computeEnginesRefresh 0)).1 =
          getScaledValue row.value ⟨BitVec.ofInt 32 (row.scale * 1)⟩) ∧
    (tileComputeZeroColumn.getValue (computeEnginesRefresh 0)).1 = "20" :=
  have hdc : tileComputeZeroColumn ∈ optionColumns (fun _ => "Compute") 0
      (selectEngineCounts 0 computeEngineCounts).1
      (selectEngineCounts 0 computeEngineCounts).2
      (selectFabricLinks 0 []) 0
      ⟨.engine, ⟨"Compute", .statsEngineUtilization, 1⟩, .engineTypeCompute⟩ :=
    List.mem_singleton.2 rfl
  have hr :
      updateEngineData computeEnginesCore 0 0 true ⟨false, 0, 0, 0, 0, .engineTypeCompute⟩ =
      some (computeEnginesRefresh 0).other.engineUtilRawDataMap := rfl
  ⟨⟨by decide, rfl, hdc, hr⟩,
    tileDump_engineColumns_own_tile (by decide) _ _ _ _ _ rfl hdc _ _ _ _ hr, by decide⟩

/-! ## The columns `buildColumns` makes write no comma -/

theorem commaFree_engineColumnValue (config : DumpTypeOption) (needAggFromTiles : Bool)
    (tileId : Int) (engineType : XpumEngineType) (engineIdx : Nat) (m : EngineUtilRawDataMap) :
    CommaFree (engineColumnValue config needAggFromTiles tileId engineType engineIdx m) := by
  unfold engineColumnValue
  split
  · exact commaFree_empty
  · exact commaFree_getScaledValue _ _

theorem commaFree_fabricColumnValue (config : DumpTypeOption) (key : String)
    (m : FabricRawDataMap) : CommaFree (fabricColumnValue config key m) := by
  unfold fabricColumnValue
  split
  · exact commaFree_empty
  · exact commaFree_getScaledValue _ _

theorem engineColumns_commaFreeFields {engineName : String} (hname : CommaFree engineName)
    (config : DumpTypeOption) (engineType : XpumEngineType) (needAggFromTiles : Bool)
    (curEngineCountList : List EngineCount) (lastTimestamp : UInt64Val) :
    ∀ dc ∈ engineColumns engineName config engineType needAggFromTiles curEngineCountList
      lastTimestamp, dc.CommaFreeFields := by
  intro dc hdc
  obtain ⟨ec, -, engineIdx, -, rfl⟩ := mem_engineColumns hdc
  refine And.intro ?_ fun _ => commaFree_engineColumnValue _ _ _ _ _ _
  dsimp only
  split_ifs <;> simp [hname] <;> decide

theorem fabricColumns_commaFreeFields (config : DumpTypeOption) (deviceId : Int)
    (links : List FabricLinkInfo) (lastTimestamp : UInt64Val) :
    ∀ dc ∈ fabricColumns config deviceId links lastTimestamp, dc.CommaFreeFields := by
  intro dc hdc
  obtain ⟨a, b, c, d, rfl⟩ := mem_fabricColumns hdc
  exact And.intro (by simp [fabricColumn, fabricKey]; decide)
    fun _ => commaFree_fabricColumnValue _ _ _

/-- The columns `buildColumns` makes write no comma, when the names of the dump types and of
the engines hold none. -/
theorem buildColumns_commaFreeFields (showDate : Bool) (deviceId tileId : Int)
    {engineNameMap : XpumEngineType → String} (hengine : ∀ t, CommaFree (engineNameMap t))
    (engineCountList : List EngineCount) (fabricCountList : List FabricCount)
    {dumpTypeList : List DumpOptionEntry}
    (hnames : ∀ opt ∈ dumpTypeList, CommaFree opt.config.name) (lastTimestamp : UInt64Val) :
    ∀ dc ∈ buildColumns showDate deviceId tileId engineNameMap engineCountList fabricCountList
      dumpTypeList lastTimestamp, dc.CommaFreeFields := by
  have htime : (timestampColumn showDate lastTimestamp).CommaFreeFields :=
    And.intro (show CommaFree "Timestamp" by decide) fun _ h =>
      absurd (timeChar_getLocalTimeString _ _ _ _ h) (by decide)
  have hid : ∀ header id, CommaFree header →
      (idColumn header id lastTimestamp).CommaFreeFields :=
    fun _ _ h => And.intro h fun _ => commaFree_toString_int _
  simp only [buildColumns, List.mem_append, List.mem_cons, List.mem_flatMap, List.not_mem_nil,
    or_false]
  rintro dc (((rfl | rfl) | hdc) | ⟨opt, hopt, hdc⟩)
  · exact htime
  · exact hid _ _ (by decide)
  · split_ifs at hdc
    · rw [List.mem_singleton.mp hdc]
      exact hid _ _ (by decide)
    · cases hdc
  · unfold optionColumns at hdc
    split at hdc
    · rw [List.mem_singleton.mp hdc]
      exact And.intro (hnames opt hopt) trivial
    · split_ifs at hdc
      · cases hdc
      · exact engineColumns_commaFreeFields (hengine _) _ _ _ _ _ dc hdc
    · split at hdc
      · cases hdc
      · exact fabricColumns_commaFreeFields _ _ _ _ dc hdc
    · rw [List.mem_singleton.mp hdc]
      exact And.intro (hnames opt hopt) trivial
    · cases hdc

/-- **One field per column.** Over any run of refreshes, every line of the dump file, the
header included, read back with `Utility::split` on `,`, has exactly as many fields as the task
has columns, whatever the device, its engines and links and the dump's types, when the names
of the dump types and of the engines hold no comma. -/
theorem dumpFile_fields_eq_columns (showDate : Bool) (deviceId tileId : Int)
    {engineNameMap : XpumEngineType → String} (hengine : ∀ t, CommaFree (engineNameMap t))
    (engineCountList : List EngineCount) (fabricCountList : List FabricCount)
    {dumpTypeList : List DumpOptionEntry}
    (hnames : ∀ opt ∈ dumpTypeList, CommaFree opt.config.name) (lastTimestamp : UInt64Val)
    (rs : List (Refresh DumpData)) :
    ∀ line ∈ dumpFile (buildColumns showDate deviceId tileId engineNameMap engineCountList
        fabricCountList dumpTypeList lastTimestamp) rs,
      (split line ',').length = (buildColumns showDate deviceId tileId engineNameMap
        engineCountList fabricCountList dumpTypeList lastTimestamp).length := by
  refine dumpFile_fields (buildColumns_commaFreeFields showDate deviceId tileId hengine
    engineCountList fabricCountList hnames lastTimestamp) (fun dc hdc => ?_) rs
  simp only [buildColumns, List.cons_append, List.head?_cons, Option.mem_def,
    Option.some.injEq] at hdc
  subst hdc
  show "Timestamp" ≠ ""
  decide

/-- A device dump of the GPU utilization and of the compute engine of `computeEnginesCore`,
with the date in its timestamps, over two refreshes. -/
theorem dumpFile_fields_eq_columns_utilization :
    ((∀ t : XpumEngineType, CommaFree ((fun _ => "Compute") t)) ∧
      ∀ opt ∈ [(⟨.stats, ⟨"GPU Utilization (%)", .statsGpuUtilization, 1⟩,
          .engineTypeCompute⟩ : DumpOptionEntry),
        ⟨.engine, ⟨"Compute", .statsEngineUtilization, 1⟩, .engineTypeCompute⟩],
        CommaFree opt.config.name) ∧
    ∀ line ∈ dumpFile (buildColumns true 0 (-1) (fun _ => "Compute")
        [⟨false, -1, [⟨.engineTypeCompute, 1⟩]⟩] []
        [⟨.stats, ⟨"GPU Utilization (%)", .statsGpuUtilization, 1⟩, .engineTypeCompute⟩,
          ⟨.engine, ⟨"Compute", .statsEngineUtilization, 1⟩, .engineTypeCompute⟩] 0)
        [computeEnginesRefresh (-1), computeEnginesRefresh (-1)],
      (split line ',').length = (buildColumns true 0 (-1) (fun _ => "Compute")
        [⟨false, -1, [⟨.engineTypeCompute, 1⟩]⟩] []
        [⟨.stats, ⟨"GPU Utilization (%)", .statsGpuUtilization, 1⟩, .engineTypeCompute⟩,
          ⟨.engine, ⟨"Compute", .statsEngineUtilization, 1⟩, .engineTypeCompute⟩]
        0).length :=
  have hengine : ∀ t : XpumEngineType, CommaFree ((fun _ => "Compute") t) := fun _ =>
    show CommaFree "Compute" by decide
  have hnames : ∀ opt ∈ [(⟨.stats, ⟨"GPU Utilization (%)", .statsGpuUtilization, 1⟩,
        .engineTypeCompute⟩ : DumpOptionEntry),
      ⟨.engine, ⟨"Compute", .statsEngineUtilization, 1⟩, .engineTypeCompute⟩],
      CommaFree opt.config.name := by decide
  ⟨⟨hengine, hnames⟩, dumpFile_fields_eq_columns true 0 (-1) hengine _ [] hnames 0 _⟩

end DumpRawDataTask

end XpuSmi
