import PanelExport.Correctness.TimeSeriesRows
import PanelExport.Correctness.BarChartTuples

/-
  What the time-series exporters' CSV reads back as.

  Both exporters write a `DateTime` header, one column per series
  and one record per row key, the keys sorted as strings.  For
  series of `[t, v]` entries whose instants have four-digit years
  the records are `timeRecords`: one per distinct instant, in
  increasing order.  The enhanced exporter reads a timestamp up
  to `1e10` as seconds, writes a column `Series_k` for every
  series and comments naming their legends; the stashed one reads
  milliseconds and writes a column per distinct non-empty name.

  Main declarations:
    * `EnhancedTimeSeriesReads`, `Enhanced.exportTimeSeriesData_reads`
    * `StashedTimeSeriesReads`, `Stashed.exportTimeSeriesData_reads`
    * `time_series_exporters_agree`
    * `Enhanced.collectSeries_columns`, `series_columns_keep_positions`
-/

------------------------------------------------------------
-- Enhanced Series
------------------------------------------------------------

namespace PanelExport

namespace Enhanced

/- The instant the enhanced exporter reads a timestamp as. -/
def instantOf (t : Int) : Int :=
  if t > 10000000000 then t else t * 1000

theorem toMillis_int (t : Int) : toMillis (.int t) = .int (instantOf t) := by
  simp only [toMillis, instantOf]
  split <;> rfl

/- The CSV column of the series at index `j`. -/
def seriesColumn (j : Nat) : String :=
  "Series_" ++ toString (j + 1)

theorem seriesColumn_injective (a b : Nat) (hEq : seriesColumn a = seriesColumn b) : a = b := by
  have hText : toString (a + 1) = toString (b + 1) :=
    String.ext (List.append_cancel_left (congrArg String.data hEq))
  have := toString_injective hText
  omega

/- The writes of one series' entries into its column. -/
theorem collectEntries_points
    (columnName : String)
    (rows : List (String × Props))
    {points : List (Int × JsVal)}
    (hRange : ∀ p ∈ points, isoMin ≤ instantOf p.1 ∧ instantOf p.1 ≤ isoMax) :
    collectEntries columnName rows (points.map pointVal) =
      .ok (writeAll rows (points.map fun p => (isoString (instantOf p.1), columnName, p.2))) := by
  induction points generalizing rows with
  | nil => rfl
  | cons p points ih =>
      obtain ⟨hMin, hMax⟩ := hRange p (List.mem_cons_self p points)
      simp only [List.map_cons, collectEntries, pointVal, entryDateTime, toMillis_int,
        toISOString_of_range hMin hMax, except_map_ok, except_ok_bind]
      exact ih _ fun q hq => hRange q (List.mem_cons_of_mem p hq)

/- `getSeriesLegendName` of a series object: its legend and its column. -/
def legendInfo (s : List (String × JsVal)) (j : Nat) : SeriesInfo :=
  ⟨(((((propValue s "formattedName").orElse (propValue s "legendName")).orElse
      (propValue s "displayName")).orElse (propValue s "legend")).orElse
        (propValue s "name")).orElse (.str ("Series " ++ toString (j + 1))),
    seriesColumn j⟩

theorem getSeriesLegendName_obj (s : List (String × JsVal)) (j : Nat) :
    getSeriesLegendName (.obj s) j = .ok (legendInfo s j) := rfl

/- Every point with its series index and its instant, in series then point order. -/
def seriesPoints (points : List (List (Int × JsVal))) : List (Nat × Int × JsVal) :=
  points.enum.flatMap fun jp => jp.2.map fun p => (jp.1, instantOf p.1, p.2)

/- The series loop over series objects whose `values` are arrays of entries. -/
theorem collectSeries_points
    {series : List (List (String × JsVal))}
    {points : List (List (Int × JsVal))}
    (hValues : List.Forall₂ (fun s pts => propValue s "values" = .arr (pts.map pointVal))
      series points)
    (hRange : ∀ pts ∈ points, ∀ p ∈ pts, isoMin ≤ instantOf p.1 ∧ instantOf p.1 ≤ isoMax)
    (i : Nat)
    (infos : List SeriesInfo)
    (rows : List (String × Props)) :
    collectSeries i (infos, rows) (series.map .obj) =
      .ok (infos ++ (series.enumFrom i).map (fun js => legendInfo js.2 js.1),
        writeAll rows ((points.enumFrom i).flatMap fun jp => jp.2.map fun p =>
          (isoString (instantOf p.1), seriesColumn jp.1, p.2))) := by
  induction hValues generalizing i infos rows with
  | nil => simp [collectSeries, writeAll]
  | @cons s pts series points hArr _ ih =>
      have hHead := collectEntries_points (seriesColumn i) rows
        (hRange pts (List.mem_cons_self pts points))
      simp only [List.map_cons, collectSeries, JsVal.truthy_obj, Bool.not_true, Bool.false_eq_true,
        if_false, JsVal.get_obj, hArr, except_ok_bind, getSeriesLegendName_obj]
      rw [show (legendInfo s i).columnName = seriesColumn i from rfl, hHead, except_ok_bind,
        ih (fun q hq => hRange q (List.mem_cons_of_mem pts hq))]
      simp [writeAll, List.enumFrom_cons, List.flatMap_cons, List.foldl_append]

theorem seriesWrites_points (points : List (List (Int × JsVal))) :
    ((points.enumFrom 0).flatMap fun jp => jp.2.map fun p =>
      (isoString (instantOf p.1), seriesColumn jp.1, p.2)) =
        pointWrites seriesColumn (seriesPoints points) := by
  simp [seriesPoints, pointWrites, List.map_flatMap, List.enum, Function.comp_def]

/- One data row of cells. -/
theorem timeRowLine_cells
    {columnNames : List String}
    (rows : List (String × Props))
    (dateTime : String)
    (hColumns : columnNames ≠ [])
    (hCells : ∀ c ∈ columnNames, ((cellOf rows dateTime c).getD .undefined).isCell = true) :
    timeRowLine columnNames rows dateTime =
      .ok (",".intercalate (dateTime :: columnNames.map fun c =>
        cellText ((cellOf rows dateTime c).getD .undefined)) ++ "\n") := by
  have hJoin := JsVal.join_cells "," (l := columnNames.map fun c =>
    ((cellOf rows dateTime c).getD .undefined).ifNullish (.str ""))
    (List.forall_mem_map.2 fun c hc => JsVal.isCell_ifNullish (hCells c hc))
  rw [Csv.intercalate_comma_cons _ (by simpa using hColumns)]
  unfold cellOf at hJoin
  simp [timeRowLine, hJoin, List.map_map, Function.comp_def, cellOf, String.append_assoc]

/- The row of an instant: its text, then each series' last value there. -/
theorem timeRowLine_points
    {points : List (List (Int × JsVal))}
    (hPoints : TimePoints (seriesPoints points))
    {n : Nat}
    (hn : n ≠ 0)
    {t : Int}
    (ht : t ∈ instants (seriesPoints points)) :
    timeRowLine ((List.range n).map seriesColumn)
        (writeAll [] (pointWrites seriesColumn (seriesPoints points))) (isoString t) =
      .ok (",".intercalate (isoString t :: (List.range n).map fun j =>
        cellText (lastValue (seriesPoints points) j t)) ++ "\n") := by
  have hCell := cellOf_pointWrites seriesColumn_injective hPoints ht
  rw [timeRowLine_cells _ _ (by simpa using hn) fun c hc => ?_]
  · simp [Function.comp_def, hCell]
  · obtain ⟨j, _, rfl⟩ := List.mem_map.1 hc
    rw [hCell]
    exact isCell_lastValue hPoints j t

/- A legend line is one comment line when its legend text has no line break. -/
theorem legendLine_comment
    {info : SeriesInfo}
    (hColumn : '\n' ∉ info.columnName.data ∧ '\r' ∉ info.columnName.data)
    (hLegend : LineFreeCell info.legendName) :
    ∃ line, legendLine info = .ok line ∧ Csv.CommentLine line.data := by
  obtain ⟨text, hText, hLF, hCR⟩ := JsVal.toStr_lineFree hLegend
  refine ⟨"# " ++ info.columnName ++ ": " ++ text ++ "\n", by simp [legendLine, hText],
    ' ' :: (info.columnName ++ ": " ++ text).data, by simp, ?_, ?_⟩ <;> simp_all

end Enhanced

/-
  The enhanced time series law: after its comment lines, a
  `DateTime` header and one column per series, then the records of
  the series' points.
-/
def EnhancedTimeSeriesReads : Prop :=
  ∀ (data : JsVal) (title : String) (series : List (List (String × JsVal)))
    (points : List (List (Int × JsVal))),
    data.get "series" = .ok (.arr (series.map .obj)) →
    series ≠ [] →
    List.Forall₂ (fun s pts => propValue s "values" = .arr (pts.map pointVal)) series points →
    (∀ pts ∈ points, ∀ p ∈ pts, isoMin ≤ Enhanced.instantOf p.1 ∧
      Enhanced.instantOf p.1 ≤ isoMax ∧ p.2.isNumberOrNull = true) →
    (∀ s ∈ series, ∀ j, LineFreeCell (Enhanced.legendInfo s j).legendName) →
    ∃ text, Enhanced.exportTimeSeriesData data title = .ok text ∧
      Csv.read (Csv.dropComments text.data) =
        ("DateTime" :: (List.range series.length).map Enhanced.seriesColumn) ::
          timeRecords (Enhanced.seriesPoints points) (List.range series.length)

namespace Enhanced

theorem exportTimeSeriesData_reads : EnhancedTimeSeriesReads := by
  intro data title series points hSeriesArr hSeries hValues hPoints hLegends
  have hTime : TimePoints (seriesPoints points) := by
    intro p hp
    simp only [seriesPoints, List.mem_flatMap, List.mem_map] at hp
    obtain ⟨jp, hjp, q, hq, rfl⟩ := hp
    exact hPoints jp.2 (List.snd_mem_of_mem_enum hjp) q hq
  let infos := series.enum.map fun js => legendInfo js.2 js.1
  let columns := (List.range series.length).map seriesColumn
  let rows := writeAll [] (pointWrites seriesColumn (seriesPoints points))
  let records := timeRecords (seriesPoints points) (List.range series.length)
  obtain ⟨s0, rest, hCons⟩ := List.exists_cons_of_ne_nil hSeries
  have hCollect : collectSeries 0 ([], []) (.obj s0 :: rest.map .obj) = .ok (infos, rows) := by
    rw [← List.map_cons, ← hCons, collectSeries_points hValues
      (fun pts hPts p hp => ⟨(hPoints pts hPts p hp).1, (hPoints pts hPts p hp).2.1⟩),
      seriesWrites_points]
    rfl
  have hColumns : infos.map (·.columnName) = columns := by
    simp only [infos, columns, List.map_map, ← List.enum_map_fst]
    rfl
  obtain ⟨legend, hLegend, hLegendComments⟩ := except_mapM_forall (f := legendLine) (l := infos)
    (P := fun line => Csv.CommentLine line.data) (by
      intro info hInfo
      obtain ⟨js, hjs, rfl⟩ := List.mem_map.1 hInfo
      have hDigits := Csv.lineFree_of_plain (Csv.plain_natText (js.1 + 1))
      exact legendLine_comment (by simp_all [legendInfo, seriesColumn])
        (hLegends _ (List.snd_mem_of_mem_enum hjs) _))
  have hBody := mapM_rowLines (timeRowLine columns rows) (List.range series.length)
    fun t ht => timeRowLine_points hTime (by simpa using hSeries) ht
  refine ⟨"# Legend Information:\n" ++ String.join legend ++ "#\n" ++
    Csv.document (("DateTime" :: columns) :: records), ?_, ?_⟩
  · have hArr := hSeriesArr
    rw [hCons, List.map_cons] at hArr
    simp only [exportTimeSeriesData, hArr, except_ok_bind, hCollect, hLegend, hColumns,
      keys_pointWrites seriesColumn hTime, hBody]
    rw [Csv.document_cons, Csv.intercalate_comma_cons _ (by simpa [columns] using hSeries)]
    simp only [Csv.document, String.append_assoc]
    rfl
  · have hSplit : ("# Legend Information:\n" ++ String.join legend ++ "#\n" ++
        Csv.document (("DateTime" :: columns) :: records)).data =
        ((["# Legend Information:\n"] ++ legend ++ ["#\n"]).map String.data).flatten ++
          (Csv.document (("DateTime" :: columns) :: records)).data := by
      simp
    rw [hSplit, Csv.dropComments_append ?_ (Csv.document_head (by decide))]
    · refine read_timeDocument hTime _ (List.cons_ne_nil _ _) fun f hf => ?_
      rcases List.mem_cons.1 hf with rfl | hColumn
      · rfl
      · obtain ⟨j, _, rfl⟩ := List.mem_map.1 hColumn
        simp [seriesColumn, Csv.plain_natText]
    · intro line hLine
      simp only [List.mem_map, List.mem_append, List.mem_singleton] at hLine
      obtain ⟨text, hText, rfl⟩ := hLine
      rcases hText with (rfl | hText) | rfl
      · exact .inr ⟨" Legend Information:".data, rfl, by decide, by decide⟩
      · exact .inr (hLegendComments text hText)
      · exact .inr ⟨[], rfl, by simp, by simp⟩

end Enhanced

------------------------------------------------------------
-- Stashed Series
------------------------------------------------------------

namespace Stashed

/- The series the loop exports: those whose name is not empty. -/
def keptSeries (named : List (String × List (Int × JsVal))) : List (String × List (Int × JsVal)) :=
  named.filter fun np => np.1 != ""

/- The columns: the distinct names of the exported series, first seen first. -/
def seriesColumns (named : List (String × List (Int × JsVal))) : List String :=
  ((keptSeries named).map (·.1)).eraseDups

/- Every point of an exported series, with its series' name. -/
def namedPoints (named : List (String × List (Int × JsVal))) : List (String × Int × JsVal) :=
  (keptSeries named).flatMap fun np => np.2.map fun p => (np.1, p.1, p.2)

/- The writes of a named series' entries into its column. -/
theorem collectNamedEntries_points
    (name : String)
    (rows : List (String × Props))
    {points : List (Int × JsVal)}
    (hRange : ∀ p ∈ points, isoMin ≤ p.1 ∧ p.1 ≤ isoMax) :
    collectNamedEntries (.str name) rows (points.map pointVal) =
      .ok (writeAll rows (points.map fun p => (isoString p.1, name, p.2))) := by
  induction points generalizing rows with
  | nil => rfl
  | cons p points ih =>
      obtain ⟨hMin, hMax⟩ := hRange p (List.mem_cons_self p points)
      have hEntry : (pointVal p).get "0" = .ok (.num (.int p.1)) ∧ (pointVal p).get "1" = .ok p.2 :=
        ⟨rfl, rfl⟩
      simp only [List.map_cons, collectNamedEntries, hEntry.1, hEntry.2, except_ok_bind, dateValue,
        toISOString_of_range hMin hMax, JsVal.toStr]
      exact ih _ fun q hq => hRange q (List.mem_cons_of_mem p hq)

/- The series loop over series objects with a name and an array of entries. -/
theorem collectNamedSeries_points
    {series : List (List (String × JsVal))}
    {named : List (String × List (Int × JsVal))}
    (hSeries : List.Forall₂ (fun s np => propValue s "name" = .str np.1 ∧
      propValue s "values" = .arr (np.2.map pointVal)) series named)
    (hRange : ∀ np ∈ named, ∀ p ∈ np.2, isoMin ≤ p.1 ∧ p.1 ≤ isoMax)
    (names : List JsVal)
    (rows : List (String × Props)) :
    collectNamedSeries (names, rows) (series.map .obj) =
      .ok (names ++ (keptSeries named).map (fun np => .str np.1),
        writeAll rows (pointWrites id (namedPoints named))) := by
  induction hSeries generalizing names rows with
  | nil => simp [collectNamedSeries, keptSeries, namedPoints, pointWrites, writeAll]
  | @cons s np series named hFields _ ih =>
      have hRest := ih fun q hq => hRange q (List.mem_cons_of_mem np hq)
      have hName : (JsVal.obj s).getOpt "name" = .ok (.str np.1) := by
        simp [JsVal.getOpt, JsVal.isNullish, hFields.1]
      by_cases hEmpty : np.1 = ""
      · have hFalsy : (JsVal.str np.1).truthy = false := by rw [hEmpty]; rfl
        simp only [List.map_cons, collectNamedSeries, hName, except_ok_bind, hFalsy, Bool.not_false,
          if_true, bind_pure, hRest]
        simp [keptSeries, namedPoints, hEmpty]
      · have hTruthy : (JsVal.str np.1).truthy = true := by
          simpa using fun h => hEmpty ((String.isEmpty_iff _).1 h)
        simp only [List.map_cons, collectNamedSeries, hName, except_ok_bind, hTruthy, Bool.not_true,
          Bool.false_eq_true, if_false, except_pure, JsVal.get_obj, hFields.2,
          collectNamedEntries_points np.1 rows (hRange np (List.mem_cons_self np named)), hRest]
        simp [keptSeries, namedPoints, hEmpty, pointWrites, writeAll, List.foldl_append,
          Function.comp_def]

/- `[...new Set(names)]` of strings: the distinct names, first seen first. -/
theorem uniqueWithSource_texts (ns : List String) :
    (uniqueWithSource (ns.map .str)).map Prod.fst = ns.eraseDups.map .str := by
  have hKeys : ∀ v ∈ ns.map JsVal.str, v.isKey = true := by
    simp [JsVal.isKey]
  have hMembers : ∀ m ∈ uniqueWithSource (ns.map .str), m.1 = .str (cellText m.1) := by
    intro m hm
    rcases mem_uniqueFrom hm with h | h
    · simp at h
    · obtain ⟨n, _, hn⟩ := List.mem_map.1 h
      rw [← hn]
      rfl
  have hTexts : (uniqueWithSource (ns.map .str)).map (fun m => cellText m.1) = ns.eraseDups :=
    calc (uniqueWithSource (ns.map .str)).map (fun m => cellText m.1)
        _ = ((uniqueWithSource (ns.map .str)).map (·.1.labelKey)).map LabelKey.toText := by
          rw [List.map_map]
          exact List.map_congr_left fun m hm =>
            JsVal.cellText_label (JsVal.isLabel_of_isKey (uniqueWithSource_isKey hKeys m hm))
        _ = (ns.map LabelKey.text).eraseDups.map LabelKey.toText := by
          rw [uniqueWithSource_keys hKeys, List.map_map]
          rfl
        _ = ns.eraseDups := by
          rw [eraseDups_map LabelKey.text fun a _ b _ h => LabelKey.text.inj h, List.map_map]
          exact List.map_id _
  calc (uniqueWithSource (ns.map .str)).map Prod.fst
      _ = ((uniqueWithSource (ns.map .str)).map fun m => cellText m.1).map .str := by
        rw [List.map_map]
        exact List.map_congr_left hMembers
      _ = ns.eraseDups.map .str := by rw [hTexts]

/- `obj[name]` of an object, at a name no prototype member has. -/
theorem propValue_of_not_proto {props : Props} {name : String} (hName : name ∉ objectProtoNames) :
    propValue props name = (props.lookup name).getD .undefined := by
  simp [propValue, JsVal.inherited, JsVal.protoNames, hName]

/- One data row of cells, read at names no prototype member has. -/
theorem namedRowLine_cells
    {columns : List String}
    (rows : List (String × Props))
    (dateTime : String)
    (hColumns : columns ≠ [])
    (hNames : ∀ c ∈ columns, c ∉ objectProtoNames)
    (hCells : ∀ c ∈ columns, ((cellOf rows dateTime c).getD .undefined).isCell = true) :
    namedRowLine (columns.map .str) rows dateTime =
      .ok (",".intercalate (dateTime :: columns.map fun c =>
        cellText ((cellOf rows dateTime c).getD .undefined)) ++ "\n") := by
  have hJoin := JsVal.join_cells "," (l := columns.map fun c =>
    ((cellOf rows dateTime c).getD .undefined).ifNullish (.str ""))
    (List.forall_mem_map.2 fun c hc => JsVal.isCell_ifNullish (hCells c hc))
  simp only [namedRowLine]
  rw [except_mapM_map_eq_ok (h := fun c => ((cellOf rows dateTime c).getD .undefined).ifNullish
    (.str "")) fun c hc => by
      simp [JsVal.getComputed, JsVal.toStr, propValue_of_not_proto (hNames c hc), cellOf]]
  rw [Csv.intercalate_comma_cons _ (by simpa using hColumns)]
  simp [hJoin, List.map_map, Function.comp_def, String.append_assoc]

/- The row of an instant: its text, then each name's last value there. -/
theorem namedRowLine_points
    {named : List (String × List (Int × JsVal))}
    (hPoints : TimePoints (namedPoints named))
    {columns : List String}
    (hColumns : columns ≠ [])
    (hNames : ∀ c ∈ columns, c ∉ objectProtoNames)
    {t : Int}
    (ht : t ∈ instants (namedPoints named)) :
    namedRowLine (columns.map .str) (writeAll [] (pointWrites id (namedPoints named)))
        (isoString t) =
      .ok (",".intercalate (isoString t :: columns.map fun c =>
        cellText (lastValue (namedPoints named) c t)) ++ "\n") := by
  have hCell := cellOf_pointWrites (fun a b (h : id a = id b) => h) hPoints ht
  simp only [id] at hCell
  rw [namedRowLine_cells _ _ hColumns hNames fun c _ => by
    rw [hCell]; exact isCell_lastValue hPoints c t]
  simp [hCell]

end Stashed

/-
  The stashed time series law: a `DateTime` header and one column
  per distinct non-empty series name, then the records of the
  named series' points.
-/
def StashedTimeSeriesReads : Prop :=
  ∀ (data : JsVal) (series : List (List (String × JsVal)))
    (named : List (String × List (Int × JsVal))),
    data.truthy = true →
    data.get "series" = .ok (.arr (series.map .obj)) →
    List.Forall₂ (fun s np => propValue s "name" = .str np.1 ∧
      propValue s "values" = .arr (np.2.map pointVal)) series named →
    (∃ np ∈ named, np.1 ≠ "") →
    (∀ np ∈ named, np.1 = "" ∨ Csv.plain np.1.data = true ∧ np.1 ∉ objectProtoNames) →
    (∀ np ∈ named, ∀ p ∈ np.2, isoMin ≤ p.1 ∧ p.1 ≤ isoMax ∧ p.2.isNumberOrNull = true) →
    ∃ text, Stashed.exportTimeSeriesData data = .ok text ∧
      Csv.read text.data = ("DateTime" :: Stashed.seriesColumns named) ::
        timeRecords (Stashed.namedPoints named) (Stashed.seriesColumns named)

namespace Stashed

theorem exportTimeSeriesData_reads : StashedTimeSeriesReads := by
  intro data series named hTruthy hSeriesArr hNamed hSeries hNames hPoints
  have hTime : TimePoints (namedPoints named) := by
    intro p hp
    simp only [namedPoints, List.mem_flatMap, List.mem_map] at hp
    obtain ⟨np, hnp, q, hq, rfl⟩ := hp
    exact hPoints np (List.mem_of_mem_filter hnp) q hq
  have hKept : ∀ c ∈ seriesColumns named, c ≠ "" ∧ Csv.plain c.data = true ∧
      c ∉ objectProtoNames := by
    intro c hc
    obtain ⟨np, hnp, rfl⟩ := List.mem_map.1 (mem_eraseDups.1 hc)
    have hNonempty : np.1 ≠ "" := by simpa [keptSeries] using (List.mem_filter.1 hnp).2
    exact ⟨hNonempty, (hNames np (List.mem_of_mem_filter hnp)).resolve_left hNonempty⟩
  have hColumnsNe : seriesColumns named ≠ [] := by
    obtain ⟨np, hnp, hNonempty⟩ := hSeries
    exact List.ne_nil_of_mem (mem_eraseDups.2 (List.mem_map.2
      ⟨np, List.mem_filter.2 ⟨hnp, by simpa using hNonempty⟩, rfl⟩))
  obtain ⟨s0, rest, hCons⟩ : ∃ s0 rest, series = s0 :: rest := by
    cases hNamed with
    | nil => simp at hSeries
    | cons => exact ⟨_, _, rfl⟩
  let columns := seriesColumns named
  let rows := writeAll [] (pointWrites id (namedPoints named))
  let records := timeRecords (namedPoints named) columns
  have hCollect : collectNamedSeries ([], []) (.obj s0 :: rest.map .obj) =
      .ok ((keptSeries named).map (fun np => .str np.1), rows) := by
    rw [← List.map_cons, ← hCons, collectNamedSeries_points hNamed
      (fun np hnp p hp => ⟨(hPoints np hnp p hp).1, (hPoints np hnp p hp).2.1⟩)]
    rfl
  have hColumns : (uniqueWithSource ((keptSeries named).map fun np => .str np.1)).map Prod.fst =
      columns.map .str := by
    have hTexts := uniqueWithSource_texts ((keptSeries named).map (·.1))
    rw [List.map_map] at hTexts
    exact hTexts
  have hHeader : JsVal.join "," (columns.map .str) = .ok (",".intercalate columns) := by
    rw [JsVal.join_cells "," (by simp)]
    simp [List.map_map, Function.comp_def]
  have hBody := mapM_rowLines (namedRowLine (columns.map .str) rows) columns
    fun t ht => namedRowLine_points hTime hColumnsNe (fun c hc => (hKept c hc).2.2) ht
  refine ⟨Csv.document (("DateTime" :: columns) :: records), ?_, ?_⟩
  · have hArr := hSeriesArr
    rw [hCons, List.map_cons] at hArr
    simp only [exportTimeSeriesData, hTruthy, Bool.not_true, hArr, except_ok_bind, hCollect,
      hColumns, hHeader, keys_pointWrites id hTime, hBody]
    rw [Csv.document_cons, Csv.intercalate_comma_cons _ hColumnsNe]
    simp only [Csv.document, String.append_assoc]
    rfl
  · refine read_timeDocument hTime _ (List.cons_ne_nil _ _) fun f hf => ?_
    rcases List.mem_cons.1 hf with rfl | hColumn
    · rfl
    · exact (hKept f hColumn).2.1

end Stashed

------------------------------------------------------------
-- Time Series Exports
------------------------------------------------------------

/-
  Keys are sorted as strings: an instant in the year 10000 is
  written `+010000-...` and its row comes before 1970's.
-/
theorem year_ten_thousand_row_first :
    Enhanced.exportTimeSeriesData (.obj [("series", .arr [.obj [("values",
        .arr [pointVal (253402300800000, .num (.int 1)), pointVal (0, .num (.int 2))])]])]) "" =
      .ok ("# Legend Information:\n# Series_1: Series 1\n#\nDateTime,Series_1\n" ++
        "+010000-01-01T00:00:00.000Z,1\n1970-01-01T00:00:00.000Z,2\n") ∧
    Stashed.exportTimeSeriesData (.obj [("series", .arr [.obj [("name", .str "s"), ("values",
        .arr [pointVal (253402300800000, .num (.int 1)), pointVal (0, .num (.int 2))])]])]) =
      .ok "DateTime,s\n+010000-01-01T00:00:00.000Z,1\n1970-01-01T00:00:00.000Z,2\n" ∧
    Csv.read "DateTime,s\n+010000-01-01T00:00:00.000Z,1\n1970-01-01T00:00:00.000Z,2\n".data =
      [["DateTime", "s"], ["+010000-01-01T00:00:00.000Z", "1"], ["1970-01-01T00:00:00.000Z", "2"]] ∧
    toISOString (.int 253402300800000) = .ok "+010000-01-01T00:00:00.000Z" ∧
    toISOString (.int 0) = .ok "1970-01-01T00:00:00.000Z" :=
  ⟨rfl, rfl, rfl, rfl, rfl⟩

/-
  Both time series exports read back as the records of their
  points, one per instant, the instants strictly increasing.
-/
theorem time_series_exports_read_back :
    EnhancedTimeSeriesReads ∧ StashedTimeSeriesReads ∧
      ∀ {κ : Type} (points : List (κ × Int × JsVal)), (instants points).Sorted (· < ·) :=
  ⟨Enhanced.exportTimeSeriesData_reads, Stashed.exportTimeSeriesData_reads, sorted_instants⟩

/- Samples of both exporters, one value fractional, read back. -/
theorem time_series_exports_read_back_on_samples :
    (∃ text, Enhanced.exportTimeSeriesData (.obj [("series", .arr [.obj [("name", .str "cpu"),
        ("values", .arr [pointVal (1, .num (.round false 5 2)), pointVal (0, .null)])]])]) "t" = .ok text ∧
      Csv.read (Csv.dropComments text.data) = [["DateTime", "Series_1"],
        ["1970-01-01T00:00:00.000Z", ""], ["1970-01-01T00:00:01.000Z", "2.5"]]) ∧
    (∃ text, Stashed.exportTimeSeriesData (.obj [("series", .arr [
        .obj [("name", .str "a"), ("values", .arr [pointVal (1000, .num (.round false 5 2))])],
        .obj [("name", .str ""), ("values", .arr [pointVal (0, .num (.int 7))])],
        .obj [("name", .str "a"), ("values", .arr [pointVal (0, .num (.int 3))])]])]) = .ok text ∧
      Csv.read text.data = [["DateTime", "a"],
        ["1970-01-01T00:00:00.000Z", "3"], ["1970-01-01T00:00:01.000Z", "2.5"]]) :=
  ⟨time_series_exports_read_back.1 (.obj [("series", .arr [.obj [("name", .str "cpu"),
        ("values", .arr [pointVal (1, .num (.round false 5 2)), pointVal (0, .null)])]])]) "t"
      [[("name", .str "cpu"), ("values", .arr [pointVal (1, .num (.round false 5 2)), pointVal (0, .null)])]]
      [[(1, .num (.round false 5 2)), (0, .null)]] rfl (by simp) (.cons rfl .nil) (by decide)
      (by simp only [List.mem_singleton]; rintro s rfl j; change LineFreeCell (.str "cpu"); decide),
    time_series_exports_read_back.2.1 (.obj [("series", .arr [
        .obj [("name", .str "a"), ("values", .arr [pointVal (1000, .num (.round false 5 2))])],
        .obj [("name", .str ""), ("values", .arr [pointVal (0, .num (.int 7))])],
        .obj [("name", .str "a"), ("values", .arr [pointVal (0, .num (.int 3))])]])])
      [[("name", .str "a"), ("values", .arr [pointVal (1000, .num (.round false 5 2))])],
        [("name", .str ""), ("values", .arr [pointVal (0, .num (.int 7))])],
        [("name", .str "a"), ("values", .arr [pointVal (0, .num (.int 3))])]]
      [("a", [(1000, .num (.round false 5 2))]), ("", [(0, .num (.int 7))]), ("a", [(0, .num (.int 3))])]
      rfl rfl (.cons ⟨rfl, rfl⟩ (.cons ⟨rfl, rfl⟩ (.cons ⟨rfl, rfl⟩ .nil))) (by decide) (by decide)
      (by decide)⟩

------------------------------------------------------------
-- Two Exporters, One Table
------------------------------------------------------------

/- A list read at the indices below its length. -/
theorem map_getD_range {α : Type} (l : List α) (d : α) :
    (List.range l.length).map (fun j => l.getD j d) = l := by
  refine List.ext_getElem (by simp) fun j _ hj => ?_
  simp [List.getD_eq_getElem?_getD, List.getElem?_eq_getElem hj]

/-
  The enhanced points of named series, each index read as the name
  of its series, are the stashed points, when every timestamp is
  already in milliseconds.
-/
theorem flatMap_enumFrom_points
    (named : List (String × List (Int × JsVal)))
    (i : Nat)
    (f : Nat → String)
    (hf : ∀ j (hj : j < named.length), f (i + j) = named[j].1)
    (hMillis : ∀ np ∈ named, ∀ p ∈ np.2, Enhanced.instantOf p.1 = p.1) :
    (((named.map (·.2)).enumFrom i).flatMap fun jp =>
        jp.2.map fun p => (jp.1, Enhanced.instantOf p.1, p.2)).map (fun q => (f q.1, q.2)) =
      named.flatMap fun np => np.2.map fun p => (np.1, p.1, p.2) := by
  induction named generalizing i with
  | nil => rfl
  | cons np rest ih =>
      have hHead : f i = np.1 := by simpa using hf 0 (by simp)
      have hRest := ih (i + 1) (fun j hj => by
          simpa [Nat.add_assoc, Nat.add_comm 1 j] using hf (j + 1) (by simp; omega))
        fun q hq => hMillis q (List.mem_cons_of_mem np hq)
      simp only [List.map_cons, List.enumFrom_cons, List.flatMap_cons, List.map_append, hRest]
      congr 1
      rw [List.map_map]
      refine List.map_congr_left fun p hp => ?_
      simp [hHead, hMillis np (List.mem_cons_self np rest) p hp]

/- The series index of an enhanced point is below the number of series. -/
theorem index_lt_of_mem_seriesPoints {points : List (List (Int × JsVal))} {q : Nat × Int × JsVal}
    (hq : q ∈ Enhanced.seriesPoints points) : q.1 < points.length := by
  simp only [Enhanced.seriesPoints, List.mem_flatMap, List.mem_map] at hq
  obtain ⟨jp, hjp, p, -, rfl⟩ := hq
  exact List.fst_lt_of_mem_enum hjp

/- With distinct names, none of them empty, the stashed columns are the names. -/
theorem seriesColumns_of_nodup {named : List (String × List (Int × JsVal))}
    (hDistinct : (named.map (·.1)).Nodup) (hNonempty : ∀ np ∈ named, np.1 ≠ "") :
    Stashed.seriesColumns named = named.map (·.1) := by
  have hKept : Stashed.keptSeries named = named :=
    List.filter_eq_self.2 fun np hnp => by simpa using hNonempty np hnp
  rw [Stashed.seriesColumns, hKept, eraseDups_of_nodup hDistinct]

/-
  With distinct non-empty names and every timestamp in milliseconds,
  the stashed table of the named series is the enhanced table of
  their points, with each series index read as the series' name.
-/
theorem namedRecords_eq_seriesRecords {named : List (String × List (Int × JsVal))}
    (hDistinct : (named.map (·.1)).Nodup) (hNonempty : ∀ np ∈ named, np.1 ≠ "")
    (hMillis : ∀ np ∈ named, ∀ p ∈ np.2, Enhanced.instantOf p.1 = p.1) :
    timeRecords (Stashed.namedPoints named) (Stashed.seriesColumns named) =
      timeRecords (Enhanced.seriesPoints (named.map (·.2))) (List.range named.length) := by
  have hKept : Stashed.keptSeries named = named :=
    List.filter_eq_self.2 fun np hnp => by simpa using hNonempty np hnp
  let name : Nat → String := fun j => (named.map (·.1)).getD j ""
  have hRename := flatMap_enumFrom_points named 0 name
    (fun j hj => by simp [name, List.getD_eq_getElem?_getD, hj]) hMillis
  have hNameList : named.map (·.1) = (List.range named.length).map name := by
    simpa [name] using (map_getD_range (named.map (·.1)) "").symm
  rw [seriesColumns_of_nodup hDistinct hNonempty, Stashed.namedPoints, hKept, ← hRename, hNameList]
  refine timeRecords_map_column name fun k hk q hq hEq => ?_
  have hq' := index_lt_of_mem_seriesPoints hq
  rw [List.length_map] at hq'
  rw [List.mem_range] at hk
  exact (@List.Nodup.getElem_inj_iff _ _ hDistinct q.1 (by simpa using hq') k
    (by simpa using hk)).1 (by simpa [name, List.getD_eq_getElem?_getD, hq', hk] using hEq)

/-
  The two time-series exporters on one payload of named series:
  both return, and read back as the enhanced table of the series'
  points, under `Series_k` and under the names.
-/
theorem exportTimeSeriesData_named_reads
    {data : JsVal}
    {title : String}
    {series : List (List (String × JsVal))}
    {named : List (String × List (Int × JsVal))}
    (hTruthy : data.truthy = true)
    (hSeriesArr : data.get "series" = .ok (.arr (series.map .obj)))
    (hSeries : series ≠ [])
    (hNamed : List.Forall₂ (fun s np => propValue s "name" = .str np.1 ∧
      propValue s "values" = .arr (np.2.map pointVal)) series named)
    (hDistinct : (named.map (·.1)).Nodup)
    (hNames : ∀ np ∈ named, np.1 ≠ "" ∧ Csv.plain np.1.data = true ∧ np.1 ∉ objectProtoNames)
    (hPoints : ∀ np ∈ named, ∀ p ∈ np.2,
      10000000000 < p.1 ∧ p.1 ≤ isoMax ∧ p.2.isNumberOrNull = true)
    (hLegends : ∀ s ∈ series, ∀ j, LineFreeCell (Enhanced.legendInfo s j).legendName) :
    ∃ enhanced stashed,
      Enhanced.exportTimeSeriesData data title = .ok enhanced ∧
        Stashed.exportTimeSeriesData data = .ok stashed ∧
        Csv.read (Csv.dropComments enhanced.data) =
          ("DateTime" :: (List.range series.length).map Enhanced.seriesColumn) ::
            timeRecords (Enhanced.seriesPoints (named.map (·.2))) (List.range series.length) ∧
        Csv.read stashed.data = ("DateTime" :: named.map (·.1)) ::
            timeRecords (Enhanced.seriesPoints (named.map (·.2))) (List.range series.length) := by
  have hMillis : ∀ np ∈ named, ∀ p ∈ np.2, Enhanced.instantOf p.1 = p.1 := fun np hnp p hp =>
    if_pos (hPoints np hnp p hp).1
  have hLength : series.length = named.length := hNamed.length_eq
  have hNamesNonempty : ∀ np ∈ named, np.1 ≠ "" := fun np hnp => (hNames np hnp).1
  obtain ⟨enhanced, hEnhanced, hEnhancedReads⟩ := Enhanced.exportTimeSeriesData_reads data title
    series (named.map (·.2)) hSeriesArr hSeries
    (List.forall₂_map_right_iff.2 (hNamed.imp fun _ _ h => h.2))
    (by
      simp only [List.mem_map]
      rintro _ ⟨np, hnp, rfl⟩ p hp
      have hP := hPoints np hnp p hp
      rw [hMillis np hnp p hp]
      exact ⟨by unfold isoMin; omega, hP.2.1, hP.2.2⟩)
    hLegends
  have hNonempty : ∃ np ∈ named, np.1 ≠ "" := by
    obtain ⟨np, hnp⟩ := List.exists_mem_of_ne_nil named (by
      intro h; rw [h] at hLength; exact hSeries (List.length_eq_zero.1 hLength))
    exact ⟨np, hnp, hNamesNonempty np hnp⟩
  obtain ⟨stashed, hStashed, hStashedReads⟩ := Stashed.exportTimeSeriesData_reads data series named
    hTruthy hSeriesArr hNamed hNonempty (fun np hnp => .inr (hNames np hnp).2)
    (fun np hnp p hp => ⟨by have := (hPoints np hnp p hp).1; unfold isoMin; omega,
      (hPoints np hnp p hp).2⟩)
  refine ⟨enhanced, stashed, hEnhanced, hStashed, hEnhancedReads, ?_⟩
  rw [hStashedReads, namedRecords_eq_seriesRecords hDistinct hNamesNonempty hMillis, hLength,
    seriesColumns_of_nodup hDistinct hNamesNonempty]

/-
  The two time-series exporters on one payload.  When the series
  have distinct, non-empty names that need no quotes and every
  timestamp is in milliseconds (above `1e10`, where the enhanced
  exporter does not scale it), the enhanced export after its
  comment lines and the stashed export read back as the same
  records, under the headers `Series_k` and the names.
-/
theorem time_series_exporters_agree
    (data : JsVal)
    (title : String)
    (series : List (List (String × JsVal)))
    (named : List (String × List (Int × JsVal)))
    (hTruthy : data.truthy = true)
    (hSeriesArr : data.get "series" = .ok (.arr (series.map .obj)))
    (hSeries : series ≠ [])
    (hNamed : List.Forall₂ (fun s np => propValue s "name" = .str np.1 ∧
      propValue s "values" = .arr (np.2.map pointVal)) series named)
    (hDistinct : (named.map (·.1)).Nodup)
    (hNames : ∀ np ∈ named, np.1 ≠ "" ∧ Csv.plain np.1.data = true ∧ np.1 ∉ objectProtoNames)
    (hPoints : ∀ np ∈ named, ∀ p ∈ np.2,
      10000000000 < p.1 ∧ p.1 ≤ isoMax ∧ p.2.isNumberOrNull = true)
    (hLegends : ∀ s ∈ series, ∀ j, LineFreeCell (Enhanced.legendInfo s j).legendName) :
    ∃ enhanced stashed records,
      Enhanced.exportTimeSeriesData data title = .ok enhanced ∧
        Stashed.exportTimeSeriesData data = .ok stashed ∧
        Csv.read (Csv.dropComments enhanced.data) =
          ("DateTime" :: (List.range series.length).map Enhanced.seriesColumn) :: records ∧
        Csv.read stashed.data = ("DateTime" :: named.map (·.1)) :: records := by
  obtain ⟨enhanced, stashed, hEnhanced, hStashed, hEnhancedReads, hStashedReads⟩ :=
    exportTimeSeriesData_named_reads hTruthy hSeriesArr hSeries hNamed hDistinct hNames hPoints
      hLegends
  exact ⟨enhanced, stashed, _, hEnhanced, hStashed, hEnhancedReads, hStashedReads⟩

/- Two named series in milliseconds, one with a fractional value, under both exporters. -/
theorem time_series_exporters_agree_on_sample :
    ∃ enhanced stashed records,
      Enhanced.exportTimeSeriesData (.obj [("series", .arr [
          .obj [("name", .str "a"), ("values", .arr [pointVal (20000000000, .num (.round false 5 2))])],
          .obj [("name", .str "b"), ("values", .arr [pointVal (20000000000, .null)])]])]) "t" =
          .ok enhanced ∧
        Stashed.exportTimeSeriesData (.obj [("series", .arr [
          .obj [("name", .str "a"), ("values", .arr [pointVal (20000000000, .num (.round false 5 2))])],
          .obj [("name", .str "b"), ("values", .arr [pointVal (20000000000, .null)])]])]) =
          .ok stashed ∧
        Csv.read (Csv.dropComments enhanced.data) = ["DateTime", "Series_1", "Series_2"] :: records ∧
        Csv.read stashed.data = ["DateTime", "a", "b"] :: records :=
  time_series_exporters_agree _ "t"
    [[("name", .str "a"), ("values", .arr [pointVal (20000000000, .num (.round false 5 2))])],
      [("name", .str "b"), ("values", .arr [pointVal (20000000000, .null)])]]
    [("a", [(20000000000, .num (.round false 5 2))]), ("b", [(20000000000, .null)])]
    rfl rfl (by simp) (.cons ⟨rfl, rfl⟩ (.cons ⟨rfl, rfl⟩ .nil)) (by decide) (by decide)
    (by decide)
    (by
      simp only [List.mem_cons, List.mem_singleton, List.not_mem_nil, or_false]
      rintro s (rfl | rfl) j
      · change LineFreeCell (.str "a"); decide
      · change LineFreeCell (.str "b"); decide)

------------------------------------------------------------
-- Skipped Series
------------------------------------------------------------

namespace Enhanced

/- `series && Array.isArray(series.values)`: the series loop exports this series. -/
def hasValuesArray (series : JsVal) : Bool :=
  series.truthy && match series.get "values" with
    | .ok (.arr _) => true
    | _ => false

/- Whatever legend a series gets, its column is `Series_k` for its position. -/
theorem getSeriesLegendName_columnName {series : JsVal} {i : Nat} {info : SeriesInfo}
    (hInfo : getSeriesLegendName series i = .ok info) : info.columnName = seriesColumn i := by
  simp only [getSeriesLegendName, except_bind_eq_ok] at hInfo
  obtain ⟨_, _, _, _, _, _, _, _, _, _, hPure⟩ := hInfo
  cases hPure
  rfl

/-
  The series loop records one column per series with a `values`
  array, named by the series' own position: skipped series keep
  their numbers.
-/
theorem collectSeries_columns
    {i : Nat}
    {infos infos' : List SeriesInfo}
    {rows rows' : TimeRows}
    {series : List JsVal}
    (hRun : collectSeries i (infos, rows) series = .ok (infos', rows')) :
    infos'.map (·.columnName) = infos.map (·.columnName) ++
      ((series.enumFrom i).filter fun p => hasValuesArray p.2).map fun p => seriesColumn p.1 := by
  induction series generalizing i infos rows with
  | nil =>
      cases hRun
      simp
  | cons s series ih =>
      simp only [collectSeries] at hRun
      by_cases hTruthy : s.truthy = true
      · simp only [hTruthy, Bool.not_true, Bool.false_eq_true, if_false] at hRun
        cases hValues : s.get "values" with
        | error e => simp [hValues] at hRun
        | ok values =>
            simp only [hValues, except_ok_bind] at hRun
            cases values with
            | arr entries =>
                obtain ⟨info, hInfo, hRest⟩ := except_bind_eq_ok.1 hRun
                obtain ⟨rows2, -, hRest⟩ := except_bind_eq_ok.1 hRest
                have hKept : hasValuesArray s = true := by simp [hasValuesArray, hTruthy, hValues]
                simp [ih hRest, List.enumFrom_cons, hKept, getSeriesLegendName_columnName hInfo]
            | _ =>
                have hSkip : hasValuesArray s = false := by simp [hasValuesArray, hValues]
                simp [ih hRun, List.enumFrom_cons, hSkip]
      · have hSkip : hasValuesArray s = false := by simp [hasValuesArray, hTruthy]
        simp only [Bool.not_eq_true] at hTruthy
        simp only [hTruthy, Bool.not_false, if_true] at hRun
        simp [ih hRun, List.enumFrom_cons, hSkip]

end Enhanced

/-
  Whatever the series array holds, whenever the enhanced time
  series export succeeds its header names `Series_k` exactly the
  series at the positions `k - 1` that are truthy with a `values`
  array, in order: a skipped series leaves its number unused, so
  the columns need not be `Series_1` to `Series_n`.
-/
theorem series_columns_keep_positions
    (data : JsVal)
    (title text : String)
    (series : List JsVal)
    (hSeries : data.get "series" = .ok (.arr series))
    (hNonempty : series ≠ [])
    (hExport : Enhanced.exportTimeSeriesData data title = .ok text) :
    ∃ legend body, text = "# Legend Information:\n" ++ legend ++ "#\n" ++ "DateTime," ++
      ",".intercalate ((series.enum.filter fun p => Enhanced.hasValuesArray p.2).map
        fun p => Enhanced.seriesColumn p.1) ++ "\n" ++ body := by
  obtain ⟨s, rest, rfl⟩ := List.exists_cons_of_ne_nil hNonempty
  simp only [Enhanced.exportTimeSeriesData, hSeries, except_ok_bind] at hExport
  obtain ⟨⟨infos, rows⟩, hRun, hRest⟩ := except_bind_eq_ok.1 hExport
  obtain ⟨legend, -, hRest⟩ := except_bind_eq_ok.1 hRest
  obtain ⟨body, -, hPure⟩ := except_bind_eq_ok.1 hRest
  cases hPure
  have hColumns := Enhanced.collectSeries_columns hRun
  rw [List.map_nil, List.nil_append] at hColumns
  exact ⟨_, _, by rw [hColumns]; rfl⟩

/- A `null` between two series: the columns are `Series_1` and `Series_3`. -/
theorem series_columns_keep_positions_on_sample :
    ∃ legend body, "# Legend Information:\n# Series_1: a\n# Series_3: c\n#\nDateTime,Series_1,Series_3\n" =
      "# Legend Information:\n" ++ legend ++ "#\n" ++ "DateTime," ++
        ",".intercalate (([.obj [("name", .str "a"), ("values", .arr [])], .null,
          .obj [("name", .str "c"), ("values", .arr [])]].enum.filter
            fun p => Enhanced.hasValuesArray p.2).map fun p => Enhanced.seriesColumn p.1) ++ "\n" ++ body :=
  series_columns_keep_positions (.obj [("series", .arr [.obj [("name", .str "a"), ("values", .arr [])],
    .null, .obj [("name", .str "c"), ("values", .arr [])]])]) "cpu" _ _ rfl (by simp) rfl

end PanelExport
