import PanelExport.Panel.Header

/-
  Which exporter each pipeline runs on a payload.

  Both pipelines test for a `series` array before anything else:
  `extractDataForExport` tags every object with one as time
  series, and the stashed handler's dispatch sends it to the time
  series exporter, so a bar chart, whose `series` is an array too,
  never reaches a bar chart exporter.  The stashed handler also
  unwraps the `data` of any object that has one, which turns the
  flattened bar chart `{data: [...]}` into its bare tuple array.
  The enhanced conversion of `datasets` points picks fields with
  `||`, which passes over a time or a value of `0`.

  Main declarations:
    * `extractDataForExport_series_array`
    * `Stashed.exportSelected_series_array`
    * `bar_chart_exported_as_time_series`
    * `Stashed.selectData_obj_data`
    * `flattened_bar_chart_exports_nothing`
    * `Enhanced.convertPoint_zero_value`
    * `zero_point_value_exported_empty`
-/

------------------------------------------------------------
-- Series Arrays Come First
------------------------------------------------------------

namespace PanelExport

section SeriesArray

variable {props : List (String × JsVal)} {items : List JsVal}

/- Results without truthy `data` are passed over by the extraction. -/
theorem extractDataForExport_skips_empty
    (skipped rest : List QueryData)
    (hEmpty : ∀ q ∈ skipped, q.data.truthy = false) :
    extractDataForExport (skipped ++ rest) = extractDataForExport rest := by
  induction skipped with
  | nil => rfl
  | cons q skipped ih =>
      have hRest : ∀ q ∈ skipped, q.data.truthy = false :=
        fun q' hMem => hEmpty q' (List.mem_cons_of_mem q hMem)
      simp [extractDataForExport, hEmpty q (List.mem_cons_self q skipped), ih hRest]

/- The first probe accepts every object with a `series` array. -/
theorem Enhanced.probe_series_array
    (hSeries : props.lookup "series" = some (.arr items)) :
    Enhanced.probe (.obj props) = .ok (some (.obj props, .timeseries)) := by
  simp [Enhanced.probe, JsVal.has_obj_of_lookup hSeries,
    JsVal.get_obj_of_lookup hSeries, JsVal.isArray]

/-
  The enhanced extraction returns the first object with a
  `series` array tagged as time series, whatever else it holds.
-/
theorem extractDataForExport_series_array
    (skipped rest : List QueryData)
    (hEmpty : ∀ q ∈ skipped, q.data.truthy = false)
    (query : QueryData)
    (hData : query.data = .obj props)
    (hSeries : props.lookup "series" = some (.arr items)) :
    extractDataForExport (skipped ++ query :: rest) =
      .ok (.obj props, .timeseries) := by
  rw [extractDataForExport_skips_empty skipped _ hEmpty]
  simp [extractDataForExport, hData, Enhanced.probe_series_array hSeries]

/-
  The stashed dispatch runs the time series exporter on every
  object with a `series` array.
-/
theorem Stashed.exportSelected_series_array
    (hSeries : props.lookup "series" = some (.arr items)) :
    Stashed.exportSelected (.obj props) =
      Stashed.exportTimeSeriesData (.obj props) := by
  have hGuard : Stashed.isTimeSeriesData (.obj props) = .ok true := by
    simp [Stashed.isTimeSeriesData, Stashed.isObjectValue, JsVal.typeOf,
      JsVal.has_obj_of_lookup hSeries, JsVal.get_obj_of_lookup hSeries,
      JsVal.isArray]
  simp [Stashed.exportSelected, hGuard]

end SeriesArray

/-
  A well-formed bar chart is tagged and exported as time series by
  the enhanced header, although `detectDataType` calls it a bar
  chart and the bar chart exporter writes its row.  The stashed
  header of a bar panel raises before it renders; the stashed
  handler, on the payload it means to forward or on the results
  themselves, also runs the time series exporter, as its dispatch
  does on every object with a `series` array.
-/
theorem bar_chart_exported_as_time_series :
    let chart : JsVal := .obj [("categories", .arr [.str "a"]),
      ("series", .arr [.obj [("name", .str "s"), ("data", .arr [.int 1])]])]
    let query : QueryData := ⟨chart, false, .undefined⟩
    extractDataForExport [query] = .ok (chart, .timeseries) ∧
      detectDataType chart = .ok .barchart ∧
      Enhanced.exportBarChartData chart "t" = .ok ("# Axis Information:\n" ++
        "# Series Information:\n# Series_1: s\n#\nCategory,Series_1\na,1\n") ∧
      enhancedHeaderExport "t" none [query] 0 = .ok (.download
        "t_timeseries_data.csv" ("# Chart: t\n# Data Type: timeseries\n" ++
          "# Exported: 1970-01-01T00:00:00.000Z\n" ++
          "# Legend Information:\n#\nDateTime,\n")) ∧
      stashedPanelHeader .bar [query] = .error .referenceError ∧
      stashedHeaderExport "t" .bar [query] =
        .ok (.download "t_barData.csv" "DateTime,\n") ∧
      listHeaderExport "t" .bar [query] =
        .ok (.download "t_barData.csv" "DateTime,\n") ∧
      ∀ (props : List (String × JsVal)) items, props.lookup "series" = some (.arr items) →
        Stashed.exportSelected (.obj props) = Stashed.exportTimeSeriesData (.obj props) :=
  ⟨rfl, rfl, rfl, rfl, rfl, rfl, rfl, fun _ _ => Stashed.exportSelected_series_array⟩

------------------------------------------------------------
-- The Single QueryData Unwrap
------------------------------------------------------------

/-
  The stashed handler exports the `data` of every object payload
  that has one, never the payload itself.
-/
theorem Stashed.selectData_obj_data
    {props : List (String × JsVal)}
    {data : JsVal}
    (hData : props.lookup "data" = some data) :
    Stashed.selectData (.obj props) = .ok data := by
  simp [Stashed.selectData, Stashed.isObjectValue, JsVal.typeOf,
    JsVal.has_obj_of_lookup hData, JsVal.get_obj_of_lookup hData]

/-
  A flattened bar chart is accepted by `isBarChartData` and has a
  non-empty export, yet the stashed handler exports nothing for it,
  on the payload the stashed header means to forward or on the
  results, since it descends into the `data` of every object that
  has one; the stashed header itself raises before it renders.
-/
theorem flattened_bar_chart_exports_nothing :
    let chart : JsVal :=
      .obj [("data", .arr [.obj [("category", .str "a"), ("value", .int 1)]])]
    let query : QueryData := ⟨chart, false, .undefined⟩
    Stashed.isBarChartData chart = .ok true ∧
      Stashed.exportBarChartData chart = .ok "Category,Value\na,1\n" ∧
      stashedPanelHeader .bar [query] = .error .referenceError ∧
      stashedHeaderExport "t" .bar [query] = .ok .nothing ∧
      listHeaderExport "t" .bar [query] = .ok .nothing ∧
      ∀ (props : List (String × JsVal)) data, props.lookup "data" = some data →
        Stashed.selectData (.obj props) = .ok data :=
  ⟨rfl, rfl, rfl, rfl, rfl, fun _ _ => Stashed.selectData_obj_data⟩

------------------------------------------------------------
-- Zero Fields of Dataset Points
------------------------------------------------------------

/-
  An object point whose `y` is `0`, with no `value`, converts to a
  pair whose value is `undefined`.
-/
theorem Enhanced.convertPoint_zero_value
    (index : Nat)
    {props : List (String × JsVal)}
    (hY : props.lookup "y" = some (.int 0))
    (hValue : props.lookup "value" = none) :
    ∃ time, Enhanced.convertPoint index (.obj props) =
      .ok (.arr [time, .undefined]) := by
  simp [Enhanced.convertPoint, JsVal.typeOf, JsVal.get, hY, hValue,
    JsVal.orElse, JsVal.int, JsVal.truthy, JsVal.inherited, JsVal.protoNames,
    objectProtoNames]

/-
  A dataset point with value `0` is converted to an `undefined`
  value and exported as an empty cell; so is every object point
  whose `y` is `0` and that has no `value`.
-/
theorem zero_point_value_exported_empty :
    let dataset : JsVal := .obj [("data", .arr [.obj [("x", .int 1), ("y", .int 0)]])]
    let query : QueryData := ⟨.obj [("datasets", .arr [dataset])], false, .undefined⟩
    extractDataForExport [query] = .ok (.obj [("series", .arr [.obj [
        ("name", .str "Series"), ("displayName", .str "Series"),
        ("values", .arr [.arr [.int 1, .undefined]])]])], .timeseries) ∧
      enhancedHeaderExport "t" none [query] 0 = .ok (.download
        "t_timeseries_data.csv" ("# Chart: t\n# Data Type: timeseries\n" ++
          "# Exported: 1970-01-01T00:00:00.000Z\n" ++
          "# Legend Information:\n# Series_1: Series\n#\n" ++
          "DateTime,Series_1\n1970-01-01T00:00:01.000Z,\n")) ∧
      ∀ index (props : List (String × JsVal)), props.lookup "y" = some (.int 0) →
        props.lookup "value" = none →
          ∃ time, Enhanced.convertPoint index (.obj props) = .ok (.arr [time, .undefined]) :=
  ⟨rfl, rfl, fun index _ => Enhanced.convertPoint_zero_value index⟩

end PanelExport
