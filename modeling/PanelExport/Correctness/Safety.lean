import PanelExport.Panel.Header

/-
  Which steps of the export pipelines can raise.

  The stashed type guards test `typeof data === 'object'` before
  any `in`, so they return on every value, and so does the stashed
  `dataForExport`, though the stashed header that runs it raises a
  `ReferenceError` first.  The stashed
  handler wraps its whole body in `try`/`catch`, so clicking it
  never raises; only an unbounded loop keeps it from returning.
  The enhanced classifier applies `in` to whatever truthy data it
  meets, and the enhanced handler has no `catch`.

  Main declarations:
    * `Stashed.isExportable_returns`, `Stashed.dataForExport_returns`
    * `Stashed.csvExportHandler_raises_nothing`
    * `header_render_raises_on_text_and_null_data`
    * `enhanced_export_raises_on_far_timestamp`
-/

------------------------------------------------------------
-- Stashed Guards
------------------------------------------------------------

namespace PanelExport

namespace JsVal

/- `in` on an object value returns. -/
theorem has_returns
    {v : JsVal}
    (hObject : Stashed.isObjectValue v = true)
    (key : String) :
    ∃ b, v.has key = .ok b := by
  cases v <;> simp_all [Stashed.isObjectValue, has, truthy, typeOf]

/- Reading a property of an object value returns. -/
theorem get_returns
    {v : JsVal}
    (hObject : Stashed.isObjectValue v = true)
    (key : String) :
    ∃ w, v.get key = .ok w := by
  cases v <;> simp_all [Stashed.isObjectValue, get, truthy, typeOf]

end JsVal

namespace Stashed

/- `isTimeSeriesData` returns on every value. -/
theorem isTimeSeriesData_returns (v : JsVal) :
    ∃ b, isTimeSeriesData v = .ok b := by
  by_cases hObject : isObjectValue v
  · obtain ⟨hasSeries, hHas⟩ := JsVal.has_returns hObject "series"
    obtain ⟨series, hGet⟩ := JsVal.get_returns hObject "series"
    cases hasSeries <;> simp [isTimeSeriesData, hObject, hHas, hGet]
  · simp [isTimeSeriesData, hObject]

/- `isBarChartData` returns on every value. -/
theorem isBarChartData_returns (v : JsVal) :
    ∃ b, isBarChartData v = .ok b := by
  by_cases hObject : isObjectValue v
  · obtain ⟨hasCategories, hHasC⟩ := JsVal.has_returns hObject "categories"
    obtain ⟨hasSeries, hHasS⟩ := JsVal.has_returns hObject "series"
    obtain ⟨hasData, hHasD⟩ := JsVal.has_returns hObject "data"
    obtain ⟨data, hGet⟩ := JsVal.get_returns hObject "data"
    cases hasCategories <;> cases hasSeries <;> cases hasData <;>
      simp [isBarChartData, hObject, hHasC, hHasS, hHasD, hGet]
  · simp [isBarChartData, hObject]

/- `isTableData` returns on every value. -/
theorem isTableData_returns (v : JsVal) :
    ∃ b, isTableData v = .ok b := by
  by_cases hObject : isObjectValue v
  · obtain ⟨hasColumns, hHasC⟩ := JsVal.has_returns hObject "columns"
    obtain ⟨hasRows, hHasR⟩ := JsVal.has_returns hObject "rows"
    cases hasColumns <;> simp [isTableData, hObject, hHasC, hHasR]
  · simp [isTableData, hObject]

/- The three guards together return on every value. -/
theorem isExportable_returns (v : JsVal) :
    ∃ b, isExportable v = .ok b := by
  obtain ⟨a, ha⟩ := isTimeSeriesData_returns v
  obtain ⟨b, hb⟩ := isBarChartData_returns v
  obtain ⟨c, hc⟩ := isTableData_returns v
  cases a <;> cases b <;> simp [isExportable, ha, hb, hc]

/- The guard of every panel type returns. -/
theorem panelTypeGuard_returns (panelType : PanelType) (v : JsVal) :
    ∃ b, panelTypeGuard panelType v = .ok b := by
  cases panelType with
  | timeseries => exact isTimeSeriesData_returns v
  | bar => exact isBarChartData_returns v
  | table => exact isTableData_returns v
  | other => exact ⟨true, rfl⟩

/- The first loop of `dataForExport` returns. -/
theorem matchingData_returns (panelType : PanelType) (queryResults : List QueryData) :
    ∃ found, matchingData panelType queryResults = .ok found := by
  induction queryResults with
  | nil => exact ⟨none, rfl⟩
  | cons query rest ih =>
      obtain ⟨found, hRest⟩ := ih
      obtain ⟨accepted, hGuard⟩ := panelTypeGuard_returns panelType query.data
      cases hData : query.data.truthy <;> cases accepted <;>
        simp [matchingData, hData, hGuard, hRest]

/- `dataForExport` returns for every list of results. -/
theorem dataForExport_returns (queryResults : List QueryData) (panelType : PanelType) :
    ∃ payload, dataForExport queryResults panelType = .ok payload := by
  obtain ⟨found, hFound⟩ := matchingData_returns panelType queryResults
  unfold dataForExport
  cases queryResults.isEmpty <;> cases found <;> simp [hFound]
  split
  · simp
  · split <;> exact ⟨_, rfl⟩

end Stashed

------------------------------------------------------------
-- Handlers
------------------------------------------------------------

namespace Stashed

/-
  Clicking the stashed export button never raises: it downloads,
  does nothing, or never returns from an unbounded loop.
-/
theorem csvExportHandler_raises_nothing
    (title : String)
    (queryResults : JsVal)
    (panelType : PanelType) :
    (∃ outcome, csvExportHandler title queryResults panelType = .ok outcome) ∨
      csvExportHandler title queryResults panelType = .error .nonTermination := by
  unfold csvExportHandler
  cases queryResults.truthy <;> simp
  split
  · exact .inr rfl
  · exact .inl ⟨_, rfl⟩
  · split <;> exact .inl ⟨_, rfl⟩

end Stashed

------------------------------------------------------------
-- Raising Inputs
------------------------------------------------------------

/-
  Rendering raises a `TypeError` on a text payload in the enhanced
  header (`'series' in "x"`).  The stashed header raises a
  `ReferenceError` on every render; of its steps, the guards and
  `dataForExport` return on every value, but `shouldShowCsvExport`
  for a panel of another type raises a `TypeError` on the list
  holding `null` that `dataForExport` forwards (`null.data`).
-/
theorem header_render_raises_on_text_and_null_data :
    enhancedPanelHeader none [⟨.str "x", false, .undefined⟩] = .error .typeError ∧
      stashedPanelHeader .other [⟨.arr [.null], false, .undefined⟩] = .error .referenceError ∧
      Stashed.dataForExport [⟨.arr [.null], false, .undefined⟩] .other = .ok (.arr [.null]) ∧
      Stashed.shouldShowCsvExport (.arr [.null]) .other = .error .typeError ∧
      (∀ v, ∃ b, Stashed.isExportable v = .ok b) ∧
      (∀ queryResults panelType, ∃ payload,
        Stashed.dataForExport queryResults panelType = .ok payload) :=
  ⟨rfl, rfl, rfl, rfl, Stashed.isExportable_returns, Stashed.dataForExport_returns⟩

/-
  A timestamp past the `Date` range makes the enhanced handler
  raise a `RangeError`, while the stashed handler, given the same
  result, downloads a header-only file; on every payload the
  stashed handler returns, unless a loop never ends.
-/
theorem enhanced_export_raises_on_far_timestamp :
    let query : QueryData :=
      ⟨.obj [("series", .arr [.obj [("values",
        .arr [.arr [.int 10000000000000000, .int 1]])]])], false, .undefined⟩
    enhancedHeaderExport "t" none [query] 0 = .error .rangeError ∧
      stashedHeaderExport "t" .timeseries [query] =
        .ok (.download "t_timeseriesData.csv" "DateTime,\n") ∧
      (∀ title payload panelType,
        (∃ outcome, Stashed.csvExportHandler title payload panelType = .ok outcome) ∨
          Stashed.csvExportHandler title payload panelType = .error .nonTermination) :=
  ⟨rfl, rfl, Stashed.csvExportHandler_raises_nothing⟩

end PanelExport
