import PanelExport.Correctness.Safety
import PanelExport.Correctness.Layout

/-
  When the header offers the export button, and when clicking it
  downloads a file.

  The stashed handler downloads only a non-empty text, and only
  after some guard accepted the data it selected; every such data
  also makes `shouldShowCsvExport` hold, and then building the
  stashed button raises, since it names an icon the stashed file
  never imports.  No stashed row places the button anyway, and the
  stashed header raises before it renders.  The enhanced button and
  handler decide separately, the button on `detectDataType` alone
  and the handler on the hint before it, and the handler downloads
  its comment lines even when the exporter writes nothing.

  Main declarations:
    * `Stashed.csvExportHandler_download`, `stashedPanelActions_raises_of_download`
    * `enhancedPanelHeader_button`, `createCsvExportHandler_download_iff`
    * `enhancedPanelHeader_offers_button`, `export_button_disagrees_with_download`
-/

------------------------------------------------------------
-- Stashed Handler and Button
------------------------------------------------------------

namespace PanelExport

namespace Stashed

/- A non-empty export means some guard accepted the data. -/
theorem exportSelected_exportable
    {data : JsVal}
    {csvString : String}
    (hExport : exportSelected data = .ok csvString)
    (hNonEmpty : csvString ≠ "") :
    isExportable data = .ok true := by
  obtain ⟨a, ha⟩ := isTimeSeriesData_returns data
  obtain ⟨b, hb⟩ := isBarChartData_returns data
  obtain ⟨c, hc⟩ := isTableData_returns data
  cases a <;> cases b <;> cases c <;> simp_all [exportSelected, isExportable]

/- The element `firstExportableData` finds also satisfies the `some` of the button. -/
theorem anyM_of_firstExportableData
    {queries : List JsVal}
    {data : JsVal}
    (hFound : firstExportableData queries = .ok (some data)) :
    queries.anyM elementExportable = .ok true := by
  induction queries with
  | nil => simp [firstExportableData] at hFound
  | cons query rest ih =>
      cases hGet : query.get "data" with
      | error e => simp [firstExportableData, hGet] at hFound
      | ok queryData =>
          obtain ⟨accepted, hAccepted⟩ := isExportable_returns queryData
          cases hTruthy : queryData.truthy <;> cases accepted <;>
            simp_all [firstExportableData, elementExportable, List.anyM]

/- An array has no `data` property. -/
theorem has_data_arr (items : List JsVal) :
    (JsVal.arr items).has "data" = .ok false := by
  simp [JsVal.has, JsVal.indexed, show arrayIndex? "data" = none from rfl,
    JsVal.protoNames, arrayProtoNames, objectProtoNames]

/-
  Data the handler selects and a guard accepts makes the button of
  a panel of another type show.
-/
theorem shouldShowCsvExport_of_selectData
    {payload data : JsVal}
    (hTruthy : payload.truthy = true)
    (hSelect : selectData payload = .ok data)
    (hExportable : isExportable data = .ok true) :
    shouldShowCsvExport payload .other = .ok true := by
  obtain ⟨direct, hDirect⟩ := isExportable_returns payload
  cases direct
  case true => simp [shouldShowCsvExport, hTruthy, hDirect]
  case false =>
    cases payload
    case arr queries =>
      cases hFirst : firstExportableData queries with
      | error e => simp [selectData, hFirst] at hSelect
      | ok found =>
          cases found with
          | none =>
              simp [selectData, hFirst, has_data_arr, Stashed.isObjectValue,
                JsVal.typeOf] at hSelect
              simp_all
          | some e =>
              simp [shouldShowCsvExport, hTruthy, hDirect,
                anyM_of_firstExportableData hFirst]
    case obj props =>
      have hObject : isObjectValue (.obj props) = true := rfl
      obtain ⟨hasData, hHas⟩ := JsVal.has_returns hObject "data"
      obtain ⟨inner, hGet⟩ := JsVal.get_returns hObject "data"
      cases hasData
      · simp [selectData, hObject, hHas] at hSelect
        simp_all
      · simp [selectData, hObject, hHas, hGet] at hSelect
        subst hSelect
        simp [shouldShowCsvExport, hDirect, hHas, hGet, hExportable, JsVal.typeOf]
    all_goals simp_all [selectData, isObjectValue, JsVal.typeOf, JsVal.truthy]

/-
  A download of the stashed handler is a non-empty text, and the
  button for the same payload and panel type shows.
-/
theorem csvExportHandler_download
    {title : String}
    {payload : JsVal}
    {panelType : PanelType}
    {fileName contents : String}
    (hDownload :
      csvExportHandler title payload panelType = .ok (.download fileName contents)) :
    contents ≠ "" ∧ shouldShowCsvExport payload panelType = .ok true := by
  unfold csvExportHandler at hDownload
  cases hTruthy : payload.truthy
  · simp [hTruthy] at hDownload
  cases hRun : selectData payload >>= exportSelected with
  | error e => cases e <;> simp [hTruthy, hRun] at hDownload
  | ok csvString =>
      obtain ⟨data, hSelect, hExport⟩ := except_bind_eq_ok.1 hRun
      cases hEmpty : csvString.isEmpty
      case true => simp [hTruthy, hRun, hEmpty] at hDownload
      case false =>
        have hNonEmpty : csvString ≠ "" := by
          rintro rfl
          exact absurd hEmpty (by decide)
        simp [hTruthy, hRun, hEmpty] at hDownload
        obtain ⟨-, rfl⟩ := hDownload
        refine ⟨hNonEmpty, ?_⟩
        cases panelType
        case other =>
          exact shouldShowCsvExport_of_selectData hTruthy hSelect
            (exportSelected_exportable hExport hNonEmpty)
        all_goals simp [shouldShowCsvExport, hTruthy]

end Stashed

/-
  Whenever the stashed handler would download, building the stashed
  export button for the same payload raises: the button is never
  there to be clicked.
-/
theorem stashedPanelActions_raises_of_download
    {title : String}
    {payload : JsVal}
    {panelType : PanelType}
    {fileName contents : String}
    (hDownload :
      Stashed.csvExportHandler title payload panelType = .ok (.download fileName contents)) :
    contents ≠ "" ∧ stashedPanelActions payload panelType = .error .referenceError := by
  obtain ⟨hNonEmpty, hShow⟩ := Stashed.csvExportHandler_download hDownload
  exact ⟨hNonEmpty, by simp [stashedPanelActions, hShow, stashedCsvExportButton]⟩

------------------------------------------------------------
-- Enhanced Handler and Button
------------------------------------------------------------

/-
  The enhanced header's button shows exactly when `detectDataType`
  finds a shape in the payload the header forwards.
-/
theorem enhancedPanelHeader_button
    {dataType : Option DataType}
    {queryResults : List QueryData}
    {view : HeaderView}
    (hRender : enhancedPanelHeader dataType queryResults = .ok view) :
    ∃ props detected,
      enhancedActionsProps dataType queryResults = .ok props ∧
      detectDataType props.queryResults = .ok detected ∧
      (view.exportButton.isSome = true ↔ detected ≠ .unknown) := by
  obtain ⟨props, hProps, hActions⟩ := except_bind_eq_ok.1 hRender
  obtain ⟨button, hButton, hView⟩ := except_bind_eq_ok.1 hActions
  obtain ⟨check, hCheck, hShown⟩ := except_bind_eq_ok.1 hButton
  obtain ⟨detected, hDetect, hEq⟩ := except_bind_eq_ok.1 hCheck
  refine ⟨props, detected, hProps, hDetect, ?_⟩
  simp only [except_pure, Except.ok.injEq] at hEq
  subst hEq
  simp only [enhancedQueryStateIndicator, fixedQueryStateIndicator_eq,
    except_ok_bind, except_pure, Except.ok.injEq] at hView
  subst hView
  by_cases hUnknown : detected = .unknown
  · simp_all
  · simp [hUnknown] at hShown
    obtain ⟨_, -, hSome⟩ := except_bind_eq_ok.1 hShown
    simp [hUnknown, ← Except.ok.inj hSome]

/-
  The enhanced handler downloads exactly when the payload is
  truthy, the hint or else the detected type has an exporter, and
  the exporter returns; the file is the common header followed by
  the exporter's text, whatever that text is.
-/
theorem createCsvExportHandler_download_iff
    (title : String)
    (payload : JsVal)
    (dataType : Option DataType)
    (now : Int)
    (fileName contents : String) :
    createCsvExportHandler title payload dataType now =
        .ok (.download fileName contents) ↔
      payload.truthy = true ∧ ∃ detected text,
        Enhanced.detectedType payload dataType = .ok detected ∧
        Enhanced.exportByType detected payload title = .ok (some text) ∧
        fileName = title ++ "_" ++ detected.name ++ "_data.csv" ∧
        contents = Enhanced.commonHeader title detected now ++ text := by
  unfold createCsvExportHandler
  cases payload.truthy
  · simp
  cases Enhanced.detectedType payload dataType with
  | error e => simp
  | ok detected =>
      cases hExport : Enhanced.exportByType detected payload title with
      | error e => simp [hExport]
      | ok body =>
          cases body <;> simp [hExport, eq_comm]

------------------------------------------------------------
-- Button Against Download
------------------------------------------------------------

/-
  Every row the enhanced header renders offers the export button
  exactly when `detectDataType` finds a shape in the payload the
  header forwards.
-/
theorem enhancedPanelHeader_offers_button
    {dataType : Option DataType}
    {queryResults : List QueryData}
    {view : HeaderView}
    (hRender : enhancedPanelHeader dataType queryResults = .ok view) :
    ∃ props detected,
      enhancedActionsProps dataType queryResults = .ok props ∧
      detectDataType props.queryResults = .ok detected ∧
      ∀ actionsProps w, Action.csvExport ∈ offered (enhancedActionsLayout actionsProps view w) ↔
        detected ≠ .unknown := by
  obtain ⟨props, detected, hProps, hDetect, hButton⟩ := enhancedPanelHeader_button hRender
  exact ⟨props, detected, hProps, hDetect, fun actionsProps w =>
    (enhancedActionsLayout_csvExport actionsProps view w).trans hButton⟩

/-
  The button and the download disagree in both pipelines.  For an
  empty series list the enhanced header offers no export button at
  any width, yet its handler downloads the comment lines alone,
  which hold no record.  No stashed row offers the button at all:
  for a time series result the stashed header raises before it
  renders, and the header of `PanelHeader.tsx` raises building the
  button, yet the stashed handler downloads the series; on every
  payload that handler downloads for, building the button raises.
-/
theorem export_button_disagrees_with_download :
    let empty : QueryData := ⟨.obj [("series", .arr [])], false, .undefined⟩
    let series : QueryData := ⟨.obj [("series", .arr [.obj [("name", .str "a"),
      ("values", .arr [.arr [.int 0, .int 1]])]])], false, .undefined⟩
    let comments := "# Chart: t\n# Data Type: timeseries\n" ++
      "# Exported: 1970-01-01T00:00:00.000Z\n"
    enhancedPanelHeader none [empty] = .ok ⟨none, .none⟩ ∧
      (∀ props w, Action.csvExport ∉ offered (enhancedActionsLayout props ⟨none, .none⟩ w)) ∧
      enhancedHeaderExport "t" none [empty] 0 =
        .ok (.download "t_timeseries_data.csv" comments) ∧
      Csv.dropComments comments.toList = [] ∧
      (∀ props view w, Action.csvExport ∉ offered (stashedActionsLayout props view w)) ∧
      stashedPanelHeader .timeseries [series] = .error .referenceError ∧
      listPanelHeader .timeseries [series] = .error .referenceError ∧
      listHeaderExport "t" .timeseries [series] =
        .ok (.download "t_timeseriesData.csv" "DateTime,a\n1970-01-01T00:00:00.000Z,1\n") ∧
      (∀ title payload panelType fileName contents,
        Stashed.csvExportHandler title payload panelType = .ok (.download fileName contents) →
          contents ≠ "" ∧ stashedPanelActions payload panelType = .error .referenceError) ∧
      (∀ dataType queryResults view, enhancedPanelHeader dataType queryResults = .ok view →
        ∃ props detected,
          enhancedActionsProps dataType queryResults = .ok props ∧
          detectDataType props.queryResults = .ok detected ∧
          ∀ actionsProps w, Action.csvExport ∈ offered (enhancedActionsLayout actionsProps view w) ↔
            detected ≠ .unknown) :=
  ⟨rfl, fun props w => by simp [enhancedActionsLayout_csvExport], rfl, by decide,
    fun props view w => (stashedActionsLayout_offered props view w).2, rfl, rfl, rfl,
    fun _ _ _ _ _ => stashedPanelActions_raises_of_download,
    fun _ _ _ => enhancedPanelHeader_offers_button⟩

end PanelExport
