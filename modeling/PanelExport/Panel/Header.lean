import PanelExport.Enhanced.Export
import PanelExport.Stashed.Export

/-
  The panel header as a whole: what `PanelHeader` hands to
  `PanelActions`, what the actions render, and what the export
  button's handler does.

  Rendering evaluates the memoised values in hook order, so an
  exception there aborts the render; the export handler is only
  built during render and runs when the button is clicked.  The
  enhanced header forwards the extracted payload and its type.  The
  stashed header means to forward `dataForExport`, but raises a
  `ReferenceError` on its first memo; the header of
  `PanelHeader.tsx` forwards the query results themselves to the
  stashed `PanelActions`, whose export button memo raises a
  `ReferenceError` whenever it would build the button.

  Main declarations:
    * `HeaderView`
    * `enhancedCsvExportButton`
    * `enhancedPanelHeader`, `enhancedHeaderExport`
    * `stashedCsvExportButton`, `stashedPanelHeader`, `stashedHeaderExport`
    * `listPanelHeader`, `listHeaderExport`
    * `upstreamPanelHeader`
-/

------------------------------------------------------------
-- Rendered Header
------------------------------------------------------------

namespace PanelExport

/-
  What the actions render: the export button memo's tooltip, if
  any, and the indicator; the layouts place both in the header row.
-/
structure HeaderView where
  exportButton : Option String
  indicator : Indicator
deriving DecidableEq, Repr

/- The props the enhanced `PanelHeader` passes to `PanelActions`. -/
structure EnhancedActionsProps where
  queryResults : JsVal
  dataType : Option DataType
deriving Repr

/-
  The enhanced `PanelHeader`'s memo: the extracted payload, and
  `dataType || detectedType` passed on unless it is `unknown`.
-/
def enhancedActionsProps
    (dataType : Option DataType)
    (queryResults : List QueryData) :
    Except JsError EnhancedActionsProps := do
  let (data, detectedType) ← extractDataForExport queryResults
  let detectedDataType := dataType.getD detectedType
  pure ⟨data, if detectedDataType = .unknown then none else some detectedDataType⟩

/-
  The enhanced `csvExportButton` memo: the button's tooltip when
  `hasExportableData` holds, naming the hint or the detected type.
-/
def enhancedCsvExportButton (props : EnhancedActionsProps) :
    Except JsError (Option String) := do
  let hasExportableDataCheck ← hasExportableData props.queryResults
  if !hasExportableDataCheck then return none
  let detectedType ← Enhanced.detectedType props.queryResults props.dataType
  pure (some ("Export " ++ detectedType.name ++ " data as CSV"))

/- The enhanced `PanelActions` render. -/
def enhancedPanelActions (props : EnhancedActionsProps) :
    Except JsError HeaderView := do
  let csvExportButton ← enhancedCsvExportButton props
  let indicator ← enhancedQueryStateIndicator props.queryResults
  pure ⟨csvExportButton, indicator⟩

/- Rendering the enhanced header for the query results and the `dataType` prop. -/
def enhancedPanelHeader
    (dataType : Option DataType)
    (queryResults : List QueryData) :
    Except JsError HeaderView := do
  enhancedPanelActions (← enhancedActionsProps dataType queryResults)

/- Clicking the enhanced header's export button at time `now`. -/
def enhancedHeaderExport
    (title : String)
    (dataType : Option DataType)
    (queryResults : List QueryData)
    (now : Int) :
    Except JsError ExportOutcome := do
  let props ← enhancedActionsProps dataType queryResults
  createCsvExportHandler title props.queryResults props.dataType now

------------------------------------------------------------
-- Stashed Headers
------------------------------------------------------------

/-
  The stashed `csvExportButton` memo: `null` unless
  `shouldShowCsvExport`.  The button it builds otherwise names
  `DownloadIcon`, which the stashed file does not import, so
  building it raises a `ReferenceError`.
-/
def stashedCsvExportButton (shouldShowCsvExport : Bool) : Except JsError (Option String) :=
  if shouldShowCsvExport then .error .referenceError else pure none

/-
  The stashed `PanelActions` render: the export memos, then the
  indicator.  The memo holds `null` whenever the render returns,
  and the layout places `{csvExportButton}` at no width
  (`stashedActionsLayout`), so the header shows no export button.
-/
def stashedPanelActions (queryResults : JsVal) (panelType : PanelType) :
    Except JsError HeaderView := do
  let shouldShow ← Stashed.shouldShowCsvExport queryResults panelType
  let csvExportButton ← stashedCsvExportButton shouldShow
  let indicator ← stashedQueryStateIndicator queryResults
  pure ⟨csvExportButton, indicator⟩

/-
  Rendering the stashed `PanelHeader`.  Its `dataForExport` memo
  calls `useMemo`, which the stashed file does not import from
  `react`, so every render raises a `ReferenceError` before the
  memo runs and before `PanelActions` is rendered.
-/
def stashedPanelHeader (_panelType : PanelType) (_queryResults : List QueryData) :
    Except JsError HeaderView :=
  .error .referenceError

/-
  The stashed `csvExportHandler` on the payload the stashed
  `dataForExport` memo selects: what the export button would do
  with what the stashed header means to forward.  No rendered
  header offers that button.
-/
def stashedHeaderExport
    (title : String)
    (panelType : PanelType)
    (queryResults : List QueryData) :
    Except JsError ExportOutcome := do
  let payload ← Stashed.dataForExport queryResults panelType
  Stashed.csvExportHandler title payload panelType

/- The query results as the array `PanelHeader.tsx` forwards. -/
def queryResultsValue (queryResults : List QueryData) : JsVal :=
  .arr (queryResults.map QueryData.toJs)

/- Rendering the header of `PanelHeader.tsx`, which uses the stashed `PanelActions`. -/
def listPanelHeader (panelType : PanelType) (queryResults : List QueryData) :
    Except JsError HeaderView :=
  stashedPanelActions (queryResultsValue queryResults) panelType

/-
  The stashed `csvExportHandler` on the results `PanelHeader.tsx`
  forwards; its header offers no button for it either.
-/
def listHeaderExport
    (title : String)
    (panelType : PanelType)
    (queryResults : List QueryData) :
    Except JsError ExportOutcome :=
  Stashed.csvExportHandler title (queryResultsValue queryResults) panelType

/- Rendering the upstream header: no export button, indicator from the results. -/
def upstreamPanelHeader (queryResults : List QueryData) :
    Except JsError HeaderView := do
  pure ⟨none, ← queryStateIndicator queryResults⟩

end PanelExport
