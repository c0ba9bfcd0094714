import PanelExport.Panel.Actions

/-
  Payload classification in the stashed pipeline.

  The stashed `PanelHeader` picks a payload for the panel type
  (`dataForExport`) and hands it to the stashed `PanelActions`,
  whose type guards test for a `series` array, for `categories`
  with `series` or a `data` array, and for `columns` with `rows`.
  Every guard first checks that its argument is an object, so the
  `in` tests cannot raise.  `shouldShowCsvExport` decides whether
  the export button is offered.

  Main declarations:
    * `PanelType`
    * `Stashed.isTimeSeriesData`, `Stashed.isBarChartData`,
      `Stashed.isTableData`, `Stashed.isTraceData`
    * `Stashed.dataForExport`, `Stashed.shouldShowCsvExport`
-/

------------------------------------------------------------
-- Type Guards
------------------------------------------------------------

namespace PanelExport

/- The `panelType` prop of the stashed components. -/
inductive PanelType where
  | timeseries
  | bar
  | table
  | other
deriving DecidableEq, Repr

/- The name as it appears in the downloaded file name. -/
def PanelType.name : PanelType → String
  | .timeseries => "timeseries"
  | .bar => "bar"
  | .table => "table"
  | .other => "other"

namespace Stashed

/- `data && typeof data === 'object'`. -/
def isObjectValue (data : JsVal) : Bool :=
  data.truthy && data.typeOf = "object"

/- `isTimeSeriesData`: an object with a `series` array. -/
def isTimeSeriesData (data : JsVal) : Except JsError Bool := do
  if !isObjectValue data then return false
  if !(← data.has "series") then return false
  return (← data.get "series").isArray

/- `isBarChartData`: `categories` and `series`, or a `data` array. -/
def isBarChartData (data : JsVal) : Except JsError Bool := do
  if !isObjectValue data then return false
  if (← data.has "categories") then
    if (← data.has "series") then return true
  if !(← data.has "data") then return false
  return (← data.get "data").isArray

/- `isTableData`: an object with `columns` and `rows`. -/
def isTableData (data : JsVal) : Except JsError Bool := do
  if !isObjectValue data then return false
  if !(← data.has "columns") then return false
  data.has "rows"

/- `isTraceData`: an object with a `spans` array. -/
def isTraceData (data : JsVal) : Except JsError Bool := do
  if !isObjectValue data then return false
  if !(← data.has "spans") then return false
  return (← data.get "spans").isArray

/- Some exportable guard accepts `data`, tried in dispatch order. -/
def isExportable (data : JsVal) : Except JsError Bool := do
  if ← isTimeSeriesData data then return true
  if ← isBarChartData data then return true
  isTableData data

------------------------------------------------------------
-- Header Payload and Button
------------------------------------------------------------

/- The guard `dataForExport` applies for a panel type. -/
def panelTypeGuard : PanelType → JsVal → Except JsError Bool
  | .timeseries => isTimeSeriesData
  | .bar => isBarChartData
  | .table => isTableData
  | .other => fun _ => pure true

/- The first loop of `dataForExport`: data matching the panel type. -/
def matchingData (panelType : PanelType) :
    List QueryData → Except JsError (Option JsVal)
  | [] => pure none
  | query :: rest => do
      if query.data.truthy then
        if ← panelTypeGuard panelType query.data then
          return some query.data
      matchingData panelType rest

/-
  `dataForExport` of the stashed `PanelHeader`: the first data the
  panel type accepts, else the first truthy data, else the single
  result or the whole list.
-/
def dataForExport (queryResults : List QueryData) (panelType : PanelType) :
    Except JsError JsVal := do
  if queryResults.isEmpty then return .undefined
  if let some data ← matchingData panelType queryResults then
    return data
  if let some query := queryResults.find? (·.data.truthy) then
    return query.data
  match queryResults with
  | [query] => return query.toJs
  | _ => return .arr (queryResults.map QueryData.toJs)

/- `query.data && isExportable(query.data)` for one list element. -/
def elementExportable (query : JsVal) : Except JsError Bool := do
  let data ← query.get "data"
  if !data.truthy then return false
  isExportable data

/- `shouldShowCsvExport` of the stashed `PanelActions`. -/
def shouldShowCsvExport (queryResults : JsVal) (panelType : PanelType) :
    Except JsError Bool := do
  if !queryResults.truthy then return false
  if panelType ≠ .other then return true
  if ← isExportable queryResults then return true
  if let .arr queries := queryResults then
    return ← queries.anyM elementExportable
  if queryResults.typeOf = "object" then
    if ← queryResults.has "data" then
      return ← isExportable (← queryResults.get "data")
  return false

end Stashed

end PanelExport
