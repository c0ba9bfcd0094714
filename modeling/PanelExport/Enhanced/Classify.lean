import PanelExport.Panel.Actions

/-
  Payload classification in the enhanced pipeline.

  The enhanced `PanelHeader` runs `extractDataForExport` over the
  query results: the first result with truthy `data` is probed for
  a `series` array, then `columns` and `rows`, then a bar chart,
  then an array of objects (made into a table), then the chart.js
  `labels`/`datasets` and `datasets` conventions.  The enhanced
  `PanelActions` classifies the forwarded payload again with
  `detectDataType`, which looks at the first series only.

  Main declarations:
    * `DataType`
    * `extractDataForExport`
    * `detectDataType`, `hasExportableData`
-/

------------------------------------------------------------
-- Data Types
------------------------------------------------------------

namespace PanelExport

/-
  The type names of the enhanced components, including the text
  `'undefined'` that `PanelHeader`'s `dataType` prop admits.
-/
inductive DataType where
  | timeseries
  | table
  | barchart
  | unknown
  | undefinedText
deriving DecidableEq, Repr

/- The name as it appears in file names and tooltips. -/
def DataType.name : DataType → String
  | .timeseries => "timeseries"
  | .table => "table"
  | .barchart => "barchart"
  | .unknown => "unknown"
  | .undefinedText => "undefined"

namespace Enhanced

------------------------------------------------------------
-- Alternative Formats
------------------------------------------------------------

/- One column `{ name: key, displayName: key }` of a synthesised table. -/
def keyColumn (key : String) : JsVal :=
  .obj [("name", .str key), ("displayName", .str key)]

/- `dataset.label || fallback`. -/
def datasetLabel (dataset : JsVal) (fallback : String) :
    Except JsError JsVal := do
  let label ← dataset.get "label"
  pure (label.orElse (.str fallback))

/- One `datasets` entry as a bar chart series. -/
def datasetSeries (index : Nat) (dataset : JsVal) :
    Except JsError JsVal := do
  let name ← datasetLabel dataset s!"Dataset {index + 1}"
  let data ← dataset.get "data"
  let background ← dataset.get "backgroundColor"
  let border ← dataset.get "borderColor"
  pure (.obj [("name", name), ("displayName", name),
    ("data", data.orElse (.arr [])), ("color", background.orElse border)])

/- The `labels`/`datasets` convention as a bar chart. -/
def labelsBarChart (dataObj : JsVal) : Except JsError JsVal := do
  let labels ← dataObj.get "labels"
  let datasets ← dataObj.get "datasets"
  let series ← datasets.callMap datasetSeries
  let xAxis ← dataObj.get "xAxis"
  let yAxis ← dataObj.get "yAxis"
  pure (.obj [("categories", labels), ("series", series),
    ("xAxis", xAxis.orElse (.obj [("title", .str "Categories")])),
    ("yAxis", yAxis.orElse (.obj [("title", .str "Values")]))])

/- A point that looks time-like: a pair, or an object with `x` or `t`. -/
def timeLikePoint (point : JsVal) : Except JsError Bool :=
  match point with
  | .arr items => pure (items.length ≥ 2)
  | _ =>
      if point.typeOf = "object" then do
        let x ← point.get "x"
        let t ← point.get "t"
        pure (!(x.strictEq .undefined) || !(t.strictEq .undefined))
      else pure false

/- Some point of the dataset's `data` array looks time-like. -/
def hasTimePoints (dataset : JsVal) : Except JsError Bool := do
  let data ← dataset.get "data"
  if data.truthy && data.isArray then data.callSome timeLikePoint
  else pure false

/-
  One point as a `[time, value]` pair: pairs stay, objects give
  `[x || t || timestamp, y || value]`, anything else `[0, point]`.
-/
def convertPoint (_index : Nat) (point : JsVal) : Except JsError JsVal :=
  match point with
  | .arr _ => pure point
  | _ =>
      if point.typeOf = "object" then do
        let x ← point.get "x"
        let t ← point.get "t"
        let timestamp ← point.get "timestamp"
        let y ← point.get "y"
        let value ← point.get "value"
        pure (.arr [(x.orElse t).orElse timestamp, y.orElse value])
      else pure (.arr [.int 0, point])

/- One dataset as a time series. -/
def datasetTimeSeries (_index : Nat) (dataset : JsVal) :
    Except JsError JsVal := do
  let name ← datasetLabel dataset "Series"
  let data ← dataset.get "data"
  let values ← data.callMap convertPoint
  pure (.obj [("name", name), ("displayName", name), ("values", values)])

/- The `datasets` convention as time series. -/
def datasetsTimeSeries (datasets : JsVal) : Except JsError JsVal := do
  let series ← datasets.callMap datasetTimeSeries
  pure (.obj [("series", series)])

------------------------------------------------------------
-- Extraction
------------------------------------------------------------

/- `typeof s.name === 'string' && Array.isArray(s.data)`. -/
def namedDataSeries (s : JsVal) : Except JsError Bool := do
  let name ← s.get "name"
  if name.typeOf = "string" then
    return (← s.get "data").isArray
  return false

/- The bar chart rebuilt from a payload's own fields. -/
def barChartOf (barData : JsVal) : Except JsError JsVal := do
  let categories ← barData.get "categories"
  let series ← barData.get "series"
  let xAxis ← barData.get "xAxis"
  let yAxis ← barData.get "yAxis"
  let metadata ← barData.get "metadata"
  pure (.obj [("categories", categories), ("series", series),
    ("xAxis", xAxis), ("yAxis", yAxis), ("metadata", metadata)])

/-
  The probes run on one truthy `data`, in source order; `none`
  means the loop moves on to the next query result.
-/
def probe (data : JsVal) : Except JsError (Option (JsVal × DataType)) := do
  if ← data.has "series" then
    if (← data.get "series").isArray then
      return some (data, .timeseries)
  if ← data.has "columns" then
    if ← data.has "rows" then
      return some (data, .table)
  if ← data.has "categories" then
    if ← data.has "series" then
      let categories ← data.get "categories"
      let series ← data.get "series"
      if categories.isArray && series.isArray then
        if ← series.callEvery namedDataSeries then
          return some (← barChartOf data, .barchart)
  if let .arr (firstItem :: _) := data then
    if firstItem.typeOf = "object" && !firstItem.strictEq .null then
      let keys ← firstItem.ownKeys
      return some (.obj [("columns", .arr (keys.map keyColumn)),
        ("rows", data)], .table)
  if data.typeOf = "object" then
    let labels ← data.get "labels"
    let datasets ← data.get "datasets"
    if labels.truthy && datasets.truthy then
      return some (← labelsBarChart data, .barchart)
    if datasets.truthy && datasets.isArray then
      if ← datasets.callSome hasTimePoints then
        return some (← datasetsTimeSeries datasets, .timeseries)
  return none

end Enhanced

/-
  `extractDataForExport`: the payload and type of the first query
  result whose truthy `data` some probe accepts.
-/
def extractDataForExport :
    List QueryData → Except JsError (JsVal × DataType)
  | [] => pure (.undefined, .unknown)
  | query :: rest =>
      if !query.data.truthy then extractDataForExport rest
      else do
        match ← Enhanced.probe query.data with
        | some found => pure found
        | none => extractDataForExport rest

------------------------------------------------------------
-- Detection
------------------------------------------------------------

/-
  `detectDataType`: time series when the first series has a
  `values` array, then table, then bar chart when the first
  series has a `data` array.
-/
def detectDataType (data : JsVal) : Except JsError DataType := do
  if !data.truthy then return .unknown
  let series ← data.get "series"
  if series.truthy && series.isArray then
    if let .arr (firstSeries :: _) := series then
      let values ← firstSeries.get "values"
      if values.truthy && values.isArray then
        return .timeseries
  let columns ← data.get "columns"
  let rows ← data.get "rows"
  if columns.truthy && columns.isArray && rows.truthy && rows.isArray then
    return .table
  let categories ← data.get "categories"
  if categories.truthy && categories.isArray && series.truthy &&
      series.isArray then
    if let .arr (firstSeries :: _) := series then
      if firstSeries.truthy then
        let seriesData ← firstSeries.get "data"
        if seriesData.truthy && seriesData.isArray then
          return .barchart
  return .unknown

/- `hasExportableData`: the detected type is not `unknown`. -/
def hasExportableData (data : JsVal) : Except JsError Bool := do
  return (← detectDataType data) != .unknown

end PanelExport
