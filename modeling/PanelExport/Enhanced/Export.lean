import PanelExport.Enhanced.Classify
import PanelExport.Csv.RoundTrip
import PanelExport.Js.Date

/-
  CSV serialisation in the enhanced pipeline.

  Each exporter writes `#` comment lines describing the payload,
  then the CSV header and rows.  The loops of the source append to
  one string; a loop body that throws aborts the whole export, so
  each loop is the concatenation of its lines computed in order.
  The handler built by `createCsvExportHandler` prefixes three
  more comment lines and downloads whatever the exporter wrote,
  unless the data type is none of the three shapes.

  Main declarations:
    * `Enhanced.exportTimeSeriesData`
    * `Enhanced.exportTableData`
    * `Enhanced.exportBarChartData`
    * `Enhanced.exportByType`, `createCsvExportHandler`
-/

------------------------------------------------------------
-- Time Series
------------------------------------------------------------

namespace PanelExport

namespace Enhanced

/- Legend text and CSV column of one exported series. -/
structure SeriesInfo where
  legendName : JsVal
  columnName : String

/- `getSeriesLegendName`: the first truthy name field, else `Series n`. -/
def getSeriesLegendName (series : JsVal) (seriesIndex : Nat) :
    Except JsError SeriesInfo := do
  let formattedName ← series.get "formattedName"
  let legendName ← series.get "legendName"
  let displayName ← series.get "displayName"
  let legend ← series.get "legend"
  let name ← series.get "name"
  pure ⟨((((formattedName.orElse legendName).orElse displayName).orElse
      legend).orElse name).orElse
        (.str ("Series " ++ toString (seriesIndex + 1))),
    "Series_" ++ toString (seriesIndex + 1)⟩

/- `timestamp > 1e10 ? timestamp : timestamp * 1000`, the product rounded to a double. -/
def toMillis : JsNum → JsNum
  | .int n => if n > 10000000000 then .int n else .int (n * 1000)
  | .frac x =>
      if x.num > 10000000000 * 2 ^ (x.exp + 1) then .frac x
      else JsNum.round (decide (x.num < 0)) (x.num.natAbs * 1000) (2 ^ (x.exp + 1))
  | .nan => .nan
  | .inf negative => .inf negative

/- The row key of an entry's timestamp; `none` skips the entry. -/
def entryDateTime : JsVal → Except JsError (Option String)
  | .num n => some <$> toISOString (toMillis n)
  | .str s => some <$> toISOString (dateParse s)
  | _ => pure none

/- Rows keyed by ISO time, each with the cells set at that instant. -/
abbrev TimeRows :=
  List (String × Props)

/- The entries loop of one series, writing into its column. -/
def collectEntries (columnName : String) :
    TimeRows → List JsVal → Except JsError TimeRows
  | rows, [] => pure rows
  | rows, entry :: rest =>
      match entry with
      | .arr (timestamp :: value :: _) => do
          match ← entryDateTime timestamp with
          | some dateTime =>
              collectEntries columnName
                (setCell rows dateTime columnName value) rest
          | none => collectEntries columnName rows rest
      | _ => collectEntries columnName rows rest

/- The series loop: series without a `values` array are skipped. -/
def collectSeries :
    Nat → List SeriesInfo × TimeRows → List JsVal →
      Except JsError (List SeriesInfo × TimeRows)
  | _, acc, [] => pure acc
  | i, (infos, rows), series :: rest => do
      if !series.truthy then collectSeries (i + 1) (infos, rows) rest
      else
        match ← series.get "values" with
        | .arr entries => do
            let info ← getSeriesLegendName series i
            let rows ← collectEntries info.columnName rows entries
            collectSeries (i + 1) (infos ++ [info], rows) rest
        | _ => collectSeries (i + 1) (infos, rows) rest

/- `# Series_k: legend` for one series. -/
def legendLine (info : SeriesInfo) : Except JsError String := do
  let legend ← info.legendName.toStr
  pure ("# " ++ info.columnName ++ ": " ++ legend ++ "\n")

/- One data row: the time, then each column's cell or empty. -/
def timeRowLine (columnNames : List String) (rows : TimeRows)
    (dateTime : String) : Except JsError String := do
  let rowData := (rows.lookup dateTime).getD []
  let temp := columnNames.map fun columnName =>
    ((rowData.lookup columnName).getD .undefined).ifNullish (.str "")
  let cells ← JsVal.join "," temp
  pure (dateTime ++ "," ++ cells ++ "\n")

/- `exportTimeSeriesData` of the enhanced `PanelActions`. -/
def exportTimeSeriesData (data : JsVal) (_title : String) :
    Except JsError String := do
  match ← data.get "series" with
  | .arr seriesList@(_ :: _) => do
      let (infos, rows) ← collectSeries 0 ([], []) seriesList
      let legend ← infos.mapM legendLine
      let columnNames := infos.map (·.columnName)
      let body ← (sortStrings (rows.map Prod.fst)).mapM
        (timeRowLine columnNames rows)
      pure ("# Legend Information:\n" ++ String.join legend ++ "#\n" ++
        "DateTime," ++ ",".intercalate columnNames ++ "\n" ++
        String.join body)
  | _ => pure ""

------------------------------------------------------------
-- Tables
------------------------------------------------------------

/- `# name: displayName (type)` for one column. -/
def columnComment (column : JsVal) : Except JsError String := do
  let displayName ← column.get "displayName"
  let name ← column.get "name"
  let type ← column.get "type"
  let typeText ← if type.truthy then do
      pure (" (" ++ (← type.toStr) ++ ")")
    else pure ""
  let nameText ← name.toStr
  let displayText ← (displayName.orElse name).toStr
  pure ("# " ++ nameText ++ ": " ++ displayText ++ typeText ++ "\n")

/- `col.displayName || col.name`. -/
def columnHeader (_index : Nat) (col : JsVal) : Except JsError JsVal := do
  let displayName ← col.get "displayName"
  let name ← col.get "name"
  pure (displayName.orElse name)

/-
  One cell: empty for `null`/`undefined`, quoted when a string
  holds a comma, otherwise `String(value)`.
-/
def tableCell (row : JsVal) (_index : Nat) (col : JsVal) :
    Except JsError JsVal := do
  let value ← row.getComputed (← col.get "name")
  if value.isNullish then return .str ""
  match value with
  | .str text =>
      if ',' ∈ text.toList then return .str (String.mk (Csv.quoteField text.toList))
      else return value
  | _ => return .str (← value.toStr)

/- One data row line. -/
def tableRowLine (columns row : JsVal) : Except JsError String := do
  let values ← columns.mapArray (tableCell row)
  let text ← JsVal.join "," values
  pure (text ++ "\n")

/- `exportTableData` of the enhanced `PanelActions`. -/
def exportTableData (data : JsVal) (_title : String) :
    Except JsError String := do
  let columns ← data.get "columns"
  let rows ← data.get "rows"
  if !columns.truthy || !rows.truthy then return ""
  let comments ← (← columns.iterate).mapM columnComment
  let headers ← columns.mapArray columnHeader
  let headerText ← JsVal.join "," headers
  let lines ← (← rows.iterate).mapM (tableRowLine columns)
  pure ("# Column Information:\n" ++ String.join comments ++ "#\n" ++
    headerText ++ "\n" ++ String.join lines)

------------------------------------------------------------
-- Bar Charts
------------------------------------------------------------

/- `# X-Axis: title` when the axis has a truthy title. -/
def axisLine (label : String) (axis : JsVal) : Except JsError String := do
  let title ← axis.getOpt "title"
  if title.truthy then pure ("# " ++ label ++ ": " ++ (← title.toStr) ++ "\n")
  else pure ""

/- `# Series_k: displayName` for index `i`, skipped when falsy. -/
def seriesInfoLine (series : JsVal) (i : Nat) : Except JsError String := do
  let s ← series.get (toString i)
  if !s.truthy then return ""
  let displayName ← s.get "displayName"
  let name ← s.get "name"
  let text ← (displayName.orElse name).toStr
  pure ("# Series_" ++ toString (i + 1) ++ ": " ++ text ++ "\n")

/- `series.data[i]` as text, empty only when `undefined`. -/
def barCell (i : Nat) (_index : Nat) (s : JsVal) : Except JsError JsVal := do
  let value ← (← s.get "data").get (toString i)
  if value.strictEq .undefined then pure (.str "")
  else .str <$> value.toStr

/- One category row. -/
def barRowLine (categories series : JsVal) (i : Nat) :
    Except JsError String := do
  let category ← categories.get (toString i)
  let values ← series.mapArray (barCell i)
  let categoryText ← category.toStr
  let cells ← JsVal.join "," values
  pure (categoryText ++ "," ++ cells ++ "\n")

/- `exportBarChartData` of the enhanced `PanelActions`. -/
def exportBarChartData (data : JsVal) (_title : String) :
    Except JsError String := do
  let categories ← data.get "categories"
  let series ← data.get "series"
  if !categories.truthy || !series.truthy then return ""
  let xLine ← axisLine "X-Axis" (← data.get "xAxis")
  let yLine ← axisLine "Y-Axis" (← data.get "yAxis")
  let seriesCount ← (← series.get "length").loopCount
  let infoLines ← (List.range seriesCount).mapM (seriesInfoLine series)
  let seriesHeaders ← series.mapArray fun index _ =>
    pure (.str ("Series_" ++ toString (index + 1)))
  let headerCells ← JsVal.join "," seriesHeaders
  let categoryCount ← (← categories.get "length").loopCount
  let lines ← (List.range categoryCount).mapM (barRowLine categories series)
  pure ("# Axis Information:\n" ++ xLine ++ yLine ++
    "# Series Information:\n" ++ String.join infoLines ++ "#\n" ++
    "Category," ++ headerCells ++ "\n" ++ String.join lines)

end Enhanced

------------------------------------------------------------
-- Export Handler
------------------------------------------------------------

namespace Enhanced

/- `dataType || detectDataType(queryResults)`: the hint, else the detected type. -/
def detectedType (queryResults : JsVal) (dataType : Option DataType) :
    Except JsError DataType :=
  match dataType with
  | some hint => pure hint
  | none => detectDataType queryResults

/- The three comment lines every enhanced export starts with. -/
def commonHeader (title : String) (detectedType : DataType) (now : Int) : String :=
  "# Chart: " ++ title ++ "\n" ++ "# Data Type: " ++ detectedType.name ++ "\n" ++
    "# Exported: " ++ isoString now ++ "\n"

/- The handler's `switch`: the exporter's text, `none` in the default case. -/
def exportByType (detectedType : DataType) (queryResults : JsVal) (title : String) :
    Except JsError (Option String) :=
  match detectedType with
  | .timeseries => some <$> exportTimeSeriesData queryResults title
  | .table => some <$> exportTableData queryResults title
  | .barchart => some <$> exportBarChartData queryResults title
  | _ => pure none

end Enhanced

/-
  Invoking the handler `createCsvExportHandler(title, queryResults,
  dataType)` at time `now`: the hint, else the detected type, picks
  the exporter; every known shape downloads the common header
  followed by the exporter's text.
-/
def createCsvExportHandler
    (title : String)
    (queryResults : JsVal)
    (dataType : Option DataType)
    (now : Int) :
    Except JsError ExportOutcome := do
  if !queryResults.truthy then return .nothing
  let detectedType ← Enhanced.detectedType queryResults dataType
  match ← Enhanced.exportByType detectedType queryResults title with
  | some text =>
      pure (.download (title ++ "_" ++ detectedType.name ++ "_data.csv")
        (Enhanced.commonHeader title detectedType now ++ text))
  | none => pure .nothing

end PanelExport
