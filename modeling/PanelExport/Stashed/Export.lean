import PanelExport.Stashed.Classify
import PanelExport.Csv.RoundTrip
import PanelExport.Js.Date

/-
  CSV serialisation in the stashed pipeline.

  The stashed exporters write no comment lines.  Time series
  columns are the distinct truthy series names; bar charts have a
  categories form, a flattened-tuple form and an index form;
  tables write the column strings and then each row array, quoting
  cells that hold a comma, a quote or a line feed.
  `exportGenericData` is defined beside them but never called.
  The handler catches every exception its body raises and
  downloads only a non-empty text.

  `new Set(...)` keeps the first of equal primitives and every
  object, objects being distinct references in a parsed payload;
  `===` between a tuple's field and a set member compares
  primitives by value and objects by the tuple they came from.

  Main declarations:
    * `Stashed.exportTimeSeriesData`
    * `Stashed.exportBarChartData`
    * `Stashed.exportTableData`, `Stashed.exportGenericData`
    * `Stashed.selectData`, `Stashed.csvExportHandler`
-/

------------------------------------------------------------
-- Sets of Values
------------------------------------------------------------

namespace PanelExport

namespace Stashed

/-
  `[...new Set(values)]` from position `i`, each member with the
  position it was first seen at.
-/
def uniqueFrom :
    Nat → List (JsVal × Nat) → List JsVal → List (JsVal × Nat)
  | _, seen, [] => seen
  | i, seen, v :: vs =>
      if v.isPrimitive && seen.any (fun u => u.1.sameValueZero v) then
        uniqueFrom (i + 1) seen vs
      else uniqueFrom (i + 1) (seen ++ [(v, i)]) vs

/- The members of `new Set(values)` with their first positions. -/
def uniqueWithSource (values : List JsVal) : List (JsVal × Nat) :=
  uniqueFrom 0 [] values

/- `v === member` for the value `v` at position `j`. -/
def sameAs (v : JsVal) (j : Nat) (member : JsVal × Nat) : Bool :=
  if v.isPrimitive then v.strictEq member.1 else j == member.2

/- The stashed quoting rule: quote on a comma, quote or line feed. -/
def escapeCell (text : String) : String :=
  if ',' ∈ text.toList ∨ '"' ∈ text.toList ∨ '\n' ∈ text.toList then
    String.mk (Csv.quoteField text.toList)
  else text

------------------------------------------------------------
-- Time Series
------------------------------------------------------------

/- The entries loop of a named series: `new Date(entry[0])` rows. -/
def collectNamedEntries (name : JsVal) :
    List (String × Props) → List JsVal →
      Except JsError (List (String × Props))
  | rows, [] => pure rows
  | rows, entry :: rest => do
      let dateTime ← toISOString (← dateValue (← entry.get "0"))
      let value ← entry.get "1"
      let key ← name.toStr
      collectNamedEntries name (setCell rows dateTime key value) rest

/-
  The series loop: series without a truthy `name` or a `values`
  array are skipped; the others' names are collected in order.
-/
def collectNamedSeries :
    List JsVal × List (String × Props) → List JsVal →
      Except JsError (List JsVal × List (String × Props))
  | acc, [] => pure acc
  | (names, rows), series :: rest => do
      let name ← series.getOpt "name"
      if !name.truthy then return ← collectNamedSeries (names, rows) rest
      match ← series.get "values" with
      | .arr entries =>
          let rows ← collectNamedEntries name rows entries
          collectNamedSeries (names ++ [name], rows) rest
      | _ => collectNamedSeries (names, rows) rest

/- One data row: the time, then `rowData[name] ?? ''` per column. -/
def namedRowLine (columns : List JsVal) (rows : List (String × Props))
    (dateTime : String) : Except JsError String := do
  let rowData : JsVal := .obj ((rows.lookup dateTime).getD [])
  let temp ← columns.mapM fun name => do
    let cell ← rowData.getComputed name
    pure (cell.ifNullish (.str ""))
  let cells ← JsVal.join "," temp
  pure (dateTime ++ "," ++ cells ++ "\n")

/- `exportTimeSeriesData` of the stashed `PanelActions`. -/
def exportTimeSeriesData (data : JsVal) : Except JsError String := do
  if !data.truthy then return ""
  match ← data.get "series" with
  | .arr seriesList@(_ :: _) =>
      let (names, rows) ← collectNamedSeries ([], []) seriesList
      let columns := (uniqueWithSource names).map Prod.fst
      let header ← JsVal.join "," columns
      let body ← (sortStrings (rows.map Prod.fst)).mapM
        (namedRowLine columns rows)
      pure ("DateTime," ++ header ++ "\n" ++ String.join body)
  | _ => pure ""

------------------------------------------------------------
-- Bar Charts
------------------------------------------------------------

/- `Math.max` of two numbers: `NaN` wins over everything. -/
def maxNum : JsNum → JsNum → JsNum
  | .nan, _ => .nan
  | _, .nan => .nan
  | .inf true, b => b
  | a, .inf true => a
  | .inf false, _ => .inf false
  | _, .inf false => .inf false
  | .int a, .int b => .int (max a b)
  | a, b => if JsNum.finiteLt a b then b else a

/- `Math.max(...values)`: `-Infinity` for no values. -/
def mathMax (values : List JsVal) : Except JsError JsNum := do
  let nums ← values.mapM JsVal.toNumber
  pure (nums.foldl maxNum (.inf true))

/- `s.data[i] ?? ''`. -/
def seriesCell (i : Nat) (_index : Nat) (s : JsVal) :
    Except JsError JsVal := do
  let value ← (← s.get "data").get (toString i)
  pure (value.ifNullish (.str ""))

/- `${label},${values.join(',')}` and a line feed. -/
def labelledLine (label : JsVal) (values : List JsVal) :
    Except JsError String := do
  let labelText ← label.toStr
  let cells ← JsVal.join "," values
  pure (labelText ++ "," ++ cells ++ "\n")

/- The `categories` form: one row per category index. -/
def categoryRows (categories series : JsVal) : Except JsError String := do
  let seriesNames ← series.mapArray fun _ s => s.get "name"
  let header ← JsVal.join "," seriesNames
  let count ← (← categories.get "length").loopCount
  let lines ← (List.range count).mapM fun i => do
    let values ← series.mapArray (seriesCell i)
    labelledLine (← categories.get (toString i)) values
  pure ("Category," ++ header ++ "\n" ++ String.join lines)

/- `d.series || 'Value'`. -/
def tupleSeries (d : JsVal) : Except JsError JsVal := do
  pure ((← d.get "series").orElse (.str "Value"))

/-
  `data.find(d => d.category === category && (d.series || 'Value')
  === seriesName)` from position `i`.
-/
def findTuple (category seriesName : JsVal × Nat) :
    Nat → List JsVal → Except JsError (Option JsVal)
  | _, [] => pure none
  | i, d :: ds => do
      if sameAs (← d.get "category") i category then
        if sameAs (← tupleSeries d) i seriesName then
          return some d
      findTuple category seriesName (i + 1) ds

/- The cell of one category and series: the first match's value. -/
def tupleCell (tuples : List JsVal) (category seriesName : JsVal × Nat) :
    Except JsError JsVal := do
  match ← findTuple category seriesName 0 tuples with
  | some item => pure ((← item.get "value").ifNullish (.str ""))
  | none => pure (.str "")

/- The flattened form: series and categories in first-seen order. -/
def flattenedRows (tuples : List JsVal) : Except JsError String := do
  let seriesNames := uniqueWithSource (← tuples.mapM tupleSeries)
  let categories := uniqueWithSource (← tuples.mapM fun d => d.get "category")
  let header ← JsVal.join "," (seriesNames.map Prod.fst)
  let lines ← categories.mapM fun category => do
    let values ← seriesNames.mapM (tupleCell tuples category)
    labelledLine category.1 values
  pure ("Category," ++ header ++ "\n" ++ String.join lines)

/- The index form: rows up to the longest `data` array. -/
def indexRows (series : JsVal) : Except JsError String := do
  let seriesNames ← series.mapArray fun _ s => s.get "name"
  let header ← JsVal.join "," seriesNames
  let lengths ← series.mapArray fun _ s => do (← s.get "data").get "length"
  let count ← (JsVal.num (← mathMax lengths)).loopCount
  let lines ← (List.range count).mapM fun i => do
    let values ← series.mapArray (seriesCell i)
    labelledLine (.num (.int i)) values
  pure ("Index," ++ header ++ "\n" ++ String.join lines)

/- `exportBarChartData` of the stashed `PanelActions`. -/
def exportBarChartData (data : JsVal) : Except JsError String := do
  let categories ← data.get "categories"
  let series ← data.get "series"
  if categories.truthy && series.truthy then
    return ← categoryRows categories series
  if let .arr tuples ← data.get "data" then
    return ← flattenedRows tuples
  if series.truthy && !categories.truthy then
    return ← indexRows series
  return ""

------------------------------------------------------------
-- Tables and Generic Data
------------------------------------------------------------

/- One row array, each cell `String(cell ?? '')` escaped. -/
def tableRowLine (row : JsVal) : Except JsError String := do
  let escapedRow ← row.mapArray fun _ cell => do
    let cellStr ← (cell.ifNullish (.str "")).toStr
    pure (.str (escapeCell cellStr))
  let text ← JsVal.join "," escapedRow
  pure (text ++ "\n")

/- `exportTableData` of the stashed `PanelActions`. -/
def exportTableData (data : JsVal) : Except JsError String := do
  let columns ← data.get "columns"
  let rows ← data.get "rows"
  if !columns.truthy || !rows.truthy then return ""
  let header ← match columns with
    | .arr names => JsVal.join "," names
    | _ => .error .typeError
  let lines ← (← rows.iterate).mapM tableRowLine
  pure (header ++ "\n" ++ String.join lines)

/- One item's values at the first item's keys, escaped. -/
def genericRowLine (keys : List String) (item : JsVal) :
    Except JsError String := do
  let values ← keys.mapM fun key => do
    let value ← item.get key
    if value.isNullish then pure "" else escapeCell <$> value.toStr
  pure (",".intercalate values ++ "\n")

/- The array branch: a table keyed by the first item's keys. -/
def genericArray : List JsVal → Except JsError String
  | [] => pure ""
  | items@(first :: _) =>
      if first.typeOf = "object" then do
        let keys ← first.ownKeys
        let lines ← items.mapM (genericRowLine keys)
        pure (",".intercalate keys ++ "\n" ++ String.join lines)
      else pure ""

/- One `key,value` line of the `Property,Value` dump. -/
def propertyLine (entry : String × JsVal) : Except JsError String := do
  let valueStr ← (entry.2.ifNullish (.str "")).toStr
  pure (entry.1 ++ "," ++ escapeCell valueStr ++ "\n")

/- A non-empty array value. -/
def nonEmptyArray : JsVal → Bool
  | .arr (_ :: _) => true
  | _ => false

/-
  `exportGenericData`: an array of objects as a table; an object
  through its first non-empty array property, else as a
  `Property,Value` dump; anything else empty.
-/
def exportGenericData : JsVal → Except JsError String
  | .arr items => genericArray items
  | .obj props =>
      match (JsVal.entries props).find? (nonEmptyArray ·.2) with
      | some (_, .arr items) => genericArray items
      | _ => do
          let lines ← (JsVal.entries props).mapM propertyLine
          pure ("Property,Value\n" ++ String.join lines)
  | _ => pure ""

------------------------------------------------------------
-- Export Handler
------------------------------------------------------------

/- The first list element whose truthy `data` a guard accepts. -/
def firstExportableData : List JsVal → Except JsError (Option JsVal)
  | [] => pure none
  | query :: rest => do
      let data ← query.get "data"
      if data.truthy then
        if ← isExportable data then return some data
      firstExportableData rest

/-
  The payload the handler exports: the first exportable `data` of
  a list, then the `data` of any object that has that key.
-/
def selectData (queryResults : JsVal) : Except JsError JsVal := do
  let dataToExport ← match queryResults with
    | .arr queries => do
        pure ((← firstExportableData queries).getD queryResults)
    | _ => pure queryResults
  if isObjectValue dataToExport then
    if ← dataToExport.has "data" then
      return ← dataToExport.get "data"
  return dataToExport

/- The exporter the guards pick, in the handler's order. -/
def exportSelected (dataToExport : JsVal) : Except JsError String := do
  if ← isTimeSeriesData dataToExport then
    return ← exportTimeSeriesData dataToExport
  if ← isBarChartData dataToExport then
    return ← exportBarChartData dataToExport
  if ← isTableData dataToExport then
    return ← exportTableData dataToExport
  return ""

/-
  Invoking the stashed `csvExportHandler`: exceptions of the body
  are caught and end the handler; a non-empty text is downloaded.
-/
def csvExportHandler (title : String) (queryResults : JsVal)
    (panelType : PanelType) : Except JsError ExportOutcome := do
  if !queryResults.truthy then return .nothing
  match selectData queryResults >>= exportSelected with
  | .error .nonTermination => .error .nonTermination
  | .error _ => return .nothing
  | .ok csvString =>
      if csvString.isEmpty then return .nothing
      return .download (title ++ "_" ++ panelType.name ++ "Data.csv")
        csvString

end Stashed

end PanelExport
