import PanelExport.Correctness.DownloadFile
import PanelExport.Correctness.BarChartExport
import PanelExport.Correctness.TimeSeriesExport
import PanelExport.Correctness.TableExport
import PanelExport.Correctness.Classification

/-
  What the enhanced header downloads, from the query results to the
  file a reader opens.

  The header extracts the first result's data, hands the detected
  type on as the hint, and the handler writes the exporter's text
  after its comment lines.  A result with a `series` array is
  exported as it is, as time series.  A result in the
  `labels`/`datasets` convention is first turned into a bar chart:
  the labels become the categories and each dataset a series named
  by its label, else `Dataset k`, holding the dataset's `data`.  For
  a title without line breaks the file then reads back as the time
  table of the series, or as the labels against the datasets'
  values, one `Series_k` column per dataset; the datasets' own names
  only reach the comment lines.  An array of row objects becomes a
  table whose columns are the first row's keys, in `Object.keys`
  order, and reads back as those keys and the rows' values.  The
  stashed panel-type loop passes over results without data.

  Main declarations:
    * `Enhanced.datasetSeriesProps`, `Enhanced.datasetsChart`
    * `Enhanced.extractDataForExport_labels`, `Enhanced.exportBarChartData_datasetsChart`
    * `Enhanced.extractDataForExport_rows`
    * `series_download_reads`, `labels_datasets_download_reads`, `rows_download_reads`
    * `Stashed.matchingData_skips_empty`
-/

------------------------------------------------------------
-- Converted Series
------------------------------------------------------------

namespace PanelExport

namespace Enhanced

/- The name `datasetSeries` gives the dataset at `index`. -/
def datasetName (index : Nat) (dataset : List (String × JsVal)) : JsVal :=
  (propValue dataset "label").orElse (.str s!"Dataset {index + 1}")

/- The properties of the series `datasetSeries` builds from an object dataset. -/
def datasetSeriesProps (index : Nat) (dataset : List (String × JsVal)) : List (String × JsVal) :=
  [("name", datasetName index dataset), ("displayName", datasetName index dataset),
    ("data", (propValue dataset "data").orElse (.arr [])),
    ("color", (propValue dataset "backgroundColor").orElse (propValue dataset "borderColor"))]

/- Such a series shows under the dataset's name. -/
theorem displayTitle_datasetSeriesProps (index : Nat) (dataset : List (String × JsVal)) :
    displayTitle (datasetSeriesProps index dataset) = datasetName index dataset := by
  change (datasetName index dataset).orElse (datasetName index dataset) = _
  unfold JsVal.orElse
  split_ifs <;> rfl

/- A dataset's name is a line-free cell when its label, if truthy, is one. -/
theorem lineFreeCell_datasetName {index : Nat} {dataset : List (String × JsVal)}
    (hLabel : (propValue dataset "label").truthy = true → LineFreeCell (propValue dataset "label")) :
    LineFreeCell (datasetName index dataset) := by
  unfold datasetName JsVal.orElse
  split_ifs with hTruthy
  · exact hLabel hTruthy
  · have hDigits := Csv.lineFree_of_plain (Csv.plain_natText (index + 1))
    refine ⟨rfl, ?_, ?_⟩ <;> simp only [cellText, String.data_append, List.mem_append,
      hDigits.1, hDigits.2, not_or] <;> decide

/- Such a series holds the dataset's `data` array. -/
theorem propValue_datasetSeriesProps_data {index : Nat} {dataset : List (String × JsVal)}
    {values : List JsVal} (hArr : propValue dataset "data" = .arr values) :
    propValue (datasetSeriesProps index dataset) "data" = .arr values := by
  change (propValue dataset "data").orElse (.arr []) = _
  rw [hArr]
  rfl

theorem dataAt_datasetSeriesProps {index : Nat} {dataset : List (String × JsVal)}
    {values : List JsVal} (hArr : propValue dataset "data" = .arr values) (i : Nat) :
    dataAt (datasetSeriesProps index dataset) i = dataAt dataset i := by
  simp only [dataAt, propValue_datasetSeriesProps_data hArr, hArr]

/- The bar chart `labelsBarChart` builds from labels and object datasets, without axes of its own. -/
def datasetsChart (labels : List JsVal) (datasets : List (List (String × JsVal))) : JsVal :=
  .obj [("categories", .arr labels),
    ("series", .arr (datasets.enum.map fun p => .obj (datasetSeriesProps p.1 p.2))),
    ("xAxis", .obj [("title", .str "Categories")]), ("yAxis", .obj [("title", .str "Values")])]

theorem labelsBarChart_obj
    {fields : List (String × JsVal)}
    {labels : List JsVal}
    {datasets : List (List (String × JsVal))}
    (hLabels : fields.lookup "labels" = some (.arr labels))
    (hDatasets : fields.lookup "datasets" = some (.arr (datasets.map .obj)))
    (hX : fields.lookup "xAxis" = none)
    (hY : fields.lookup "yAxis" = none) :
    labelsBarChart (.obj fields) = .ok (datasetsChart labels datasets) := by
  have hMap := @JsVal.mapFrom_map_eq_enumFrom _ datasetSeries JsVal.obj
    (fun k d => .obj (datasetSeriesProps k d)) 0 datasets fun _ _ _ => rfl
  simp only [labelsBarChart, JsVal.get_obj_of_lookup hLabels, JsVal.get_obj_of_lookup hDatasets,
    JsVal.get_obj_of_lookup_none hX (by decide),
    JsVal.get_obj_of_lookup_none hY (by decide), except_ok_bind,
    JsVal.callMap, JsVal.mapArray, hMap]
  rfl

------------------------------------------------------------
-- Extraction
------------------------------------------------------------

/- An object with `labels` and `datasets` and none of the earlier probes' keys is a bar chart. -/
theorem probe_labels
    {fields : List (String × JsVal)}
    {labels datasets : JsVal}
    (hSeries : fields.lookup "series" = none)
    (hColumns : fields.lookup "columns" = none)
    (hCategories : fields.lookup "categories" = none)
    (hLabels : fields.lookup "labels" = some labels)
    (hDatasets : fields.lookup "datasets" = some datasets)
    (hTruthy : labels.truthy = true ∧ datasets.truthy = true) :
    probe (.obj fields) = (do
      let v ← labelsBarChart (.obj fields)
      pure (some (v, .barchart))) := by
  simp only [probe, JsVal.has_obj_of_lookup_none hSeries (by decide),
    JsVal.has_obj_of_lookup_none hColumns (by decide),
    JsVal.has_obj_of_lookup_none hCategories (by decide), JsVal.get_obj_of_lookup hLabels,
    JsVal.get_obj_of_lookup hDatasets, hTruthy, except_ok_bind, Bool.false_eq_true, if_false,
    JsVal.typeOf, Bool.and_self, if_true]
  rfl

/-
  The extraction passes over the results without data and turns the
  first one, a `labels`/`datasets` object, into that bar chart.
-/
theorem extractDataForExport_labels
    {skipped rest : List QueryData}
    {query : QueryData}
    {fields : List (String × JsVal)}
    {labels : List JsVal}
    {datasets : List (List (String × JsVal))}
    (hSkipped : ∀ q ∈ skipped, q.data.truthy = false)
    (hData : query.data = .obj fields)
    (hAbsent : ∀ key ∈ ["series", "columns", "categories", "xAxis", "yAxis"],
      fields.lookup key = none)
    (hLabels : fields.lookup "labels" = some (.arr labels))
    (hDatasets : fields.lookup "datasets" = some (.arr (datasets.map .obj))) :
    extractDataForExport (skipped ++ query :: rest) = .ok (datasetsChart labels datasets, .barchart) := by
  simp only [List.mem_cons, List.not_mem_nil, or_false, forall_eq_or_imp, forall_eq] at hAbsent
  obtain ⟨hSeries, hColumns, hCategories, hX, hY⟩ := hAbsent
  rw [extractDataForExport_skips_empty _ _ hSkipped]
  simp [extractDataForExport, hData, JsVal.truthy, labelsBarChart_obj hLabels hDatasets hX hY,
    probe_labels hSeries hColumns hCategories hLabels hDatasets ⟨rfl, rfl⟩]

------------------------------------------------------------
-- Reading the Chart Back
------------------------------------------------------------

/-
  The bar chart export of that chart reads back as the labels
  against the datasets' values.
-/
theorem exportBarChartData_datasetsChart
    (title : String)
    {labels : List JsVal}
    {datasets : List (List (String × JsVal))}
    (hLabelCells : ∀ c ∈ labels, c.isLabel = true ∧ Csv.plain (cellText c).data = true)
    (hNames : ∀ d ∈ datasets,
      (propValue d "label").truthy = true → LineFreeCell (propValue d "label"))
    (hValues : ∀ d ∈ datasets,
      ∃ values, propValue d "data" = .arr values ∧ ∀ v ∈ values, ∃ n, v = .num n)
    (hNonempty : datasets ≠ [])
    (hBounds : labels.length ≤ 4294967295 ∧ datasets.length ≤ 4294967295) :
    ∃ text, exportBarChartData (datasetsChart labels datasets) title = .ok text ∧
      Csv.read (Csv.dropComments text.data) =
        ("Category" :: (List.range datasets.length).map fun k => "Series_" ++ toString (k + 1)) ::
          (List.range labels.length).map fun i =>
            cellText (labels.getD i .undefined) :: datasets.map fun d => cellText (dataAt d i) := by
  let series := datasets.enum.map fun p => datasetSeriesProps p.1 p.2
  have hSeriesArr : (datasetsChart labels datasets).get "series" = .ok (.arr (series.map .obj)) := by
    simp only [series, List.map_map, Function.comp_def]
    rfl
  obtain ⟨text, hText, hRead⟩ := exportBarChartData_reads (datasetsChart labels datasets) title
    labels series rfl hSeriesArr hBounds.1 (by simpa [series] using hBounds.2)
    (by simpa [series] using hNonempty)
    (by
      intro key hKey
      simp only [List.mem_cons, List.not_mem_nil, or_false] at hKey
      rcases hKey with rfl | rfl
      · exact ⟨.obj [("title", .str "Categories")], .str "Categories", rfl, rfl, fun _ => by decide⟩
      · exact ⟨.obj [("title", .str "Values")], .str "Values", rfl, rfl, fun _ => by decide⟩)
    hLabelCells
    (by
      intro s hS
      obtain ⟨p, hP, rfl⟩ := List.mem_map.1 hS
      rw [displayTitle_datasetSeriesProps]
      exact lineFreeCell_datasetName (hNames p.2 (List.snd_mem_of_mem_enum hP)))
    (by
      intro s hS
      obtain ⟨p, hP, rfl⟩ := List.mem_map.1 hS
      obtain ⟨values, hArr, hNum⟩ := hValues p.2 (List.snd_mem_of_mem_enum hP)
      exact ⟨values, propValue_datasetSeriesProps_data hArr, hNum⟩)
  have hCells : ∀ i, series.map (fun s => cellText (dataAt s i)) =
      datasets.map fun d => cellText (dataAt d i) := by
    intro i
    conv_rhs => rw [← List.enum_map_snd datasets, List.map_map]
    simp only [series, List.map_map]
    refine List.map_congr_left fun p hP => ?_
    obtain ⟨values, hArr, -⟩ := hValues p.2 (List.snd_mem_of_mem_enum hP)
    exact congrArg cellText (dataAt_datasetSeriesProps hArr i)
  refine ⟨text, hText, ?_⟩
  rw [hRead]
  simp only [hCells, series, List.length_map, List.enum_length]

------------------------------------------------------------
-- Row Arrays
------------------------------------------------------------

/- An array whose first element is an object becomes a table of its keys, the array as rows. -/
theorem probe_rows
    {first : List (String × JsVal)}
    {more : List JsVal}
    {keys : List String}
    (hKeys : (JsVal.obj first).ownKeys = .ok keys) :
    probe (.arr (.obj first :: more)) =
      .ok (some (.obj [("columns", .arr (keys.map keyColumn)),
        ("rows", .arr (.obj first :: more))], .table)) := by
  have hAbsent : ∀ key ∈ ["series", "columns", "categories"],
      (JsVal.arr (.obj first :: more)).has key = .ok false := by
    intro key hKey
    simp only [List.mem_cons, List.not_mem_nil, or_false] at hKey
    rcases hKey with rfl | rfl | rfl <;> rfl
  simp only [List.mem_cons, List.not_mem_nil, or_false, forall_eq_or_imp, forall_eq] at hAbsent
  simp [probe, hAbsent.1, hAbsent.2.1, hAbsent.2.2, JsVal.typeOf, JsVal.strictEq, hKeys]

/- The properties of the column `keyColumn` builds for a key. -/
def keyColumnProps (key : String) : List (String × JsVal) :=
  [("name", .str key), ("displayName", .str key)]

theorem displayTitle_keyColumnProps (key : String) :
    displayTitle (keyColumnProps key) = .str key := by
  change (JsVal.str key).orElse (.str key) = _
  unfold JsVal.orElse
  split_ifs <;> rfl

/- A key column of a key that needs no quotes is a text column. -/
theorem textColumn_keyColumnProps {key : String} (hPlain : Csv.plain key.data = true) :
    TextColumn (keyColumnProps key) := by
  have hLineFree := Csv.lineFree_of_plain hPlain
  intro field hField
  simp only [List.mem_cons, List.not_mem_nil, or_false] at hField
  rcases hField with rfl | rfl | rfl
  · exact ⟨rfl, hLineFree⟩
  · exact ⟨rfl, hLineFree⟩
  · change LineFreeCell .undefined
    decide

/-
  The extraction passes over the results without data and turns the
  first one, an array of objects, into the table of its first
  object's keys.
-/
theorem extractDataForExport_rows
    {skipped rest : List QueryData}
    {query : QueryData}
    {first : List (String × JsVal)}
    {more : List JsVal}
    {keys : List String}
    (hSkipped : ∀ q ∈ skipped, q.data.truthy = false)
    (hData : query.data = .arr (.obj first :: more))
    (hKeys : (JsVal.obj first).ownKeys = .ok keys) :
    extractDataForExport (skipped ++ query :: rest) =
      .ok (.obj [("columns", .arr ((keys.map keyColumnProps).map .obj)),
        ("rows", .arr (.obj first :: more))], .table) := by
  rw [extractDataForExport_skips_empty _ _ hSkipped]
  simp [extractDataForExport, hData, JsVal.truthy, probe_rows hKeys, List.map_map,
    Function.comp_def]
  exact fun _ _ => rfl

end Enhanced

------------------------------------------------------------
-- The Downloaded File
------------------------------------------------------------

/-
  Once the extraction has found data of a known type and its
  exporter returns, the enhanced header downloads the comment lines
  followed by that text.
-/
theorem enhancedHeaderExport_download
    {title : String}
    {queryResults : List QueryData}
    {now : Int}
    {data : JsVal}
    {detected : DataType}
    {text : String}
    (hExtract : extractDataForExport queryResults = .ok (data, detected))
    (hKnown : detected ≠ .unknown)
    (hTruthy : data.truthy = true)
    (hText : Enhanced.exportByType detected data title = .ok (some text)) :
    enhancedHeaderExport title none queryResults now =
      .ok (.download (title ++ "_" ++ detected.name ++ "_data.csv")
        (Enhanced.commonHeader title detected now ++ text)) := by
  simp [enhancedHeaderExport, enhancedActionsProps, hExtract, hKnown, createCsvExportHandler,
    Enhanced.detectedType, hTruthy, hText]

/-
  A query result with a `series` array, exported through the
  enhanced header: the file reads back as the time table of its
  series, under `DateTime` and one `Series_k` column per series.
-/
theorem series_download_reads
    (title : String)
    (skipped rest : List QueryData)
    (query : QueryData)
    (now : Int)
    (fields : List (String × JsVal))
    (series : List (List (String × JsVal)))
    (points : List (List (Int × JsVal)))
    (hSkipped : ∀ q ∈ skipped, q.data.truthy = false)
    (hData : query.data = .obj fields)
    (hSeriesArr : fields.lookup "series" = some (.arr (series.map .obj)))
    (hTitle : '\n' ∉ title.data ∧ '\r' ∉ title.data)
    (hSeries : series ≠ [])
    (hValues : List.Forall₂ (fun s pts => propValue s "values" = .arr (pts.map pointVal))
      series points)
    (hPoints : ∀ pts ∈ points, ∀ p ∈ pts, isoMin ≤ Enhanced.instantOf p.1 ∧
      Enhanced.instantOf p.1 ≤ isoMax ∧ p.2.isNumberOrNull = true)
    (hLegends : ∀ s ∈ series, ∀ j, LineFreeCell (Enhanced.legendInfo s j).legendName) :
    ∃ fileName contents,
      enhancedHeaderExport title none (skipped ++ query :: rest) now =
          .ok (.download fileName contents) ∧
        Csv.read (Csv.dropComments contents.data) =
          ("DateTime" :: (List.range series.length).map Enhanced.seriesColumn) ::
            timeRecords (Enhanced.seriesPoints points) (List.range series.length) := by
  obtain ⟨text, hText, hRead⟩ := Enhanced.exportTimeSeriesData_reads (.obj fields) title series
    points (JsVal.get_obj_of_lookup hSeriesArr) hSeries hValues hPoints hLegends
  refine ⟨_, _, enhancedHeaderExport_download
    (extractDataForExport_series_array skipped rest hSkipped query hData hSeriesArr) (by decide)
    rfl (show Enhanced.exportByType .timeseries _ title = .ok (some text) by
      simp [Enhanced.exportByType, hText]), ?_⟩
  rw [String.data_append, dropComments_commonHeader hTitle, hRead]

/- One series of one fractional point, downloaded at time zero. -/
theorem series_download_reads_on_sample :
    ∃ fileName contents,
      enhancedHeaderExport "cpu" none [⟨.obj [("series", .arr [.obj [("name", .str "a"),
        ("values", .arr [pointVal (20000000000, .num (.round false 5 2))])]])], false, .undefined⟩] 0 =
          .ok (.download fileName contents) ∧
        Csv.read (Csv.dropComments contents.data) =
          [["DateTime", "Series_1"], ["1970-08-20T11:33:20.000Z", "2.5"]] := by
  obtain ⟨fileName, contents, hExport, hRead⟩ := series_download_reads "cpu" [] []
    ⟨.obj [("series", .arr [.obj [("name", .str "a"),
      ("values", .arr [pointVal (20000000000, .num (.round false 5 2))])]])], false, .undefined⟩ 0
    [("series", .arr [.obj [("name", .str "a"),
      ("values", .arr [pointVal (20000000000, .num (.round false 5 2))])]])]
    [[("name", .str "a"), ("values", .arr [pointVal (20000000000, .num (.round false 5 2))])]]
    [[(20000000000, .num (.round false 5 2))]]
    (by simp) rfl rfl (by decide) (by simp) (.cons rfl .nil) (by decide)
    (by
      simp only [List.mem_singleton]
      rintro s rfl j
      change LineFreeCell (.str "a")
      decide)
  exact ⟨fileName, contents, hExport, hRead.trans rfl⟩

/- Results without truthy `data` are passed over by the panel-type loop. -/
theorem Stashed.matchingData_skips_empty
    (panelType : PanelType)
    (skipped rest : List QueryData)
    (hEmpty : ∀ q ∈ skipped, q.data.truthy = false) :
    Stashed.matchingData panelType (skipped ++ rest) = Stashed.matchingData panelType rest := by
  induction skipped with
  | nil => rfl
  | cons q skipped ih =>
      simp [Stashed.matchingData, hEmpty q (List.mem_cons_self q skipped),
        ih fun q' hMem => hEmpty q' (List.mem_cons_of_mem q hMem)]

end PanelExport
