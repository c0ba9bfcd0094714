import PanelExport.Correctness.HeaderDownload

/-
  What each header makes of the other pipeline's table shape.

  The enhanced exporter reads a table as columns `{name,
  displayName?, type?}` and record rows, each cell at
  `row[col.name]`; the stashed one as column strings and row
  arrays, each row mapped with `row.map`.  Both headers take either
  shape for a table.  A string has no `name` or `displayName` and
  an array no property `undefined`, so on the stashed shape the
  enhanced header downloads a file whose every field is empty.  A
  record row has no `map`, so on the enhanced shape the stashed
  exporter raises at the first row and the stashed header, which
  catches that, downloads nothing.

  Main declarations:
    * `Enhanced.exportTableData_str_columns`, `Enhanced.extractDataForExport_columns_rows`
    * `text_columns_download_empty`
    * `Stashed.exportTableData_record_rows`, `record_rows_download_nothing`
-/

------------------------------------------------------------
-- String Columns
------------------------------------------------------------

namespace PanelExport

namespace Enhanced

/- A string has no own or inherited `name`, `displayName` or `type`. -/
theorem get_str_column_keys (s : String) :
    (JsVal.str s).get "name" = .ok .undefined ∧ (JsVal.str s).get "displayName" = .ok .undefined ∧
      (JsVal.str s).get "type" = .ok .undefined :=
  ⟨rfl, rfl, rfl⟩

/- The comment of a string column: its name and its title both read as `undefined`. -/
theorem columnComment_str (s : String) :
    columnComment (.str s) = .ok "# undefined: undefined\n" := by
  obtain ⟨hName, hDisplay, hType⟩ := get_str_column_keys s
  simp [columnComment, hName, hDisplay, hType, JsVal.toStr, JsVal.orElse, JsVal.truthy]

theorem columnHeader_str (i : Nat) (s : String) : columnHeader i (.str s) = .ok .undefined := by
  obtain ⟨hName, hDisplay, -⟩ := get_str_column_keys s
  simp [columnHeader, hName, hDisplay, JsVal.orElse]

/- An array row read at a string column: `row[undefined]`, which no array holds. -/
theorem tableCell_arr_str (row : List JsVal) (i : Nat) (s : String) :
    tableCell (.arr row) i (.str s) = .ok (.str "") := by
  obtain ⟨hName, -, -⟩ := get_str_column_keys s
  have hCell : (JsVal.arr row).get "undefined" = .ok .undefined := rfl
  simp [tableCell, hName, JsVal.getComputed, JsVal.toStr, hCell, JsVal.isNullish]

/-
  The enhanced table exporter on string columns and array rows:
  one `undefined` comment per column, then a header line and one
  line per row, every field of them empty.
-/
theorem exportTableData_str_columns
    {data : JsVal}
    {title : String}
    {cols : List String}
    {rows : List (List JsVal)}
    (hColumns : data.get "columns" = .ok (.arr (cols.map .str)))
    (hRows : data.get "rows" = .ok (.arr (rows.map .arr))) :
    exportTableData data title =
      .ok ("# Column Information:\n" ++ String.join (List.replicate cols.length "# undefined: undefined\n") ++
        "#\n" ++ Csv.document (List.replicate (rows.length + 1) (List.replicate cols.length ""))) := by
  have hComments := except_mapM_eq_ok (f := columnComment) (l := cols.map .str)
    (g := fun _ => "# undefined: undefined\n") (by
      simp only [List.mem_map]
      rintro _ ⟨s, -, rfl⟩
      exact columnComment_str s)
  have hHeaders := JsVal.mapArray_eq_map (f := columnHeader) (l := cols.map .str)
    (g := fun _ => .undefined) (by
      simp only [List.mem_map]
      rintro j _ ⟨s, -, rfl⟩
      exact columnHeader_str j s)
  have hRowLines := except_mapM_eq_ok (f := tableRowLine (.arr (cols.map .str)))
    (l := rows.map .arr) (g := fun _ => ",".intercalate (List.replicate cols.length "") ++ "\n") (by
      simp only [List.mem_map]
      rintro _ ⟨row, -, rfl⟩
      have hMap := JsVal.mapArray_eq_map (f := tableCell (.arr row)) (l := cols.map .str)
        (g := fun _ => .str "") (by
          simp only [List.mem_map]
          rintro j _ ⟨s, -, rfl⟩
          exact tableCell_arr_str row j s)
      simp [tableRowLine, hMap, JsVal.join_cells, Function.comp_def, List.map_const'])
  have hHeaderText := JsVal.join_cells "," (l := (cols.map JsVal.str).map fun _ => .undefined)
    (by simp [JsVal.isCell])
  simp only [exportTableData, hColumns, hRows, except_ok_bind, JsVal.truthy_arr, JsVal.iterate,
    hComments, hHeaders, hHeaderText, hRowLines]
  rw [List.replicate_succ, Csv.document_cons]
  simp [Csv.document, cellText, String.append_assoc, Function.comp_def, List.map_const']

/- An object with `columns` and `rows` and no `series` is a table as it is. -/
theorem probe_columns_rows
    {props : List (String × JsVal)}
    {columns rows : JsVal}
    (hNoSeries : props.lookup "series" = none)
    (hColumns : props.lookup "columns" = some columns)
    (hRows : props.lookup "rows" = some rows) :
    probe (.obj props) = .ok (some (.obj props, .table)) := by
  simp [probe, JsVal.has_obj_of_lookup_none hNoSeries (by decide), JsVal.has_obj_of_lookup hColumns,
    JsVal.has_obj_of_lookup hRows]

theorem extractDataForExport_columns_rows
    {skipped rest : List QueryData}
    {query : QueryData}
    {props : List (String × JsVal)}
    {columns rows : JsVal}
    (hSkipped : ∀ q ∈ skipped, q.data.truthy = false)
    (hData : query.data = .obj props)
    (hNoSeries : props.lookup "series" = none)
    (hColumns : props.lookup "columns" = some columns)
    (hRows : props.lookup "rows" = some rows) :
    extractDataForExport (skipped ++ query :: rest) = .ok (.obj props, .table) := by
  rw [extractDataForExport_skips_empty _ _ hSkipped]
  simp [extractDataForExport, hData, probe_columns_rows hNoSeries hColumns hRows]

end Enhanced

/-
  A table in the stashed shape, string columns and array rows,
  exported through the enhanced header: the exporter reads each
  column's `name` and `displayName` and each cell at
  `row[col.name]`, all `undefined` there, so the file reads back as
  a header and one record per row with every field empty, whatever
  the columns and cells hold.
-/
theorem text_columns_download_empty
    (title : String)
    (skipped rest : List QueryData)
    (query : QueryData)
    (now : Int)
    (fields : List (String × JsVal))
    (cols : List String)
    (rows : List (List JsVal))
    (hSkipped : ∀ q ∈ skipped, q.data.truthy = false)
    (hData : query.data = .obj fields)
    (hNoSeries : fields.lookup "series" = none)
    (hColumns : fields.lookup "columns" = some (.arr (cols.map .str)))
    (hRows : fields.lookup "rows" = some (.arr (rows.map .arr)))
    (hTitle : '\n' ∉ title.data ∧ '\r' ∉ title.data)
    (hColumnsNonempty : cols ≠ []) :
    ∃ fileName contents,
      enhancedHeaderExport title none (skipped ++ query :: rest) now =
          .ok (.download fileName contents) ∧
        Csv.read (Csv.dropComments contents.data) =
          List.replicate (rows.length + 1) (List.replicate cols.length "") := by
  have hExtract : extractDataForExport (skipped ++ query :: rest) = .ok (.obj fields, .table) :=
    Enhanced.extractDataForExport_columns_rows hSkipped hData hNoSeries hColumns hRows
  have hText := @Enhanced.exportTableData_str_columns _ title _ _
    (JsVal.get_obj_of_lookup hColumns) (JsVal.get_obj_of_lookup hRows)
  refine ⟨_, _, enhancedHeaderExport_download hExtract (by decide) rfl
    (show Enhanced.exportByType .table _ title = .ok (some _) from congrArg (some <$> ·) hText), ?_⟩
  obtain ⟨c, cs, rfl⟩ := List.exists_cons_of_ne_nil hColumnsNonempty
  let records := List.replicate (rows.length + 1) (List.replicate (c :: cs).length "")
  have hSplit : ("# Column Information:\n" ++ String.join (List.replicate (c :: cs).length
      "# undefined: undefined\n") ++ "#\n" ++ Csv.document records).data =
      (("# Column Information:\n" :: List.replicate (c :: cs).length "# undefined: undefined\n" ++
        ["#\n"]).map String.data).flatten ++ (Csv.document records).data := by
    simp
  rw [String.data_append, dropComments_commonHeader hTitle, hSplit, Csv.dropComments_append]
  · refine Csv.read_document (List.forall₂_same.2 fun fields hFields => ?_)
    rw [List.eq_of_mem_replicate hFields]
    exact ⟨by simp, List.forall₂_same.2 fun field hField => by
      rw [List.eq_of_mem_replicate hField]
      exact Csv.encodes_plain rfl⟩
  · simp only [List.mem_map]
    rintro _ ⟨line, hLine, rfl⟩
    simp only [List.cons_append, List.mem_cons, List.mem_append, List.mem_replicate,
      List.mem_singleton, List.not_mem_nil, or_false] at hLine
    rcases hLine with rfl | ⟨-, rfl⟩ | rfl
    · exact .inr ⟨" Column Information:".data, rfl, by decide, by decide⟩
    · exact .inr ⟨" undefined: undefined".data, rfl, by decide, by decide⟩
    · exact .inr ⟨[], rfl, by decide, by decide⟩
  · exact Csv.document_head (by simp)

/- Two string columns and one row: two records of two empty fields. -/
theorem text_columns_download_empty_on_sample :
    ∃ fileName contents,
      enhancedHeaderExport "cpu" none [⟨.obj [("columns", .arr [.str "host", .str "cpu"]),
        ("rows", .arr [.arr [.str "a", .num (.int 1)]])], false, .undefined⟩] 0 =
          .ok (.download fileName contents) ∧
        Csv.read (Csv.dropComments contents.data) = [["", ""], ["", ""]] :=
  text_columns_download_empty "cpu" [] []
    ⟨.obj [("columns", .arr [.str "host", .str "cpu"]),
      ("rows", .arr [.arr [.str "a", .num (.int 1)]])], false, .undefined⟩ 0
    [("columns", .arr [.str "host", .str "cpu"]), ("rows", .arr [.arr [.str "a", .num (.int 1)]])]
    ["host", "cpu"] [[.str "a", .num (.int 1)]] (by simp) rfl rfl rfl rfl (by decide) (by simp)

------------------------------------------------------------
-- Record Rows
------------------------------------------------------------

namespace Stashed

/- Joining object values fails, if at all, with a `TypeError`: an own `toString`. -/
theorem elementStrs_objs_error {cols : List (List (String × JsVal))} {e : JsError}
    (hError : JsVal.elementStrs (cols.map .obj) = .error e) : e = .typeError := by
  induction cols with
  | nil => cases hError
  | cons c cs ih =>
      by_cases hOwn : (c.any fun p => p.1 == "toString") = true
      · simp [JsVal.elementStrs, JsVal.isNullish, JsVal.toStr, hOwn] at hError
        exact hError.symm
      · simp [JsVal.elementStrs, JsVal.isNullish, JsVal.toStr, hOwn] at hError
        cases hRest : JsVal.elementStrs (cs.map .obj) with
        | error e' => rw [hRest] at hError; cases hError; exact ih hRest
        | ok parts => rw [hRest] at hError; cases hError

/-
  The stashed table exporter on object columns and record rows: the
  first row has no `map`, so the export is a `TypeError`.
-/
theorem exportTableData_record_rows
    {data : JsVal}
    {cols : List (List (String × JsVal))}
    {row : List (String × JsVal)}
    {rows : List (List (String × JsVal))}
    (hColumns : data.get "columns" = .ok (.arr (cols.map .obj)))
    (hRows : data.get "rows" = .ok (.arr ((row :: rows).map .obj))) :
    exportTableData data = .error .typeError := by
  have hLines : ((row :: rows).map JsVal.obj).mapM tableRowLine = .error .typeError := by
    rw [List.map_cons, List.mapM_cons]
    rfl
  cases hHeader : JsVal.elementStrs (cols.map .obj) with
  | error e =>
      rw [elementStrs_objs_error hHeader] at hHeader
      simp [exportTableData, hColumns, hRows, JsVal.join, hHeader]
  | ok parts =>
      simp only [exportTableData, hColumns, hRows, JsVal.join, hHeader, JsVal.iterate, hLines,
        except_ok_bind, JsVal.truthy_arr]
      rfl

end Stashed

/-
  A table in the enhanced shape, object columns and record rows,
  on the stashed header of a table panel: the panel-type loop picks
  it, the exporter's `row.map` raises on the first row and the
  handler catches that, so nothing is downloaded.
-/
theorem record_rows_download_nothing
    (title : String)
    (skipped rest : List QueryData)
    (query : QueryData)
    (fields : List (String × JsVal))
    (cols rows : List (List (String × JsVal)))
    (hSkipped : ∀ q ∈ skipped, q.data.truthy = false)
    (hData : query.data = .obj fields)
    (hAbsent : ∀ key ∈ ["series", "categories", "data"], fields.lookup key = none)
    (hColumns : fields.lookup "columns" = some (.arr (cols.map .obj)))
    (hRows : fields.lookup "rows" = some (.arr (rows.map .obj)))
    (hRowsNonempty : rows ≠ []) :
    stashedHeaderExport title .table (skipped ++ query :: rest) = .ok .nothing := by
  simp only [List.mem_cons, List.not_mem_nil, or_false, forall_eq_or_imp, forall_eq] at hAbsent
  obtain ⟨hNoSeries, hNoCategories, hNoData⟩ := hAbsent
  obtain ⟨row, more, rfl⟩ := List.exists_cons_of_ne_nil hRowsNonempty
  have hGuard : Stashed.isTableData (.obj fields) = .ok true := by
    simp [Stashed.isTableData, Stashed.isObjectValue, JsVal.typeOf,
      JsVal.has_obj_of_lookup hColumns, JsVal.has_obj_of_lookup hRows]
  have hMatch : Stashed.matchingData .table (skipped ++ query :: rest) =
      .ok (some (.obj fields)) := by
    rw [Stashed.matchingData_skips_empty _ _ _ hSkipped]
    simp [Stashed.matchingData, hData, Stashed.panelTypeGuard, hGuard]
  have hSelect : Stashed.selectData (.obj fields) = .ok (.obj fields) := by
    simp [Stashed.selectData, Stashed.isObjectValue, JsVal.typeOf,
      JsVal.has_obj_of_lookup_none hNoData (by decide)]
  have hExport : Stashed.exportSelected (.obj fields) = .error .typeError := by
    simp [Stashed.exportSelected, Stashed.isTimeSeriesData, Stashed.isBarChartData, hGuard,
      Stashed.isObjectValue, JsVal.typeOf, JsVal.has_obj_of_lookup_none hNoSeries (by decide),
      JsVal.has_obj_of_lookup_none hNoCategories (by decide),
      JsVal.has_obj_of_lookup_none hNoData (by decide),
      Stashed.exportTableData_record_rows (JsVal.get_obj_of_lookup hColumns)
        (JsVal.get_obj_of_lookup hRows)]
  have hListed : (skipped ++ query :: rest).isEmpty = false := by simp
  simp only [stashedHeaderExport, Stashed.dataForExport, hMatch, hListed, Bool.false_eq_true,
    if_false, except_ok_bind, except_pure, Stashed.csvExportHandler, JsVal.truthy_obj,
    Bool.not_true, hSelect, hExport]

/- One record row under one column: nothing is downloaded. -/
theorem record_rows_download_nothing_on_sample :
    stashedHeaderExport "cpu" .table [⟨.obj [("columns", .arr [.obj [("name", .str "host")]]),
      ("rows", .arr [.obj [("host", .str "a")]])], false, .undefined⟩] = .ok .nothing :=
  record_rows_download_nothing "cpu" [] []
    ⟨.obj [("columns", .arr [.obj [("name", .str "host")]]),
      ("rows", .arr [.obj [("host", .str "a")]])], false, .undefined⟩
    [("columns", .arr [.obj [("name", .str "host")]]), ("rows", .arr [.obj [("host", .str "a")]])]
    [[("name", .str "host")]] [[("host", .str "a")]] (by simp) rfl (by simp) rfl rfl (by simp)

end PanelExport
