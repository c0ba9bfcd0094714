import PanelExport.Csv.Cells
import PanelExport.Enhanced.Export
import PanelExport.Stashed.Export

/-
  What a CSV reader recovers from the table exports.

  The stashed `exportTableData` and `exportGenericData` quote a
  cell that holds a comma, a quote or a line feed, doubling its
  quotes; a carriage return alone is written as it is.  The
  enhanced `exportTableData` quotes only text that holds a comma.
  No exporter escapes column names or keys.  Within those limits
  every export reads back as its header and one record per row,
  each cell as `String(v)` and empty for `null` and `undefined`.

  Main declarations:
    * `StashedTableReads`, `EnhancedTableReads`
    * `GenericArrayReads`, `GenericObjectReads`
    * `table_column_name_with_comma_splits`
    * `table_exports_read_back`
-/

------------------------------------------------------------
-- Stashed Tables
------------------------------------------------------------

namespace PanelExport

/-
  The stashed table law: string columns and array rows of cells
  read back as the column texts and each row's cell texts.
-/
def StashedTableReads : Prop :=
  ∀ (data : JsVal) (names : List JsVal) (rows : List (List JsVal)),
    data.get "columns" = .ok (.arr names) →
    data.get "rows" = .ok (.arr (rows.map .arr)) →
    names ≠ [] →
    (∀ n ∈ names, n.isCell = true ∧ Csv.plain (cellText n).data = true) →
    (∀ row ∈ rows, row ≠ []) →
    (∀ row ∈ rows, ∀ v ∈ row, v.isCell = true ∧ '\r' ∉ (cellText v).data) →
    ∃ text, Stashed.exportTableData data = .ok text ∧
      Csv.read text.data = names.map cellText :: rows.map (·.map cellText)

namespace Stashed

/- A cell written by the stashed quoting rule reads back, unless it holds a lone CR. -/
theorem encodes_escapeCell {text : String} (hCR : '\r' ∉ text.data) :
    Csv.Encodes (escapeCell text).data text := by
  unfold escapeCell
  split
  · exact Csv.encodes_quoted text
  · refine Csv.encodes_plain (Csv.plain_iff.2 fun c hc => ?_)
    simp only [String.toList, not_or] at *
    refine ⟨?_, ?_, ?_, ?_⟩ <;> rintro rfl <;> simp_all

/- One row array of cells. -/
theorem tableRowLine_cells {row : List JsVal} (hCells : ∀ v ∈ row, v.isCell = true) :
    tableRowLine (.arr row) =
      .ok (",".intercalate (row.map fun v => escapeCell (cellText v)) ++ "\n") := by
  have hMap := @JsVal.mapArray_eq_map (fun _ cell => do
      let cellStr ← (cell.ifNullish (.str "")).toStr
      pure (.str (escapeCell cellStr))) (fun v => .str (escapeCell (cellText v))) row
    fun j v hv => by simp [JsVal.toStr_cell (hCells v hv)]
  unfold tableRowLine
  rw [hMap]
  simp [JsVal.join_cells, List.map_map, Function.comp_def]

theorem exportTableData_reads : StashedTableReads := by
  intro data names rows hColumns hRows hNamesNonempty hNames hRowsNonempty hCells
  have hLines := except_mapM_eq_ok (f := tableRowLine) (l := rows.map .arr)
    (g := fun row => match row with
      | .arr cells => ",".intercalate (cells.map fun v => escapeCell (cellText v)) ++ "\n"
      | _ => "")
    (by
      simp only [List.mem_map]
      rintro _ ⟨row, hRow, rfl⟩
      exact tableRowLine_cells fun v hv => (hCells row hRow v hv).1)
  refine ⟨Csv.document (names.map cellText :: rows.map fun row =>
    row.map fun v => escapeCell (cellText v)), ?_, Csv.read_document ?_⟩
  · simp only [exportTableData, hColumns, hRows, JsVal.iterate, except_ok_bind,
      JsVal.truthy_arr, JsVal.join_cells "," fun n hn => (hNames n hn).1, hLines]
    rw [Csv.document_cons]
    simp [Csv.document, List.map_map, Function.comp_def]
  · refine .cons ⟨by simpa using hNamesNonempty, ?_⟩ ?_
    · exact Csv.forall₂_map_of_mem fun n hn => Csv.encodes_plain (hNames n hn).2
    · exact Csv.forall₂_map_of_mem fun row hRow => ⟨by simpa using hRowsNonempty row hRow,
        Csv.forall₂_map_of_mem fun v hv => encodes_escapeCell (hCells row hRow v hv).2⟩

end Stashed

------------------------------------------------------------
-- Generic Data
------------------------------------------------------------

/-
  `exportGenericData` on an array of objects: the first item's keys,
  then each item's cells at those keys.
-/
def GenericArrayReads : Prop :=
  ∀ (first : List (String × JsVal)) (rest : List (List (String × JsVal)))
    (keys : List String),
    JsVal.orderKeys (first.map Prod.fst) = keys →
    keys ≠ [] →
    (∀ key ∈ keys, Csv.plain key.data = true) →
    (∀ item ∈ first :: rest, ∀ key ∈ keys,
      (propValue item key).isCell = true ∧ '\r' ∉ (cellText (propValue item key)).data) →
    ∃ text, Stashed.exportGenericData (.arr ((first :: rest).map .obj)) = .ok text ∧
      Csv.read text.data =
        keys :: (first :: rest).map fun item =>
          keys.map fun key => cellText (propValue item key)

/-
  `exportGenericData` on an object of cells: a `Property,Value`
  record, then one record per entry.
-/
def GenericObjectReads : Prop :=
  ∀ props : List (String × JsVal),
    (∀ e ∈ JsVal.entries props, Csv.plain e.1.data = true) →
    (∀ e ∈ JsVal.entries props, e.2.isCell = true ∧ '\r' ∉ (cellText e.2).data) →
    ∃ text, Stashed.exportGenericData (.obj props) = .ok text ∧
      Csv.read text.data =
        ["Property", "Value"] :: (JsVal.entries props).map fun e => [e.1, cellText e.2]

namespace Stashed

/- One item's line of the array table. -/
theorem genericRowLine_cells
    {keys : List String}
    {item : List (String × JsVal)}
    (hCells : ∀ key ∈ keys, (propValue item key).isCell = true) :
    genericRowLine keys (.obj item) =
      .ok (",".intercalate (keys.map fun key =>
        escapeCell (cellText (propValue item key))) ++ "\n") := by
  have hValues := except_mapM_eq_ok (l := keys)
    (f := fun key => do
      let value ← (JsVal.obj item).get key
      if value.isNullish then pure "" else escapeCell <$> value.toStr)
    (g := fun key => escapeCell (cellText (propValue item key)))
    (fun key hKey => by
      have hCell := hCells key hKey
      simp only [JsVal.get_obj, except_ok_bind]
      generalize propValue item key = v at hCell ⊢
      cases v <;> simp_all [JsVal.isCell, JsVal.isNullish, cellText, JsVal.toStr]
      all_goals rfl)
  unfold genericRowLine
  rw [hValues]
  rfl

theorem exportGenericData_array_reads : GenericArrayReads := by
  intro first rest keys hKeysEq hKeysNonempty hKeys hCells
  have hLines := except_mapM_eq_ok (f := genericRowLine keys) (l := (first :: rest).map .obj)
    (g := fun item => match item with
      | .obj props => ",".intercalate (keys.map fun key =>
          escapeCell (cellText (propValue props key))) ++ "\n"
      | _ => "")
    (by
      simp only [List.mem_map]
      rintro _ ⟨item, hItem, rfl⟩
      exact genericRowLine_cells fun key hKey => (hCells item hItem key hKey).1)
  refine ⟨Csv.document (keys :: (first :: rest).map fun item =>
    keys.map fun key => escapeCell (cellText (propValue item key))), ?_, Csv.read_document ?_⟩
  · simp only [List.map_cons] at hLines
    simp only [exportGenericData, List.map_cons, genericArray, JsVal.typeOf, JsVal.ownKeys,
      hKeysEq, if_true, except_ok_bind, hLines]
    rw [Csv.document_cons]
    simp [Csv.document, List.map_map, Function.comp_def]
  · refine .cons ⟨hKeysNonempty, List.forall₂_same.2 fun key hKey =>
      Csv.encodes_plain (hKeys key hKey)⟩ ?_
    exact Csv.forall₂_map_of_mem fun item hItem => ⟨by simpa using hKeysNonempty,
      Csv.forall₂_map_of_mem fun key hKey => encodes_escapeCell (hCells item hItem key hKey).2⟩

/- One `key,value` line of a cell. -/
theorem propertyLine_cell {entry : String × JsVal} (hCell : entry.2.isCell = true) :
    propertyLine entry =
      .ok (",".intercalate [entry.1, escapeCell (cellText entry.2)] ++ "\n") := by
  obtain ⟨key, value⟩ := entry
  simp only at hCell
  simp [propertyLine, JsVal.toStr_cell hCell, String.intercalate, String.intercalate.go]

theorem exportGenericData_object_reads : GenericObjectReads := by
  intro props hKeys hValues
  have hNoArray : (JsVal.entries props).find? (nonEmptyArray ·.2) = none := by
    refine List.find?_eq_none.2 fun e he => ?_
    have hCell := (hValues e he).1
    revert hCell
    cases e.2 <;> simp [JsVal.isCell, nonEmptyArray]
  have hLines := except_mapM_eq_ok (f := propertyLine) (l := JsVal.entries props)
    (g := fun e => ",".intercalate [e.1, escapeCell (cellText e.2)] ++ "\n")
    fun e he => propertyLine_cell (hValues e he).1
  refine ⟨Csv.document (["Property", "Value"] :: (JsVal.entries props).map fun e =>
    [e.1, escapeCell (cellText e.2)]), ?_, Csv.read_document ?_⟩
  · simp only [exportGenericData, hNoArray, hLines, except_ok_bind, except_pure]
    rw [Csv.document_cons]
    simp [Csv.document, List.map_map, Function.comp_def]
    rfl
  · refine .cons ⟨by simp, .cons (Csv.encodes_plain rfl) (.cons (Csv.encodes_plain rfl) .nil)⟩ ?_
    exact Csv.forall₂_map_of_mem fun e he => ⟨by simp, .cons (Csv.encodes_plain (hKeys e he))
      (.cons (encodes_escapeCell (hValues e he).2) .nil)⟩

end Stashed

------------------------------------------------------------
-- Enhanced Tables
------------------------------------------------------------

namespace Enhanced

/- A column whose `name`, `displayName` and `type` are cells without line breaks. -/
def TextColumn (col : List (String × JsVal)) : Prop :=
  ∀ key ∈ ["name", "displayName", "type"], LineFreeCell (propValue col key)

/- The text `tableCell` writes for a cell value. -/
def writtenCell : JsVal → String
  | .str text => if ',' ∈ text.data then String.mk (Csv.quoteField text.data) else text
  | v => cellText v

end Enhanced

/-
  The enhanced table law: columns `{name, displayName?, type?}`
  and record rows read back, after the comment lines, as the
  column titles and each row's cells at the column names.  Text
  without a comma must itself need no quotes.
-/
def EnhancedTableReads : Prop :=
  ∀ (data : JsVal) (title : String) (cols rows : List (List (String × JsVal))),
    data.get "columns" = .ok (.arr (cols.map .obj)) →
    data.get "rows" = .ok (.arr (rows.map .obj)) →
    cols ≠ [] →
    (∀ col ∈ cols, Enhanced.TextColumn col) →
    (∀ col ∈ cols, Csv.plain (cellText (displayTitle col)).data = true) →
    (∀ col ∈ cols.head?, (cellText (displayTitle col)).data.head? ≠ some '#') →
    (∀ row ∈ rows, ∀ col ∈ cols,
      (propValue row (primitiveText (propValue col "name"))).isCell = true ∧
      ∀ s, propValue row (primitiveText (propValue col "name")) = .str s →
        ',' ∈ s.data ∨ Csv.plain s.data = true) →
    ∃ text, Enhanced.exportTableData data title = .ok text ∧
      Csv.read (Csv.dropComments text.data) =
        cols.map (fun col => cellText (displayTitle col)) ::
          rows.map fun row => cols.map fun col =>
            cellText (propValue row (primitiveText (propValue col "name")))

namespace Enhanced

/- The comment line of a column with line-free texts. -/
theorem columnComment_commentLine {col : List (String × JsVal)} (hColumn : TextColumn col) :
    ∃ line, columnComment (.obj col) = .ok line ∧ Csv.CommentLine line.data := by
  have hShown : LineFreeCell (displayTitle col) := by
    unfold displayTitle JsVal.orElse
    split
    · exact hColumn "displayName" (by simp)
    · exact hColumn "name" (by simp)
  obtain ⟨nameText, hNameText, hNameLF, hNameCR⟩ := JsVal.toStr_lineFree (hColumn "name" (by simp))
  obtain ⟨typeText, hTypeText, hTypeLF, hTypeCR⟩ := JsVal.toStr_lineFree (hColumn "type" (by simp))
  obtain ⟨shownText, hShownText, hShownLF, hShownCR⟩ := JsVal.toStr_lineFree hShown
  let typePart := if (propValue col "type").truthy then " (" ++ typeText ++ ")" else ""
  let text := nameText ++ ": " ++ shownText ++ typePart
  refine ⟨"# " ++ text ++ "\n", ?_, ' ' :: text.data, ?_, ?_, ?_⟩
  · unfold displayTitle at hShownText
    simp only [columnComment, JsVal.get_obj, except_ok_bind, hNameText, hShownText, text,
      typePart]
    split <;> simp [hTypeText, String.append_assoc]
  · simp
  all_goals
    simp only [text, typePart]
    split <;> simp_all

/- A cell of a record row at a column. -/
theorem tableCell_cell
    {row col : List (String × JsVal)}
    (i : Nat)
    (hName : (propValue col "name").isCell = true)
    (hCell : (propValue row (primitiveText (propValue col "name"))).isCell = true) :
    tableCell (.obj row) i (.obj col) =
      .ok (.str (writtenCell (propValue row (primitiveText (propValue col "name"))))) := by
  simp only [tableCell, JsVal.get_obj, except_ok_bind, JsVal.getComputed,
    JsVal.toStr_primitive hName]
  generalize propValue row (primitiveText (propValue col "name")) = v at hCell ⊢
  cases v <;> simp_all [JsVal.isCell, JsVal.isNullish, writtenCell, cellText, JsVal.toStr]
  split <;> rfl

/- A written cell reads back unless it is text the enhanced rule leaves unquoted by mistake. -/
theorem encodes_writtenCell {v : JsVal}
    (hSafe : ∀ s, v = .str s → ',' ∈ s.data ∨ Csv.plain s.data = true) :
    Csv.Encodes (writtenCell v).data (cellText v) := by
  cases v with
  | str s =>
      simp only [writtenCell, cellText]
      split
      · exact Csv.encodes_quoted s
      · exact Csv.encodes_plain ((hSafe s rfl).resolve_left ‹_›)
  | _ => exact Csv.encodes_plain (plain_cellText_of_nonstring (by simp))

theorem exportTableData_reads : EnhancedTableReads := by
  intro data title cols rows hColumns hRows hColumnsNonempty hText hTitles hFirst hCells
  have hTitleCell : ∀ col ∈ cols, (displayTitle col).isCell = true := fun col hCol => by
    have hName := (hText col hCol "name" (by simp)).1
    have hDisplay := (hText col hCol "displayName" (by simp)).1
    unfold displayTitle JsVal.orElse
    split <;> assumption
  obtain ⟨comments, hComments, hCommentLines⟩ := except_mapM_forall (f := columnComment)
    (l := cols.map .obj) (P := fun line => Csv.CommentLine line.data) (by
      simp only [List.mem_map]
      rintro _ ⟨col, hCol, rfl⟩
      exact columnComment_commentLine (hText col hCol))
  have hHeaders := JsVal.mapArray_eq_map (f := columnHeader) (l := cols.map .obj)
    (g := fun c => match c with | .obj col => displayTitle col | _ => .undefined) (by
      simp only [List.mem_map]
      rintro j _ ⟨col, hCol, rfl⟩
      simp [columnHeader, displayTitle])
  have hRowLines := except_mapM_eq_ok (f := tableRowLine (.arr (cols.map .obj)))
    (l := rows.map .obj)
    (g := fun r => match r with
      | .obj row => ",".intercalate (cols.map fun col =>
          writtenCell (propValue row (primitiveText (propValue col "name")))) ++ "\n"
      | _ => "") (by
      simp only [List.mem_map]
      rintro _ ⟨row, hRow, rfl⟩
      have hMap := JsVal.mapArray_eq_map (f := tableCell (.obj row)) (l := cols.map .obj)
        (g := fun c => match c with
          | .obj col => .str (writtenCell (propValue row (primitiveText (propValue col "name"))))
          | _ => .undefined) (by
          simp only [List.mem_map]
          rintro j _ ⟨col, hCol, rfl⟩
          exact tableCell_cell j (hText col hCol "name" (by simp)).1 (hCells row hRow col hCol).1)
      simp [tableRowLine, hMap, List.map_map, Function.comp_def, JsVal.join_cells])
  simp only [List.map_map, Function.comp_def] at hHeaders hRowLines
  have hHeaderText := JsVal.join_cells "," (l := cols.map displayTitle)
    (by simpa using hTitleCell)
  let body := Csv.document (cols.map (fun col => cellText (displayTitle col)) ::
    rows.map fun row => cols.map fun col =>
      writtenCell (propValue row (primitiveText (propValue col "name"))))
  refine ⟨"# Column Information:\n" ++ String.join comments ++ "#\n" ++ body, ?_, ?_⟩
  · simp only [exportTableData, hColumns, hRows, except_ok_bind, JsVal.truthy_arr, JsVal.iterate,
      hComments, hHeaders, hHeaderText, hRowLines]
    simp [body, Csv.document_cons, Csv.document, List.map_map, Function.comp_def,
      String.append_assoc]
  · have hSplit : ("# Column Information:\n" ++ String.join comments ++ "#\n" ++ body).data =
        (("# Column Information:\n" :: comments ++ ["#\n"]).map String.data).flatten ++ body.data := by
      simp
    rw [hSplit, Csv.dropComments_append]
    · refine Csv.read_document (.cons ⟨by simpa using hColumnsNonempty, ?_⟩ ?_)
      · exact Csv.forall₂_map_of_mem fun col hCol => Csv.encodes_plain (hTitles col hCol)
      · exact Csv.forall₂_map_of_mem fun row hRow => ⟨by simpa using hColumnsNonempty,
          Csv.forall₂_map_of_mem fun col hCol => encodes_writtenCell (hCells row hRow col hCol).2⟩
    · simp only [List.mem_map]
      rintro _ ⟨line, hLine, rfl⟩
      simp only [List.cons_append, List.mem_cons, List.mem_append, List.mem_singleton,
        List.not_mem_nil, or_false] at hLine
      rcases hLine with rfl | hLine | rfl
      · exact .inr ⟨" Column Information:".data, rfl, by decide, by decide⟩
      · exact .inr (hCommentLines line hLine)
      · exact .inr ⟨[], rfl, by decide, by decide⟩
    · obtain ⟨col, rest, rfl⟩ := List.exists_cons_of_ne_nil hColumnsNonempty
      exact Csv.document_head (hFirst col (by simp))

end Enhanced

------------------------------------------------------------
-- The Decoding Law
------------------------------------------------------------

/-
  A column name holding a comma is written as it is, so the header
  reads back as two fields.
-/
theorem table_column_name_with_comma_splits :
    let data : JsVal := .obj [("columns", .arr [.str "a,b"]), ("rows", .arr [.arr [.str "x"]])]
    Stashed.exportTableData data = .ok "a,b\nx\n" ∧
      Csv.read "a,b\nx\n".data = [["a", "b"], ["x"]] ∧
      Csv.read "a,b\nx\n".data ≠ [["a,b"], ["x"]] :=
  ⟨rfl, by decide, by decide⟩

/-
  Every table export, within the limits the exporters' quoting
  keeps, reads back as its header and one record per row.
-/
theorem table_exports_read_back :
    StashedTableReads ∧ EnhancedTableReads ∧ GenericArrayReads ∧ GenericObjectReads :=
  ⟨Stashed.exportTableData_reads, Enhanced.exportTableData_reads,
    Stashed.exportGenericData_array_reads, Stashed.exportGenericData_object_reads⟩


/- The stashed and enhanced laws on tables with cells that need quoting and a fractional cell. -/
theorem table_exports_read_back_on_samples :
    (∃ text, Stashed.exportTableData
        (.obj [("columns", .arr [.str "a", .str "b"]),
          ("rows", .arr [.arr [.str "x,\"y\"", .num (.round false 5 2)]])]) =
          .ok text ∧
      Csv.read text.data = [["a", "b"], ["x,\"y\"", "2.5"]]) ∧
    (∃ text, Enhanced.exportTableData
        (.obj [("columns", .arr [.obj [("name", .str "a"), ("displayName", .str "A")]]),
          ("rows", .arr [.obj [("a", .str "1,\n2")]])]) "t" = .ok text ∧
      Csv.read (Csv.dropComments text.data) = [["A"], ["1,\n2"]]) :=
  ⟨table_exports_read_back.1 _ [.str "a", .str "b"] [[.str "x,\"y\"", .num (.round false 5 2)]]
      rfl rfl (by simp) (by simp [JsVal.isCell]) (by simp) (by decide),
    table_exports_read_back.2.1 _ "t" [[("name", .str "a"), ("displayName", .str "A")]]
      [[("a", .str "1,\n2")]] rfl rfl (by simp) (by simp [Enhanced.TextColumn]; decide)
      (by simp [displayTitle]; decide) (by simp [displayTitle]; decide)
      (by simp [propValue, primitiveText, cellText, JsVal.isCell])⟩

end PanelExport
