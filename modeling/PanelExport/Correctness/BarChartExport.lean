import PanelExport.Csv.Cells
import PanelExport.Enhanced.Export
import PanelExport.Stashed.Export

/-
  What a CSV reader recovers from the bar chart exports of a
  payload with `categories` and `series` arrays.

  Both exporters write a `Category` header with one column per
  series (the stashed one its name, the enhanced one `Series_k`)
  and one line per category with each series' `data` entry at the
  category's index.  No category or series name is escaped, and a
  header with no series ends in an empty field.  The enhanced
  exporter puts the axis titles and series titles on comment lines
  before the header.  It leaves a `null` series out of those
  comments, but reads `series.data[i]` of every series on each
  category line, so such a series makes it raise.

  Main declarations:
    * `dataAt`
    * `StashedBarChartReads`, `Stashed.exportBarChartData_reads`
    * `StashedIndexReads`, `Stashed.exportBarChartData_index_reads`
    * `EnhancedBarChartReads`, `Enhanced.exportBarChartData_reads`
    * `nullish_series_bar_export_raises`
-/

------------------------------------------------------------
-- Series Entries
------------------------------------------------------------

namespace PanelExport

/- `series.data[i]`: the entry, `undefined` past the end or without a `data` array. -/
def dataAt (s : List (String × JsVal)) (i : Nat) : JsVal :=
  match propValue s "data" with
  | .arr values => values.getD i .undefined
  | _ => .undefined

/- An entry of a `data` array of numbers and `null`s is written without quotes. -/
theorem plain_dataAt
    {s : List (String × JsVal)}
    {values : List JsVal}
    (hArr : propValue s "data" = .arr values)
    (hNum : ∀ v ∈ values, v.isNumberOrNull = true)
    (i : Nat) :
    Csv.plain (cellText (dataAt s i)).data = true := by
  simp only [dataAt, hArr, List.getD_eq_getElem?_getD]
  cases hEntry : values[i]? with
  | none => rfl
  | some v =>
      have hValue := hNum v (List.getElem?_mem hEntry)
      simp only [Option.getD_some]
      exact plain_cellText_of_nonstring fun t hT => by simp [hT, JsVal.isNumberOrNull] at hValue

/- An entry of such an array is a cell. -/
theorem isCell_dataAt
    {s : List (String × JsVal)}
    {values : List JsVal}
    (hArr : propValue s "data" = .arr values)
    (hNum : ∀ v ∈ values, v.isNumberOrNull = true)
    (i : Nat) :
    (dataAt s i).isCell = true := by
  simp only [dataAt, hArr]
  exact JsVal.isCell_getD (fun v hv => JsVal.isCell_of_isNumberOrNull (hNum v hv)) i

/- The category records of plain categories and plain series entries are plain. -/
theorem categoryRecords_plain
    {categories : List JsVal}
    {series : List (List (String × JsVal))}
    (hCategories : ∀ c ∈ categories, Csv.plain (cellText c).data = true)
    (hEntries : ∀ s ∈ series, ∀ i, Csv.plain (cellText (dataAt s i)).data = true) :
    ∀ fields ∈ (List.range categories.length).map (fun i =>
        cellText (categories.getD i .undefined) :: series.map fun s => cellText (dataAt s i)),
      fields ≠ [] ∧ ∀ f ∈ fields, Csv.plain f.data = true := by
  simp only [List.mem_map, List.mem_range]
  rintro _ ⟨i, hI, rfl⟩
  refine ⟨List.cons_ne_nil _ _, ?_⟩
  simp only [List.mem_cons, List.mem_map]
  rintro f (rfl | ⟨s, hS, rfl⟩)
  · rw [List.getD_eq_getElem?_getD, List.getElem?_eq_getElem hI]
    exact hCategories _ (List.getElem_mem hI)
  · exact hEntries s hS i

------------------------------------------------------------
-- Stashed Categories
------------------------------------------------------------

/-
  The stashed bar law for the `categories` form: a `Category`
  header and one column per series name, then one record per
  category with the series' entries at its index.
-/
def StashedBarChartReads : Prop :=
  ∀ (data : JsVal) (categories : List JsVal) (series : List (List (String × JsVal))),
    data.get "categories" = .ok (.arr categories) →
    data.get "series" = .ok (.arr (series.map .obj)) →
    categories.length ≤ 4294967295 →
    series ≠ [] →
    (∀ c ∈ categories, c.isLabel = true ∧ Csv.plain (cellText c).data = true) →
    (∀ s ∈ series, (propValue s "name").isLabel = true ∧
      Csv.plain (cellText (propValue s "name")).data = true) →
    (∀ s ∈ series, ∃ values, propValue s "data" = .arr values ∧
      ∀ v ∈ values, v.isNumberOrNull = true) →
    ∃ text, Stashed.exportBarChartData data = .ok text ∧
      Csv.read text.data =
        ("Category" :: series.map fun s => cellText (propValue s "name")) ::
          (List.range categories.length).map fun i =>
            cellText (categories.getD i .undefined) :: series.map fun s => cellText (dataAt s i)

namespace Stashed

/- `s.data[i] ?? ''` on a series with a `data` array. -/
theorem seriesCell_data
    {s : List (String × JsVal)}
    {values : List JsVal}
    (i j : Nat)
    (hArr : propValue s "data" = .arr values)
    (hBound : i < 4294967295) :
    seriesCell i j (.obj s) = .ok ((dataAt s i).ifNullish (.str "")) := by
  simp [seriesCell, hArr, dataAt, get_arr_decimal _ hBound]

/- A row line of a label and cells. -/
theorem labelledLine_cells
    {label : JsVal}
    {values : List JsVal}
    (hLabel : label.isLabel = true)
    (hCells : ∀ v ∈ values, v.isCell = true)
    (hValues : values ≠ []) :
    labelledLine label values =
      .ok (",".intercalate (cellText label :: values.map cellText) ++ "\n") := by
  rw [Csv.intercalate_comma_cons _ (by simpa using hValues)]
  simp [labelledLine, JsVal.toStr_label hLabel, JsVal.join_cells "," hCells]

/- The text of the `categories` form. -/
theorem categoryRows_cells
    {categories : List JsVal}
    {series : List (List (String × JsVal))}
    (hLength : categories.length ≤ 4294967295)
    (hSeries : series ≠ [])
    (hCategories : ∀ c ∈ categories, c.isLabel = true)
    (hNames : ∀ s ∈ series, (propValue s "name").isLabel = true)
    (hData : ∀ s ∈ series, ∃ values, propValue s "data" = .arr values ∧
      ∀ v ∈ values, v.isNumberOrNull = true) :
    categoryRows (.arr categories) (.arr (series.map .obj)) =
      .ok (Csv.document (("Category" :: series.map fun s => cellText (propValue s "name")) ::
        (List.range categories.length).map fun i =>
          cellText (categories.getD i .undefined) :: series.map fun s =>
            cellText (dataAt s i))) := by
  have hNamesMap := JsVal.mapArray_eq_map (f := fun _ s => s.get "name") (l := series.map .obj)
    (g := fun s => match s with | .obj props => propValue props "name" | _ => .undefined) (by
      simp only [List.mem_map]
      rintro j _ ⟨s, hS, rfl⟩
      rfl)
  have hLines := except_mapM_eq_ok (l := List.range categories.length)
    (f := fun i => do
      let values ← (JsVal.arr (series.map .obj)).mapArray (seriesCell i)
      labelledLine (← (JsVal.arr categories).get (toString i)) values)
    (g := fun i => ",".intercalate (cellText (categories.getD i .undefined) ::
      series.map fun s => cellText (dataAt s i)) ++ "\n") (by
      intro i hI
      rw [List.mem_range] at hI
      have hValues := JsVal.mapArray_eq_map (f := seriesCell i) (l := series.map .obj)
        (g := fun s => match s with
          | .obj props => (dataAt props i).ifNullish (.str "")
          | _ => .undefined) (by
          simp only [List.mem_map]
          rintro j _ ⟨s, hS, rfl⟩
          obtain ⟨values, hArr, -⟩ := hData s hS
          exact seriesCell_data i j hArr (by omega))
      have hCells : ∀ s ∈ series, ((dataAt s i).ifNullish (.str "")).isCell = true := by
        intro s hS
        obtain ⟨values, hArr, hNum⟩ := hData s hS
        exact JsVal.isCell_ifNullish (isCell_dataAt hArr hNum i)
      have hLabel : (categories.getD i .undefined).isLabel = true := by
        rw [List.getD_eq_getElem?_getD, List.getElem?_eq_getElem hI]
        exact hCategories _ (List.getElem_mem hI)
      simp only [List.map_map, Function.comp_def] at hValues
      simp only [hValues, get_arr_decimal _ (show i < 4294967295 by omega), except_ok_bind]
      rw [labelledLine_cells hLabel (by simpa using hCells) (by simpa using hSeries)]
      simp [List.map_map, Function.comp_def])
  simp only [List.map_map, Function.comp_def] at hNamesMap
  simp only [categoryRows, hNamesMap, JsVal.get_arr_length, JsVal.loopCount_length,
    except_ok_bind, hLines, JsVal.join_cells "," (l := series.map fun s => propValue s "name")
      (by simpa using fun s hS => JsVal.isCell_of_isLabel (hNames s hS))]
  rw [Csv.document_cons, Csv.intercalate_comma_cons _ (by simpa using hSeries)]
  simp [Csv.document, List.map_map, Function.comp_def, String.append_assoc]

/- The stashed `categories` form reads back. -/
theorem exportBarChartData_reads : StashedBarChartReads := by
  intro data categories series hCategoriesArr hSeriesArr hLength hSeries hCategories hNames hData
  have hExport : exportBarChartData data =
      categoryRows (.arr categories) (.arr (series.map .obj)) := by
    simp [exportBarChartData, hCategoriesArr, hSeriesArr]
  refine ⟨_, hExport.trans (categoryRows_cells hLength hSeries (fun c hC => (hCategories c hC).1)
    (fun s hS => (hNames s hS).1) hData), Csv.read_document_plain ?_⟩
  intro fields hFields
  rcases List.mem_cons.1 hFields with rfl | hRecord
  · refine ⟨List.cons_ne_nil _ _, ?_⟩
    simp only [List.mem_cons, List.mem_map]
    rintro f (rfl | ⟨s, hS, rfl⟩)
    · rfl
    · exact (hNames s hS).2
  · refine categoryRecords_plain (fun c hC => (hCategories c hC).2) (fun s hS => ?_) _ hRecord
    obtain ⟨values, hArr, hNum⟩ := hData s hS
    exact plain_dataAt hArr hNum

end Stashed

------------------------------------------------------------
-- Stashed Index Form
------------------------------------------------------------

/- The length of a series' `data` array, `0` without one. -/
def dataLength (s : List (String × JsVal)) : Nat :=
  match propValue s "data" with
  | .arr values => values.length
  | _ => 0

/-
  The stashed bar law for the index form: a payload with a
  `series` array, falsy `categories` and no `data` array is written
  as an `Index` header and one column per series name, then one
  record per index below the longest `data` array, holding the
  index and each series' entry there.
-/
def StashedIndexReads : Prop :=
  ∀ (data categories : JsVal) (series : List (List (String × JsVal))),
    data.get "categories" = .ok categories →
    categories.truthy = false →
    data.get "series" = .ok (.arr (series.map .obj)) →
    (∃ d, data.get "data" = .ok d ∧ d.isArray = false) →
    series ≠ [] →
    (∀ s ∈ series, (propValue s "name").isLabel = true ∧
      Csv.plain (cellText (propValue s "name")).data = true) →
    (∀ s ∈ series, ∃ values, propValue s "data" = .arr values ∧
      values.length ≤ 4294967295 ∧ ∀ v ∈ values, v.isNumberOrNull = true) →
    ∃ text, Stashed.exportBarChartData data = .ok text ∧
      Csv.read text.data =
        ("Index" :: series.map fun s => cellText (propValue s "name")) ::
          (List.range ((series.map dataLength).foldl max 0)).map fun i =>
            toString i :: series.map fun s => cellText (dataAt s i)

namespace Stashed

/- `Math.max` over lengths from a first one on: the greatest of them. -/
theorem foldl_maxNum_lengths (a : Nat) (ls : List Nat) :
    (ls.map fun l : Nat => JsNum.int (l : Int)).foldl maxNum (.int a) =
      .int (ls.foldl max a : Nat) := by
  induction ls generalizing a with
  | nil => rfl
  | cons l ls ih =>
      have hStep : maxNum (.int a) (.int l) = .int ((max a l : Nat) : Int) := by
        simp only [maxNum, Nat.cast_max]
      simp only [List.map_cons, List.foldl_cons, hStep, ih]

/-
  `for (let i = 0; i < Math.max(...lengths); i++)` runs up to the
  greatest length, and not at all for no lengths (`-Infinity`).
-/
theorem mathMax_loopCount {β : Type} (ls : List Nat) (k : Nat → Except JsError β) :
    (do
      let count ← (JsVal.num (← mathMax (ls.map fun l : Nat => .num (.int (l : Int))))).loopCount
      k count) = k (ls.foldl max 0) := by
  have hNums := except_mapM_map_eq_ok (l := ls) (f := fun l : Nat => JsVal.num (.int (l : Int)))
    (g := JsVal.toNumber) (h := fun l : Nat => JsNum.int (l : Int)) fun _ _ => rfl
  simp only [mathMax, hNums, except_ok_bind, except_pure]
  cases ls with
  | nil => rfl
  | cons l ls =>
      rw [List.map_cons, List.foldl_cons, show maxNum (.inf true) (.int l) = .int l from rfl,
        foldl_maxNum_lengths]
      simp [JsVal.loopCount_length]

/- The greatest of lengths under a bound is under it. -/
theorem foldl_max_le {B : Nat} {ls : List Nat} (hls : ∀ l ∈ ls, l ≤ B) :
    ∀ {a : Nat}, a ≤ B → ls.foldl max a ≤ B := by
  induction ls with
  | nil => exact fun ha => ha
  | cons l ls ih =>
      exact fun ha => ih (fun m hm => hls m (List.mem_cons_of_mem l hm))
        (max_le ha (hls l (List.mem_cons_self l ls)))


/- The label of row `i`: its decimal text. -/
theorem cellText_index {i : Nat} (hBound : i < 4294967295) :
    cellText (.num (.int i)) = toString i := by
  simp only [cellText, JsNum.toStr, Int.natAbs_ofNat]
  rw [if_pos (by omega)]
  rfl

/- The text of the index form. -/
theorem indexRows_cells
    {series : List (List (String × JsVal))}
    (hSeries : series ≠ [])
    (hNames : ∀ s ∈ series, (propValue s "name").isLabel = true)
    (hData : ∀ s ∈ series, ∃ values, propValue s "data" = .arr values ∧
      values.length ≤ 4294967295 ∧ ∀ v ∈ values, v.isNumberOrNull = true) :
    indexRows (.arr (series.map .obj)) =
      .ok (Csv.document (("Index" :: series.map fun s => cellText (propValue s "name")) ::
        (List.range ((series.map dataLength).foldl max 0)).map fun i =>
          toString i :: series.map fun s => cellText (dataAt s i))) := by
  have hNamesMap := JsVal.mapArray_eq_map (f := fun _ s => s.get "name") (l := series.map .obj)
    (g := fun s => match s with | .obj props => propValue props "name" | _ => .undefined) (by
      simp only [List.mem_map]
      rintro j _ ⟨s, hS, rfl⟩
      rfl)
  have hLengths := JsVal.mapArray_eq_map (l := series.map .obj)
    (f := fun _ s => do (← s.get "data").get "length")
    (g := fun s => match s with | .obj props => .num (.int (dataLength props)) | _ => .undefined) (by
      simp only [List.mem_map]
      rintro j _ ⟨s, hS, rfl⟩
      obtain ⟨values, hArr, -⟩ := hData s hS
      simp [dataLength, hArr])
  have hCount : (series.map dataLength).foldl max 0 ≤ 4294967295 := by
    refine foldl_max_le (fun l hl => ?_) (Nat.zero_le _)
    obtain ⟨s, hS, rfl⟩ := List.mem_map.1 hl
    obtain ⟨values, hArr, hLength, -⟩ := hData s hS
    simpa [dataLength, hArr] using hLength
  have hLines := except_mapM_eq_ok (l := List.range ((series.map dataLength).foldl max 0))
    (f := fun i => do
      let values ← (JsVal.arr (series.map .obj)).mapArray (seriesCell i)
      labelledLine (.num (.int i)) values)
    (g := fun i => ",".intercalate (toString i :: series.map fun s => cellText (dataAt s i)) ++
      "\n") (by
      intro i hI
      rw [List.mem_range] at hI
      have hValues := JsVal.mapArray_eq_map (f := seriesCell i) (l := series.map .obj)
        (g := fun s => match s with
          | .obj props => (dataAt props i).ifNullish (.str "")
          | _ => .undefined) (by
          simp only [List.mem_map]
          rintro j _ ⟨s, hS, rfl⟩
          obtain ⟨values, hArr, -⟩ := hData s hS
          exact seriesCell_data i j hArr (by omega))
      have hCells : ∀ s ∈ series, ((dataAt s i).ifNullish (.str "")).isCell = true := by
        intro s hS
        obtain ⟨values, hArr, -, hNum⟩ := hData s hS
        exact JsVal.isCell_ifNullish (isCell_dataAt hArr hNum i)
      simp only [List.map_map, Function.comp_def] at hValues
      simp only [hValues, except_ok_bind]
      rw [labelledLine_cells (show (JsVal.num (.int i)).isLabel = true from rfl) (by simpa using hCells) (by simpa using hSeries),
        cellText_index (by omega)]
      simp [List.map_map, Function.comp_def])
  simp only [List.map_map, Function.comp_def] at hNamesMap
  have hLengthNums : (series.map JsVal.obj).map (fun s => match s with
      | .obj props => JsVal.num (.int (dataLength props)) | _ => .undefined) =
      (series.map dataLength).map fun l : Nat => JsVal.num (.int (l : Int)) := by
    rw [List.map_map, List.map_map]
    rfl
  rw [hLengthNums] at hLengths
  simp only [indexRows, hNamesMap, hLengths, except_ok_bind, mathMax_loopCount, hLines,
    JsVal.join_cells "," (l := series.map fun s => propValue s "name")
      (by simpa using fun s hS => JsVal.isCell_of_isLabel (hNames s hS))]
  rw [Csv.document_cons, Csv.intercalate_comma_cons _ (by simpa using hSeries)]
  simp [Csv.document, List.map_map, Function.comp_def, String.append_assoc]


/- The stashed index form reads back. -/
theorem exportBarChartData_index_reads : StashedIndexReads := by
  intro data categories series hCategoriesVal hFalsy hSeriesArr hDataField hSeries hNames hData
  obtain ⟨d, hD, hNotArray⟩ := hDataField
  have hExport : exportBarChartData data = indexRows (.arr (series.map .obj)) := by
    cases d <;> simp_all [exportBarChartData, JsVal.isArray]
  refine ⟨_, hExport.trans (indexRows_cells hSeries (fun s hS => (hNames s hS).1)
    fun s hS => hData s hS), Csv.read_document_plain fun fields hFields => ?_⟩
  rcases List.mem_cons.1 hFields with rfl | hRecord
  · refine ⟨List.cons_ne_nil _ _, ?_⟩
    simp only [List.mem_cons, List.mem_map]
    rintro f (rfl | ⟨s, hS, rfl⟩)
    · rfl
    · exact (hNames s hS).2
  · obtain ⟨i, -, rfl⟩ := List.mem_map.1 hRecord
    refine ⟨List.cons_ne_nil _ _, ?_⟩
    simp only [List.mem_cons, List.mem_map]
    rintro f (rfl | ⟨s, hS, rfl⟩)
    · exact Csv.plain_natText i
    · obtain ⟨values, hArr, -, hNum⟩ := hData s hS
      exact plain_dataAt hArr hNum i


/- Two series of unequal lengths, one value fractional, read back. -/
theorem exportBarChartData_index_reads_on_sample :
    ∃ text, exportBarChartData (.obj [("series", .arr [
        .obj [("name", .str "a"), ("data", .arr [.num (.int 1), .null])],
        .obj [("name", .str "b"), ("data", .arr [.num (.round false 5 2)])]])]) = .ok text ∧
      Csv.read text.data = [["Index", "a", "b"], ["0", "1", "2.5"], ["1", "", ""]] :=
  exportBarChartData_index_reads (.obj [("series", .arr [
      .obj [("name", .str "a"), ("data", .arr [.num (.int 1), .null])],
      .obj [("name", .str "b"), ("data", .arr [.num (.round false 5 2)])]])]) .undefined
    [[("name", .str "a"), ("data", .arr [.num (.int 1), .null])],
      [("name", .str "b"), ("data", .arr [.num (.round false 5 2)])]]
    rfl rfl rfl ⟨.undefined, rfl, rfl⟩ (by simp) (by decide)
    (by
      simp only [List.mem_cons, List.mem_singleton, List.not_mem_nil, or_false]
      rintro s (rfl | rfl)
      · exact ⟨_, rfl, by decide, by decide⟩
      · exact ⟨_, rfl, by decide, by decide⟩)

end Stashed

------------------------------------------------------------
-- Enhanced Categories
------------------------------------------------------------

/-
  The enhanced bar law: after the comment lines, a `Category`
  header with one `Series_k` column per series, then one record
  per category with the series' entries at its index.  Axis
  titles and series titles must fit on their comment lines.
-/
def EnhancedBarChartReads : Prop :=
  ∀ (data : JsVal) (title : String) (categories : List JsVal)
    (series : List (List (String × JsVal))),
    data.get "categories" = .ok (.arr categories) →
    data.get "series" = .ok (.arr (series.map .obj)) →
    categories.length ≤ 4294967295 →
    series.length ≤ 4294967295 →
    series ≠ [] →
    (∀ key ∈ ["xAxis", "yAxis"], ∃ axis axisTitle, data.get key = .ok axis ∧
      axis.getOpt "title" = .ok axisTitle ∧ (axisTitle.truthy = true → LineFreeCell axisTitle)) →
    (∀ c ∈ categories, c.isLabel = true ∧ Csv.plain (cellText c).data = true) →
    (∀ s ∈ series, LineFreeCell (displayTitle s)) →
    (∀ s ∈ series, ∃ values, propValue s "data" = .arr values ∧ ∀ v ∈ values, ∃ n, v = .num n) →
    ∃ text, Enhanced.exportBarChartData data title = .ok text ∧
      Csv.read (Csv.dropComments text.data) =
        ("Category" :: (List.range series.length).map fun k => "Series_" ++ toString (k + 1)) ::
          (List.range categories.length).map fun i =>
            cellText (categories.getD i .undefined) :: series.map fun s => cellText (dataAt s i)

namespace Enhanced

/- An axis line is empty or one comment line. -/
theorem axisLine_comment
    (label : String)
    {axis axisTitle : JsVal}
    (hLabelLF : '\n' ∉ label.data)
    (hLabelCR : '\r' ∉ label.data)
    (hTitle : axis.getOpt "title" = .ok axisTitle)
    (hCell : axisTitle.truthy = true → LineFreeCell axisTitle) :
    ∃ line, axisLine label axis = .ok line ∧ (line.data = [] ∨ Csv.CommentLine line.data) := by
  unfold axisLine
  simp only [hTitle, except_ok_bind]
  split
  · obtain ⟨text, hText, hLF, hCR⟩ := JsVal.toStr_lineFree (hCell ‹_›)
    refine ⟨"# " ++ label ++ ": " ++ text ++ "\n", by simp [hText],
      .inr ⟨' ' :: (label ++ ": " ++ text).data, by simp, ?_, ?_⟩⟩ <;> simp_all
  · exact ⟨_, rfl, .inl rfl⟩

/- The comment line of a series object. -/
theorem seriesInfoLine_comment
    {items : List JsVal}
    {s : List (String × JsVal)}
    {i : Nat}
    (hEntry : items.getD i .undefined = .obj s)
    (hBound : i < 4294967295)
    (hTitle : LineFreeCell (displayTitle s)) :
    ∃ line, seriesInfoLine (.arr items) i = .ok line ∧ Csv.CommentLine line.data := by
  obtain ⟨text, hText, hLF, hCR⟩ := JsVal.toStr_lineFree hTitle
  unfold displayTitle at hText
  refine ⟨"# Series_" ++ toString (i + 1) ++ ": " ++ text ++ "\n", ?_,
    ' ' :: ("Series_" ++ toString (i + 1) ++ ": " ++ text).data, by simp, ?_, ?_⟩
  · simp only [seriesInfoLine, get_arr_decimal _ hBound, hEntry, except_ok_bind, JsVal.truthy_obj,
      JsVal.get_obj, hText]
    simp [String.append_assoc]
  all_goals
    have hDigits := Csv.lineFree_of_plain (Csv.plain_natText (i + 1))
    simp_all

/- `String(series.data[i])` of a `data` array of numbers, empty past its end. -/
theorem barCell_number
    {s : List (String × JsVal)}
    {values : List JsVal}
    (i j : Nat)
    (hArr : propValue s "data" = .arr values)
    (hNum : ∀ v ∈ values, ∃ n, v = .num n)
    (hBound : i < 4294967295) :
    barCell i j (.obj s) = .ok (.str (cellText (dataAt s i))) := by
  simp only [barCell, JsVal.get_obj, hArr, get_arr_decimal _ hBound, except_ok_bind, dataAt,
    List.getD_eq_getElem?_getD]
  cases hEntry : values[i]? with
  | none => rfl
  | some v =>
      obtain ⟨n, rfl⟩ := hNum v (List.getElem?_mem hEntry)
      rfl

/- One category row of series with `data` arrays of numbers. -/
theorem barRowLine_cells
    {categories : List JsVal}
    {series : List (List (String × JsVal))}
    {i : Nat}
    (hLabel : (categories.getD i .undefined).isLabel = true)
    (hBound : i < 4294967295)
    (hSeries : series ≠ [])
    (hData : ∀ s ∈ series, ∃ values, propValue s "data" = .arr values ∧
      ∀ v ∈ values, ∃ n, v = .num n) :
    barRowLine (.arr categories) (.arr (series.map .obj)) i =
      .ok (",".intercalate (cellText (categories.getD i .undefined) ::
        series.map fun s => cellText (dataAt s i)) ++ "\n") := by
  have hValues := JsVal.mapArray_eq_map (f := barCell i) (l := series.map .obj)
    (g := fun s => match s with
      | .obj props => .str (cellText (dataAt props i))
      | _ => .undefined) (by
      simp only [List.mem_map]
      rintro j _ ⟨s, hS, rfl⟩
      obtain ⟨values, hArr, hNum⟩ := hData s hS
      exact barCell_number i j hArr hNum hBound)
  simp only [List.map_map, Function.comp_def] at hValues
  rw [Csv.intercalate_comma_cons _ (by simpa using hSeries)]
  simp only [barRowLine, get_arr_decimal _ hBound, hValues, JsVal.toStr_label hLabel,
    except_ok_bind]
  simp [JsVal.join_cells, List.map_map, Function.comp_def]

/- The enhanced `categories` form reads back after its comment lines. -/
theorem exportBarChartData_reads : EnhancedBarChartReads := by
  intro data title categories series hCategoriesArr hSeriesArr hCategoriesLength hSeriesLength
    hSeries hAxes hCategories hTitles hData
  obtain ⟨xAxis, xTitle, hX, hXTitle, hXCell⟩ := hAxes "xAxis" (by simp)
  obtain ⟨yAxis, yTitle, hY, hYTitle, hYCell⟩ := hAxes "yAxis" (by simp)
  obtain ⟨xLine, hXLine, hXComment⟩ :=
    axisLine_comment "X-Axis" (by decide) (by decide) hXTitle hXCell
  obtain ⟨yLine, hYLine, hYComment⟩ :=
    axisLine_comment "Y-Axis" (by decide) (by decide) hYTitle hYCell
  obtain ⟨infoLines, hInfo, hInfoComments⟩ := except_mapM_forall
    (f := seriesInfoLine (.arr (series.map .obj))) (l := List.range series.length)
    (P := fun line => Csv.CommentLine line.data) (by
      intro i hI
      rw [List.mem_range] at hI
      refine seriesInfoLine_comment (s := series[i]) ?_ (by omega) (hTitles _ (List.getElem_mem hI))
      simp [List.getElem?_eq_getElem hI])
  have hHeaders : (JsVal.arr (series.map .obj)).mapArray
      (fun index _ => pure (.str ("Series_" ++ toString (index + 1)))) =
        .ok ((List.range series.length).map fun k => .str ("Series_" ++ toString (k + 1))) := by
    simpa [List.range_eq_range'] using JsVal.mapFrom_eq_range (f := fun index _ =>
      pure (.str ("Series_" ++ toString (index + 1)))) 0 (series.map .obj) fun _ _ => rfl
  have hRows := except_mapM_eq_ok (l := List.range categories.length)
    (f := barRowLine (.arr categories) (.arr (series.map .obj)))
    (g := fun i => ",".intercalate (cellText (categories.getD i .undefined) ::
      series.map fun s => cellText (dataAt s i)) ++ "\n") (by
      intro i hI
      rw [List.mem_range] at hI
      refine barRowLine_cells ?_ (by omega) hSeries hData
      rw [List.getD_eq_getElem?_getD, List.getElem?_eq_getElem hI]
      exact (hCategories _ (List.getElem_mem hI)).1)
  let body := Csv.document
    (("Category" :: (List.range series.length).map fun k => "Series_" ++ toString (k + 1)) ::
      (List.range categories.length).map fun i =>
        cellText (categories.getD i .undefined) :: series.map fun s => cellText (dataAt s i))
  refine ⟨"# Axis Information:\n" ++ xLine ++ yLine ++ "# Series Information:\n" ++
    String.join infoLines ++ "#\n" ++ body, ?_, ?_⟩
  · simp only [exportBarChartData, hCategoriesArr, hSeriesArr, except_ok_bind, JsVal.truthy_arr,
      Bool.not_true, Bool.or_self, hX, hY, hXLine, hYLine, JsVal.get_arr_length,
      JsVal.loopCount_length, List.length_map, hInfo, hHeaders, hRows,
      JsVal.join_cells "," (l := (List.range series.length).map fun k =>
        JsVal.str ("Series_" ++ toString (k + 1))) (by simp)]
    simp only [body, Csv.document_cons]
    rw [Csv.intercalate_comma_cons _ (by simpa using hSeries)]
    simp [Csv.document, List.map_map, Function.comp_def, String.append_assoc]
    rfl
  · have hSplit : ("# Axis Information:\n" ++ xLine ++ yLine ++ "# Series Information:\n" ++
        String.join infoLines ++ "#\n" ++ body).data =
        ((["# Axis Information:\n", xLine, yLine, "# Series Information:\n"] ++ infoLines ++
          ["#\n"]).map String.data).flatten ++ body.data := by
      simp
    rw [hSplit, Csv.dropComments_append]
    · refine Csv.read_document_plain fun fields hFields => ?_
      rcases List.mem_cons.1 hFields with rfl | hRecord
      · refine ⟨List.cons_ne_nil _ _, ?_⟩
        simp only [List.mem_cons, List.mem_map]
        rintro f (rfl | ⟨k, -, rfl⟩)
        · rfl
        · simp [Csv.plain_natText]
      · refine categoryRecords_plain (fun c hC => (hCategories c hC).2)
          (fun s hS i => ?_) _ hRecord
        obtain ⟨values, hArr, hNum⟩ := hData s hS
        refine plain_dataAt hArr (fun v hv => ?_) i
        obtain ⟨n, rfl⟩ := hNum v hv
        rfl
    · simp only [List.mem_map]
      rintro _ ⟨line, hLine, rfl⟩
      simp only [List.cons_append, List.mem_cons, List.mem_append, List.mem_singleton,
        List.not_mem_nil, or_false, false_or] at hLine
      rcases hLine with rfl | rfl | rfl | rfl | hLine | rfl
      · exact .inr ⟨" Axis Information:".data, rfl, by decide, by decide⟩
      · exact hXComment
      · exact hYComment
      · exact .inr ⟨" Series Information:".data, rfl, by decide, by decide⟩
      · exact .inr (hInfoComments line hLine)
      · exact .inr ⟨[], rfl, by decide, by decide⟩
    · exact Csv.document_head (by decide)

end Enhanced

------------------------------------------------------------
-- Missing Series
------------------------------------------------------------

namespace Enhanced

/- `series.data[i]` of a `null` or `undefined` series: a `TypeError`. -/
theorem barCell_nullish {s : JsVal} (hNullish : s.isNullish = true) (i j : Nat) :
    barCell i j s = .error .typeError := by
  cases s <;> first | rfl | cases hNullish

/- No category row is written while some series is `null` or `undefined`. -/
theorem barRowLine_nullish {categories hole : JsVal} {items : List JsVal}
    (hHole : hole ∈ items) (hNullish : hole.isNullish = true) (i : Nat) (line : String) :
    barRowLine categories (.arr items) i ≠ .ok line := by
  intro hLine
  obtain ⟨_, -, hRest⟩ := except_bind_eq_ok.1 hLine
  obtain ⟨values, hValues, -⟩ := except_bind_eq_ok.1 hRest
  obtain ⟨j, w, hCell⟩ := JsVal.mapFrom_ok_mem hValues hHole
  rw [barCell_nullish hNullish] at hCell
  cases hCell

end Enhanced

/-
  The enhanced bar chart export on a series array with a `null` or
  `undefined` element: its legend loop skips that series, but the
  first category's row reads `series.data[0]` of it, so whenever
  there is a category the export raises.
-/
theorem nullish_series_bar_export_raises
    (data : JsVal)
    (title : String)
    (category hole : JsVal)
    (categories items : List JsVal)
    (hCategories : data.get "categories" = .ok (.arr (category :: categories)))
    (hSeries : data.get "series" = .ok (.arr items))
    (hHole : hole ∈ items)
    (hNullish : hole.isNullish = true) :
    ∃ e, Enhanced.exportBarChartData data title = .error e := by
  cases hExport : Enhanced.exportBarChartData data title with
  | error e => exact ⟨e, rfl⟩
  | ok text =>
      exfalso
      simp only [Enhanced.exportBarChartData, hCategories, hSeries, except_ok_bind, JsVal.truthy_arr,
        Bool.not_true, Bool.or_false, Bool.false_eq_true, if_false, JsVal.get_arr_length,
        JsVal.loopCount_length] at hExport
      simp only [except_bind_eq_ok] at hExport
      obtain ⟨_, _, _, _, _, _, _, _, _, _, _, _, _, _, _, _, lines, hLines, -⟩ := hExport
      obtain ⟨line, hLine⟩ := except_mapM_ok_mem hLines (List.mem_range.2 (Nat.succ_pos _))
      exact Enhanced.barRowLine_nullish hHole hNullish 0 line hLine

/- One category and a `null` series. -/
theorem nullish_series_bar_export_raises_on_sample :
    ∃ e, Enhanced.exportBarChartData (.obj [("categories", .arr [.str "x"]), ("series", .arr [.null])]) "t" =
      .error e :=
  nullish_series_bar_export_raises _ "t" (.str "x") .null [] [.null] rfl rfl (List.mem_singleton_self _) rfl

end PanelExport
