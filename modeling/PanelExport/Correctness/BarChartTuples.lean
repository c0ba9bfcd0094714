import PanelExport.Correctness.BarChartExport

/-
  What a CSV reader recovers from the stashed bar chart export of
  a flattened payload `{data: [{category, value, series?}]}`.

  The exporter collects the series names (`'Value'` for a tuple
  without one) and the categories with `new Set`, which compares
  them by `SameValueZero`, and reads each cell from the first tuple
  that `find` matches with `===`.  On text and numbers other than
  `NaN` both compare by content, so the columns and rows are the
  distinct names and categories in first-seen order.

  Main declarations:
    * `LabelKey`, `JsVal.labelKey`
    * `Stashed.uniqueWithSource_keys`, `Stashed.findTuple_keys`
    * `StashedFlattenedReads`
    * `bar_chart_exports_read_back`
-/

------------------------------------------------------------
-- Keys
------------------------------------------------------------

namespace PanelExport

/- What `===` compares a text or a number by. -/
inductive LabelKey where
  | text (s : String)
  | number (n : JsNum)
deriving DecidableEq, Repr

/- The text a key is written as. -/
def LabelKey.toText : LabelKey → String
  | .text s => s
  | .number n => n.toStr

namespace JsVal

/- A value `===` compares by content: text, or a number other than `NaN`. -/
def isKey : JsVal → Bool
  | .str _ => true
  | .num .nan => false
  | .num _ => true
  | _ => false

/- The content a key is compared by. -/
def labelKey : JsVal → LabelKey
  | .num n => .number n
  | .str s => .text s
  | _ => .text ""

/- A key is a label. -/
theorem isLabel_of_isKey {v : JsVal} (hKey : v.isKey = true) : v.isLabel = true := by
  cases v <;> simp_all [isKey, isLabel]

/- A label is written as the text of its key. -/
theorem cellText_label {v : JsVal} (hLabel : v.isLabel = true) :
    cellText v = v.labelKey.toText := by
  cases v <;> simp_all [isLabel, labelKey, LabelKey.toText, cellText]

/- `===` on keys compares their content. -/
theorem strictEq_key {a b : JsVal} (ha : a.isKey = true) (hb : b.isKey = true) :
    a.strictEq b = true ↔ a.labelKey = b.labelKey := by
  cases a <;> cases b <;> simp_all [isKey, labelKey, strictEq]
  rename_i n m
  cases n <;> cases m <;> simp_all [JsNum.strictEq]

/- So does `SameValueZero`, the equality of `Set`. -/
theorem sameValueZero_key {a b : JsVal} (ha : a.isKey = true) (hb : b.isKey = true) :
    a.sameValueZero b = true ↔ a.labelKey = b.labelKey := by
  cases a <;> cases b <;> simp_all [isKey, labelKey, sameValueZero, strictEq]
  rename_i n m
  cases n <;> cases m <;> simp_all [JsNum.sameValueZero, JsNum.strictEq]

end JsVal

------------------------------------------------------------
-- Sets of Keys
------------------------------------------------------------

namespace Stashed

/- A key is a primitive, so `Set` and `find` compare it by value. -/
theorem isPrimitive_key {v : JsVal} (hKey : v.isKey = true) : v.isPrimitive = true := by
  cases v <;> simp_all [JsVal.isKey, JsVal.isPrimitive]

/- `new Set` over keys keeps the first of each key, as `eraseDups` does. -/
theorem uniqueFrom_keys
    {i : Nat}
    {seen : List (JsVal × Nat)}
    {vs : List JsVal}
    (hSeen : ∀ m ∈ seen, m.1.isKey = true)
    (hVs : ∀ v ∈ vs, v.isKey = true) :
    (uniqueFrom i seen vs).map (·.1.labelKey) =
      List.eraseDups.loop (vs.map JsVal.labelKey) (seen.map (·.1.labelKey)).reverse := by
  induction vs generalizing i seen with
  | nil => simp [uniqueFrom, List.eraseDups.loop]
  | cons v vs ih =>
      have hV := hVs v (List.mem_cons_self v vs)
      have hRest := fun w hw => hVs w (List.mem_cons_of_mem v hw)
      have hCond : (v.isPrimitive && seen.any fun u => u.1.sameValueZero v) =
          (seen.map (·.1.labelKey)).reverse.elem v.labelKey := by
        rw [Bool.eq_iff_iff]
        simp only [isPrimitive_key hV, Bool.true_and, List.any_eq_true, List.elem_eq_mem,
          decide_eq_true_eq, List.mem_reverse, List.mem_map]
        exact exists_congr fun u => and_congr_right fun hU =>
          JsVal.sameValueZero_key (hSeen u hU) hV
      simp only [uniqueFrom, List.map_cons, List.eraseDups.loop, hCond]
      cases hElem : (seen.map (·.1.labelKey)).reverse.elem v.labelKey with
      | true => exact ih hSeen hRest
      | false =>
          have hNext : ∀ m ∈ seen ++ [(v, i)], m.1.isKey = true := by
            simp only [List.mem_append, List.mem_singleton]
            rintro m (hm | rfl)
            · exact hSeen m hm
            · exact hV
          simp only [Bool.false_eq_true, if_false]
          rw [ih hNext hRest]
          simp

/- The members of the set are the seen ones and values from the list. -/
theorem mem_uniqueFrom
    {i : Nat}
    {seen : List (JsVal × Nat)}
    {vs : List JsVal}
    {m : JsVal × Nat}
    (hMem : m ∈ uniqueFrom i seen vs) :
    m ∈ seen ∨ m.1 ∈ vs := by
  induction vs generalizing i seen with
  | nil => exact .inl hMem
  | cons v vs ih =>
      unfold uniqueFrom at hMem
      split at hMem
      · rcases ih hMem with h | h
        · exact .inl h
        · exact .inr (List.mem_cons_of_mem v h)
      · rcases ih hMem with h | h
        · rcases List.mem_append.1 h with h | h
          · exact .inl h
          · simp only [List.mem_singleton] at h
            exact .inr (h ▸ List.mem_cons_self _ _)
        · exact .inr (List.mem_cons_of_mem v h)

/- The set only grows. -/
theorem uniqueFrom_prefix (i : Nat) (seen : List (JsVal × Nat)) (vs : List JsVal) :
    seen <+: uniqueFrom i seen vs := by
  induction vs generalizing i seen with
  | nil => exact List.prefix_refl seen
  | cons v vs ih =>
      unfold uniqueFrom
      split
      · exact ih (i + 1) seen
      · exact (List.prefix_append seen [(v, i)]).trans (ih (i + 1) _)

/- `[...new Set(values)]` over keys: their first occurrences, in order. -/
theorem uniqueWithSource_keys {vs : List JsVal} (hVs : ∀ v ∈ vs, v.isKey = true) :
    (uniqueWithSource vs).map (·.1.labelKey) = (vs.map JsVal.labelKey).eraseDups :=
  uniqueFrom_keys (by simp) hVs

/- Every member of a set of keys is a key. -/
theorem uniqueWithSource_isKey {l : List JsVal} (hVs : ∀ v ∈ l, v.isKey = true) :
    ∀ m ∈ uniqueWithSource l, m.1.isKey = true := fun m hm => by
  rcases mem_uniqueFrom hm with h | h
  · simp at h
  · exact hVs _ h

/- A set built from some values has a member. -/
theorem uniqueWithSource_ne_nil {vs : List JsVal} (hVs : vs ≠ []) : uniqueWithSource vs ≠ [] := by
  obtain ⟨v, vs, rfl⟩ := List.exists_cons_of_ne_nil hVs
  obtain ⟨rest, hRest⟩ := uniqueFrom_prefix 1 [(v, 0)] vs
  simp [uniqueWithSource, uniqueFrom, ← hRest]

------------------------------------------------------------
-- Finding Tuples
------------------------------------------------------------

/- `d.series || 'Value'` of a tuple object. -/
def tupleSeriesName (t : List (String × JsVal)) : JsVal :=
  (propValue t "series").orElse (.str "Value")

/- The tuple a cell is read from: the first with the category and the series. -/
def matchingTuple (tuples : List (List (String × JsVal))) (category seriesName : LabelKey) :
    Option (List (String × JsVal)) :=
  tuples.find? fun t =>
    (propValue t "category").labelKey == category && (tupleSeriesName t).labelKey == seriesName

/- `===` on keys as a decision of key equality. -/
theorem strictEq_key_eq {a b : JsVal} (ha : a.isKey = true) (hb : b.isKey = true) :
    a.strictEq b = decide (a.labelKey = b.labelKey) :=
  Bool.eq_iff_iff.2 ((JsVal.strictEq_key ha hb).trans decide_eq_true_iff.symm)

/- `data.find(...)` over tuples whose category and series are keys. -/
theorem findTuple_keys
    {category seriesName : JsVal × Nat}
    (hCategory : category.1.isKey = true)
    (hSeriesName : seriesName.1.isKey = true)
    (i : Nat)
    {tuples : List (List (String × JsVal))}
    (hKeys : ∀ t ∈ tuples, (propValue t "category").isKey = true ∧
      (tupleSeriesName t).isKey = true) :
    findTuple category seriesName i (tuples.map .obj) =
      .ok ((matchingTuple tuples category.1.labelKey seriesName.1.labelKey).map .obj) := by
  induction tuples generalizing i with
  | nil => rfl
  | cons t tuples ih =>
      obtain ⟨hTupleCategory, hTupleSeries⟩ := hKeys t (List.mem_cons_self t tuples)
      have hRest := ih (i + 1) fun u hu => hKeys u (List.mem_cons_of_mem t hu)
      unfold tupleSeriesName at hTupleSeries
      simp only [findTuple, List.map_cons, JsVal.get_obj, except_pure, except_ok_bind, tupleSeries,
        sameAs, isPrimitive_key hTupleCategory, isPrimitive_key hTupleSeries, if_true,
        strictEq_key_eq hTupleCategory hCategory, strictEq_key_eq hTupleSeries hSeriesName, hRest]
      by_cases hSame : (propValue t "category").labelKey = category.1.labelKey ∧
          ((propValue t "series").orElse (.str "Value")).labelKey = seriesName.1.labelKey
      · simp [matchingTuple, tupleSeriesName, hSame]
      · simp_all [matchingTuple, tupleSeriesName]

/- The series columns of the flattened form: each series name once, first seen first. -/
def flattenedSeries (tuples : List (List (String × JsVal))) : List LabelKey :=
  (tuples.map fun t => (tupleSeriesName t).labelKey).eraseDups

/- The category rows of the flattened form. -/
def flattenedCategories (tuples : List (List (String × JsVal))) : List LabelKey :=
  (tuples.map fun t => (propValue t "category").labelKey).eraseDups

/- A cell: the value of the first matching tuple, empty when there is none. -/
def flattenedCell (tuples : List (List (String × JsVal))) (category seriesName : LabelKey) :
    String :=
  ((matchingTuple tuples category seriesName).map fun t => cellText (propValue t "value")).getD ""

/- The cell of one category and series. -/
theorem tupleCell_keys
    {category seriesName : JsVal × Nat}
    (hCategory : category.1.isKey = true)
    (hSeriesName : seriesName.1.isKey = true)
    {tuples : List (List (String × JsVal))}
    (hKeys : ∀ t ∈ tuples, (propValue t "category").isKey = true ∧
      (tupleSeriesName t).isKey = true) :
    tupleCell (tuples.map .obj) category seriesName =
      .ok (((matchingTuple tuples category.1.labelKey seriesName.1.labelKey).map fun t =>
        (propValue t "value").ifNullish (.str "")).getD (.str "")) := by
  unfold tupleCell
  rw [findTuple_keys hCategory hSeriesName 0 hKeys]
  cases matchingTuple tuples _ _ <;> rfl

/- The cell text of a found value, or of the empty string. -/
theorem cellText_foundValue (found : Option (List (String × JsVal))) :
    cellText ((found.map fun t => (propValue t "value").ifNullish (.str "")).getD (.str "")) =
      (found.map fun t => cellText (propValue t "value")).getD "" := by
  cases found <;> simp

/- The series columns: the keys of the series names, each once. -/
theorem uniqueWithSource_series_keys
    {tuples : List (List (String × JsVal))}
    (hKeys : ∀ t ∈ tuples, (tupleSeriesName t).isKey = true) :
    (uniqueWithSource (tuples.map tupleSeriesName)).map (·.1.labelKey) = flattenedSeries tuples := by
  rw [uniqueWithSource_keys (by simpa using hKeys)]
  simp [flattenedSeries, List.map_map, Function.comp_def]

/- The category rows: the keys of the categories, each once. -/
theorem uniqueWithSource_category_keys
    {tuples : List (List (String × JsVal))}
    (hKeys : ∀ t ∈ tuples, (propValue t "category").isKey = true) :
    (uniqueWithSource (tuples.map fun t => propValue t "category")).map (·.1.labelKey) =
      flattenedCategories tuples := by
  rw [uniqueWithSource_keys (by simpa using hKeys)]
  simp [flattenedCategories, List.map_map, Function.comp_def]

/- One category's line: its label, then its cell for each series. -/
theorem categoryLine_cells
    {tuples : List (List (String × JsVal))}
    {category : JsVal × Nat}
    (hCategory : category.1.isKey = true)
    (hTuples : tuples ≠ [])
    (hKeys : ∀ t ∈ tuples, (propValue t "category").isKey = true ∧
      (tupleSeriesName t).isKey = true)
    (hValues : ∀ t ∈ tuples, (propValue t "value").isNumberOrNull = true) :
    ((uniqueWithSource (tuples.map tupleSeriesName)).mapM
        (tupleCell (tuples.map .obj) category) >>= labelledLine category.1) =
      .ok (",".intercalate (category.1.labelKey.toText ::
        (flattenedSeries tuples).map (flattenedCell tuples category.1.labelKey)) ++ "\n") := by
  have hSeriesKeys := uniqueWithSource_isKey (l := tuples.map tupleSeriesName)
    (by simpa using fun t ht => (hKeys t ht).2)
  have hValuesMap := except_mapM_eq_ok (l := uniqueWithSource (tuples.map tupleSeriesName))
    (f := tupleCell (tuples.map .obj) category)
    (g := fun s => ((matchingTuple tuples category.1.labelKey s.1.labelKey).map fun t =>
      (propValue t "value").ifNullish (.str "")).getD (.str ""))
    fun s hs => tupleCell_keys hCategory (hSeriesKeys s hs) hKeys
  have hCells : ∀ s ∈ uniqueWithSource (tuples.map tupleSeriesName),
      (((matchingTuple tuples category.1.labelKey s.1.labelKey).map fun t =>
        (propValue t "value").ifNullish (.str "")).getD (.str "")).isCell = true := by
    intro s _
    cases hFound : matchingTuple tuples category.1.labelKey s.1.labelKey with
    | none => rfl
    | some t =>
        exact JsVal.isCell_ifNullish
          (JsVal.isCell_of_isNumberOrNull (hValues t (List.mem_of_find?_eq_some hFound)))
  have hLabel := JsVal.isLabel_of_isKey hCategory
  rw [hValuesMap, except_ok_bind, labelledLine_cells hLabel (List.forall_mem_map.2 hCells)
      (by simpa using uniqueWithSource_ne_nil (by simpa using hTuples)),
    JsVal.cellText_label hLabel, ← uniqueWithSource_series_keys fun t ht => (hKeys t ht).2]
  simp [List.map_map, Function.comp_def, flattenedCell, cellText_foundValue]

/- The text of the flattened form. -/
theorem flattenedRows_cells
    {tuples : List (List (String × JsVal))}
    (hTuples : tuples ≠ [])
    (hKeys : ∀ t ∈ tuples, (propValue t "category").isKey = true ∧
      (tupleSeriesName t).isKey = true)
    (hValues : ∀ t ∈ tuples, (propValue t "value").isNumberOrNull = true) :
    flattenedRows (tuples.map .obj) =
      .ok (Csv.document (("Category" :: (flattenedSeries tuples).map LabelKey.toText) ::
        (flattenedCategories tuples).map fun c =>
          c.toText :: (flattenedSeries tuples).map (flattenedCell tuples c))) := by
  have hNames := except_mapM_eq_ok (f := tupleSeries) (l := tuples.map .obj)
    (g := fun d => match d with | .obj t => tupleSeriesName t | _ => .undefined) (by
      simp only [List.mem_map]
      rintro _ ⟨t, -, rfl⟩
      rfl)
  have hCategories := except_mapM_eq_ok (f := fun d : JsVal => d.get "category") (l := tuples.map .obj)
    (g := fun d => match d with | .obj t => propValue t "category" | _ => .undefined) (by
      simp only [List.mem_map]
      rintro _ ⟨t, -, rfl⟩
      rfl)
  simp only [List.map_map, Function.comp_def] at hNames hCategories
  have hSeriesKeys := uniqueWithSource_isKey (l := tuples.map tupleSeriesName)
    (by simpa using fun t ht => (hKeys t ht).2)
  have hCategoryKeys := uniqueWithSource_isKey (l := tuples.map fun t => propValue t "category")
    (by simpa using fun t ht => (hKeys t ht).1)
  have hSeriesMap := uniqueWithSource_series_keys fun t ht => (hKeys t ht).2
  have hSeriesText :
      ((uniqueWithSource (tuples.map tupleSeriesName)).map Prod.fst).map cellText =
        (flattenedSeries tuples).map LabelKey.toText := by
    rw [← hSeriesMap, List.map_map, List.map_map]
    exact List.map_congr_left fun m hm =>
      JsVal.cellText_label (JsVal.isLabel_of_isKey (hSeriesKeys m hm))
  have hLines := except_mapM_eq_ok
    (l := uniqueWithSource (tuples.map fun t => propValue t "category"))
    (f := fun category => do
      let values ← (uniqueWithSource (tuples.map tupleSeriesName)).mapM
        (tupleCell (tuples.map .obj) category)
      labelledLine category.1 values)
    (g := fun m => ",".intercalate (m.1.labelKey.toText ::
      (flattenedSeries tuples).map (flattenedCell tuples m.1.labelKey)) ++ "\n")
    fun m hm => categoryLine_cells (hCategoryKeys m hm) hTuples hKeys hValues
  have hHeader := JsVal.join_cells "," (l := (uniqueWithSource (tuples.map tupleSeriesName)).map
    Prod.fst) (List.forall_mem_map.2 fun m hm =>
      JsVal.isCell_of_isLabel (JsVal.isLabel_of_isKey (hSeriesKeys m hm)))
  simp only [flattenedRows, hNames, hCategories, except_ok_bind, hHeader, hSeriesText, hLines]
  rw [Csv.document_cons, Csv.intercalate_comma_cons _ (by
      simpa [← hSeriesMap] using uniqueWithSource_ne_nil (by simpa using hTuples)),
    ← uniqueWithSource_category_keys fun t ht => (hKeys t ht).1]
  simp [Csv.document, List.map_map, Function.comp_def, String.append_assoc]

/- A flattened cell needs no quotes when every value is a number or `null`. -/
theorem plain_flattenedCell
    {tuples : List (List (String × JsVal))}
    (hValues : ∀ t ∈ tuples, (propValue t "value").isNumberOrNull = true)
    (category seriesName : LabelKey) :
    Csv.plain (flattenedCell tuples category seriesName).data = true := by
  unfold flattenedCell
  cases hFound : matchingTuple tuples category seriesName with
  | none => rfl
  | some t =>
      have hValue := hValues t (List.mem_of_find?_eq_some hFound)
      exact plain_cellText_of_nonstring fun s hS => by simp [hS, JsVal.isNumberOrNull] at hValue

end Stashed

/-
  The stashed bar law for the flattened form `{data: [{category,
  value, series?}]}`: a `Category` header and one column per series
  name, then one record per category, both in first-seen order, with
  the value of the first matching tuple in each cell.
-/
def StashedFlattenedReads : Prop :=
  ∀ (data categories series : JsVal) (tuples : List (List (String × JsVal))),
    data.get "categories" = .ok categories →
    data.get "series" = .ok series →
    (categories.truthy && series.truthy) = false →
    data.get "data" = .ok (.arr (tuples.map .obj)) →
    tuples ≠ [] →
    (∀ t ∈ tuples, (propValue t "category").isKey = true ∧
      Csv.plain (cellText (propValue t "category")).data = true) →
    (∀ t ∈ tuples, (Stashed.tupleSeriesName t).isKey = true ∧
      Csv.plain (cellText (Stashed.tupleSeriesName t)).data = true) →
    (∀ t ∈ tuples, (propValue t "value").isNumberOrNull = true) →
    ∃ text, Stashed.exportBarChartData data = .ok text ∧
      Csv.read text.data =
        ("Category" :: (Stashed.flattenedSeries tuples).map LabelKey.toText) ::
          (Stashed.flattenedCategories tuples).map fun c =>
            c.toText :: (Stashed.flattenedSeries tuples).map (Stashed.flattenedCell tuples c)

namespace Stashed

/- The stashed flattened form reads back. -/
theorem exportBarChartData_flattened_reads : StashedFlattenedReads := by
  intro data categories series tuples hCategoriesVal hSeriesVal hNotBoth hData hTuples
    hCategoryLabels hSeriesLabels hValues
  have hExport : exportBarChartData data = flattenedRows (tuples.map .obj) := by
    simp only [exportBarChartData, hCategoriesVal, hSeriesVal, hNotBoth, hData, except_ok_bind,
      Bool.false_eq_true, if_false, except_pure, except_bind_ok]
  have hKeys : ∀ t ∈ tuples, (propValue t "category").isKey = true ∧
      (tupleSeriesName t).isKey = true := fun t ht =>
    ⟨(hCategoryLabels t ht).1, (hSeriesLabels t ht).1⟩
  have hText : ∀ {v : JsVal}, v.isKey = true → v.labelKey.toText = cellText v := fun hKey =>
    (JsVal.cellText_label (JsVal.isLabel_of_isKey hKey)).symm
  refine ⟨_, hExport.trans (flattenedRows_cells hTuples hKeys hValues), Csv.read_document ?_⟩
  refine .cons ⟨by simp, .cons (Csv.encodes_plain rfl) ?_⟩ ?_
  · refine Csv.forall₂_map_of_mem fun k hk => Csv.encodes_plain ?_
    obtain ⟨t, ht, rfl⟩ := List.mem_map.1 (mem_eraseDups.1 hk)
    rw [hText (hKeys t ht).2]
    exact (hSeriesLabels t ht).2
  · refine Csv.forall₂_map_of_mem fun c hc => ⟨by simp, .cons (Csv.encodes_plain ?_) ?_⟩
    · obtain ⟨t, ht, rfl⟩ := List.mem_map.1 (mem_eraseDups.1 hc)
      rw [hText (hKeys t ht).1]
      exact (hCategoryLabels t ht).2
    · exact Csv.forall₂_map_of_mem fun s _ => Csv.encodes_plain (plain_flattenedCell hValues c s)

end Stashed

------------------------------------------------------------
-- The Decoding Law
------------------------------------------------------------

/-
  A category holding a comma is written as it is and reads back as
  two fields; with no series, the header and every line end in an
  empty field.
-/
theorem bar_category_with_comma_splits :
    let data : JsVal := .obj [("categories", .arr [.str "a,b"]),
      ("series", .arr [.obj [("name", .str "s"), ("data", .arr [.num (.int 1)])]])]
    let noSeries : JsVal := .obj [("categories", .arr [.str "a"]), ("series", .arr [])]
    Stashed.exportBarChartData data = .ok "Category,s\na,b,1\n" ∧
      Csv.read "Category,s\na,b,1\n".data = [["Category", "s"], ["a", "b", "1"]] ∧
      Stashed.exportBarChartData noSeries = .ok "Category,\na,\n" ∧
      Csv.read "Category,\na,\n".data = [["Category", ""], ["a", ""]] :=
  ⟨rfl, rfl, rfl, rfl⟩

/-
  Within those limits every bar chart export reads back as its
  header and one record per category.
-/
theorem bar_chart_exports_read_back :
    StashedBarChartReads ∧ EnhancedBarChartReads ∧ StashedFlattenedReads :=
  ⟨Stashed.exportBarChartData_reads, Enhanced.exportBarChartData_reads,
    Stashed.exportBarChartData_flattened_reads⟩

/- Samples of the three forms, with fractional values, read back. -/
theorem bar_chart_exports_read_back_on_samples :
    (∃ text, Stashed.exportBarChartData (.obj [("categories", .arr [.str "a", .num (.int 2)]),
        ("series", .arr [.obj [("name", .str "s"), ("data", .arr [.num (.round false 5 2), .null])]])]) =
          .ok text ∧
      Csv.read text.data = [["Category", "s"], ["a", "2.5"], ["2", ""]]) ∧
    (∃ text, Enhanced.exportBarChartData (.obj [("categories", .arr [.str "a"]),
        ("series", .arr [.obj [("name", .str "s"), ("data", .arr [.num (.int 1)])]]),
        ("xAxis", .obj [("title", .str "x")])]) "t" = .ok text ∧
      Csv.read (Csv.dropComments text.data) = [["Category", "Series_1"], ["a", "1"]]) ∧
    (∃ text, Stashed.exportBarChartData (.obj [("data", .arr [
        .obj [("category", .str "a"), ("value", .num (.int 1))],
        .obj [("category", .str "a"), ("series", .str "s"), ("value", .num (.int 2))],
        .obj [("category", .str "b"), ("series", .str "s"), ("value", .num (.round false 5 2))]])]) =
          .ok text ∧
      Csv.read text.data = [["Category", "Value", "s"], ["a", "1", "2"], ["b", "", "2.5"]]) :=
  ⟨bar_chart_exports_read_back.1 (.obj [("categories", .arr [.str "a", .num (.int 2)]),
        ("series", .arr [.obj [("name", .str "s"), ("data", .arr [.num (.round false 5 2), .null])]])])
      [.str "a", .num (.int 2)] [[("name", .str "s"), ("data", .arr [.num (.round false 5 2), .null])]]
      rfl rfl (by decide) (by simp) (by decide) (by decide)
      (by simp only [List.mem_singleton]; rintro s rfl; exact ⟨_, rfl, by decide⟩),
    bar_chart_exports_read_back.2.1 (.obj [("categories", .arr [.str "a"]),
        ("series", .arr [.obj [("name", .str "s"), ("data", .arr [.num (.int 1)])]]),
        ("xAxis", .obj [("title", .str "x")])]) "t" [.str "a"]
      [[("name", .str "s"), ("data", .arr [.num (.int 1)])]]
      rfl rfl (by decide) (by decide) (by simp)
      (by
        simp only [List.mem_cons, List.mem_singleton, List.not_mem_nil, or_false]
        rintro key (rfl | rfl)
        · exact ⟨.obj [("title", .str "x")], .str "x", rfl, rfl, fun _ => by decide⟩
        · exact ⟨.undefined, .undefined, rfl, rfl, fun h => absurd h (by decide)⟩)
      (by decide) (by decide)
      (by simp only [List.mem_singleton]; rintro s rfl; exact ⟨_, rfl, by simp⟩),
    bar_chart_exports_read_back.2.2 (.obj [("data", .arr [
        .obj [("category", .str "a"), ("value", .num (.int 1))],
        .obj [("category", .str "a"), ("series", .str "s"), ("value", .num (.int 2))],
        .obj [("category", .str "b"), ("series", .str "s"), ("value", .num (.round false 5 2))]])])
      .undefined .undefined [[("category", .str "a"), ("value", .num (.int 1))],
        [("category", .str "a"), ("series", .str "s"), ("value", .num (.int 2))],
        [("category", .str "b"), ("series", .str "s"), ("value", .num (.round false 5 2))]]
      rfl rfl rfl rfl (by simp) (by decide) (by decide) (by decide)⟩

end PanelExport
