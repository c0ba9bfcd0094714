import PanelExport.Js.IsoOrder
import PanelExport.Js.Rows
import PanelExport.Csv.Cells

/-
  The table both time-series exporters write.

  Each exporter turns every `[t, v]` entry into a write of `v`
  into the row of `toISOString(t)` and the column of its series,
  then writes the row keys sorted as strings.  When every instant
  has a four-digit year, the rows are one per distinct instant,
  in increasing order, and a row holds for each column the value
  of the last point written there.

  Main declarations:
    * `lastValue`, `pointWrites`, `instants`, `timeRecords`
    * `keys_pointWrites`, `cellOf_pointWrites`
    * `sorted_instants`, `read_timeDocument`
    * `timeRecords_map_column`
-/

------------------------------------------------------------
-- Entries
------------------------------------------------------------

namespace PanelExport

/- A `[t, v]` entry of a `values` array. -/
def pointVal (p : Int × JsVal) : JsVal :=
  .arr [.num (.int p.1), p.2]

/- An ISO text with a four-digit year needs no quotes. -/
theorem plain_isoString {t : Int} (hMin : isoMin ≤ t) (hMax : t ≤ isoMax) :
    Csv.plain (isoString t).data = true := by
  rw [Csv.plain_iff]
  intro c hc
  change c ∈ isoChars t at hc
  rw [isoChars_fields hMin hMax] at hc
  rcases mem_fieldsText hc with ⟨hLow, hHigh⟩ | ⟨f, hf, rfl⟩
  · refine ⟨?_, ?_, ?_, ?_⟩ <;> intro h <;> subst h <;> simp_all
  · simp only [isoFields, List.mem_cons, List.not_mem_nil, or_false] at hf
    rcases hf with rfl | rfl | rfl | rfl | rfl | rfl | rfl <;> simp [Csv.plainChar]

------------------------------------------------------------
-- Points
------------------------------------------------------------

section Points

variable {κ : Type}

/- The writes of the points: each value into its instant's row and its column. -/
def pointWrites (columnName : κ → String) (points : List (κ × Int × JsVal)) :
    List (String × String × JsVal) :=
  points.map fun p => (isoString p.2.1, columnName p.1, p.2.2)

/- The distinct instants of the points, in increasing order. -/
def instants (points : List (κ × Int × JsVal)) : List Int :=
  (points.map (·.2.1)).eraseDups.insertionSort (· ≤ ·)

/- Points at instants of years `0000` to `9999`, with numbers or `null` as values. -/
def TimePoints (points : List (κ × Int × JsVal)) : Prop :=
  ∀ p ∈ points, isoMin ≤ p.2.1 ∧ p.2.1 ≤ isoMax ∧ p.2.2.isNumberOrNull = true

theorem mem_instants {points : List (κ × Int × JsVal)} {t : Int} :
    t ∈ instants points ↔ ∃ p ∈ points, p.2.1 = t := by
  simp [instants, (List.perm_insertionSort _ _).mem_iff, mem_eraseDups]

/- The instants are in strictly increasing order. -/
theorem sorted_instants (points : List (κ × Int × JsVal)) :
    List.Sorted (· < ·) (instants points) :=
  (List.sorted_insertionSort _ _).lt_of_le
    ((List.perm_insertionSort _ _).nodup_iff.2 (nodup_eraseDups _))

theorem range_of_mem_instants
    {points : List (κ × Int × JsVal)}
    (hPoints : TimePoints points)
    {t : Int}
    (ht : t ∈ instants points) :
    isoMin ≤ t ∧ t ≤ isoMax := by
  obtain ⟨p, hp, rfl⟩ := mem_instants.1 ht
  exact ⟨(hPoints p hp).1, (hPoints p hp).2.1⟩

/- The row keys, sorted as strings, are the ISO texts of the instants in order. -/
theorem keys_pointWrites
    {points : List (κ × Int × JsVal)}
    (columnName : κ → String)
    (hPoints : TimePoints points) :
    sortStrings ((writeAll [] (pointWrites columnName points)).map Prod.fst) =
      (instants points).map isoString := by
  have hInjective : ∀ a ∈ points.map (·.2.1), ∀ b ∈ points.map (·.2.1),
      isoString a = isoString b → a = b := by
    intro a ha b hb
    obtain ⟨p, hp, rfl⟩ := List.mem_map.1 ha
    obtain ⟨q, hq, rfl⟩ := List.mem_map.1 hb
    exact isoString_injective ⟨(hPoints p hp).1, (hPoints p hp).2.1⟩
      ⟨(hPoints q hq).1, (hPoints q hq).2.1⟩
  have hFirst : (writeAll [] (pointWrites columnName points)).map Prod.fst =
      ((points.map (·.2.1)).map isoString).eraseDups := by
    simp only [keys_writeAll, pointWrites, List.map_map, List.map_nil, List.reverse_nil]
    rfl
  rw [hFirst, eraseDups_map isoString hInjective, sortStrings_isoString fun t ht =>
    range_of_mem_instants hPoints ((List.perm_insertionSort _ _).mem_iff.2 ht)]
  rfl

variable [DecidableEq κ]

/- The value of the last point of column `column` at instant `t`, `undefined` if none. -/
def lastValue (points : List (κ × Int × JsVal)) (column : κ) (t : Int) : JsVal :=
  ((points.reverse.find? fun p => p.1 = column ∧ p.2.1 = t).map (·.2.2)).getD .undefined

/- One record per instant: its ISO text, then each column's last value there. -/
def timeRecords (points : List (κ × Int × JsVal)) (columns : List κ) : List (List String) :=
  (instants points).map fun t => isoString t :: columns.map fun k => cellText (lastValue points k t)

/- `lastValue` is `undefined` or the value of one of the points. -/
theorem lastValue_cases
    (P : JsVal → Prop)
    {points : List (κ × Int × JsVal)}
    (hUndefined : P .undefined)
    (hPoints : ∀ p ∈ points, P p.2.2)
    (column : κ)
    (t : Int) :
    P (lastValue points column t) := by
  unfold lastValue
  cases hFind : points.reverse.find? fun p => p.1 = column ∧ p.2.1 = t with
  | none => exact hUndefined
  | some p => exact hPoints p (List.mem_reverse.1 (List.mem_of_find?_eq_some hFind))

variable {points : List (κ × Int × JsVal)}

/- The cell of an instant's row and a column holds the last point there. -/
theorem cellOf_pointWrites
    {columnName : κ → String}
    (hColumn : ∀ a b, columnName a = columnName b → a = b)
    (hPoints : TimePoints points)
    {t : Int}
    (ht : t ∈ instants points)
    (k : κ) :
    (cellOf (writeAll [] (pointWrites columnName points)) (isoString t) (columnName k)).getD
      .undefined = lastValue points k t := by
  have hT := range_of_mem_instants hPoints ht
  have hSame : ∀ p ∈ points.reverse,
      decide (isoString p.2.1 = isoString t ∧ columnName p.1 = columnName k) =
        decide (p.1 = k ∧ p.2.1 = t) := by
    intro p hp
    have hIn := hPoints p (List.mem_reverse.1 hp)
    exact decide_eq_decide.2 ⟨fun h => ⟨hColumn _ _ h.2, isoString_injective ⟨hIn.1, hIn.2.1⟩ hT h.1⟩,
      fun h => by rw [h.1, h.2]; exact ⟨rfl, rfl⟩⟩
  rw [cellOf_writeAll, pointWrites, ← List.map_reverse, List.find?_map]
  simp only [Function.comp_def]
  rw [find?_congr hSame]
  simp [lastValue, cellOf, Option.map_map, Function.comp_def]

theorem isCell_lastValue (hPoints : TimePoints points) (k : κ) (t : Int) :
    (lastValue points k t).isCell = true :=
  lastValue_cases (fun v => v.isCell = true) rfl
    (fun p hp => JsVal.isCell_of_isNumberOrNull (hPoints p hp).2.2) k t

theorem plain_lastValue (hPoints : TimePoints points) (k : κ) (t : Int) :
    Csv.plain (cellText (lastValue points k t)).data = true :=
  lastValue_cases (fun v => Csv.plain (cellText v).data = true) rfl
    (fun p hp => plain_cellText_of_nonstring fun s hS => by
      simpa [hS, JsVal.isNumberOrNull] using (hPoints p hp).2.2) k t

/- The row lines over the sorted keys are the lines of the records. -/
theorem mapM_rowLines
    (rowLine : String → Except JsError String)
    (columns : List κ)
    (hRow : ∀ t ∈ instants points, rowLine (isoString t) =
      .ok (",".intercalate (isoString t :: columns.map fun k => cellText (lastValue points k t)) ++
        "\n")) :
    ((instants points).map isoString).mapM rowLine =
      .ok ((timeRecords points columns).map fun fields => ",".intercalate fields ++ "\n") := by
  rw [timeRecords, List.map_map]
  exact except_mapM_map_eq_ok hRow

/- A plain header over the records reads back as written. -/
theorem read_timeDocument
    (hPoints : TimePoints points)
    (columns : List κ)
    {header : List String}
    (hHeader : header ≠ [])
    (hPlain : ∀ f ∈ header, Csv.plain f.data = true) :
    Csv.read (Csv.document (header :: timeRecords points columns)).data =
      header :: timeRecords points columns := by
  refine Csv.read_document_plain fun fields hFields => ?_
  rcases List.mem_cons.1 hFields with rfl | hRecord
  · exact ⟨hHeader, hPlain⟩
  · obtain ⟨t, ht, rfl⟩ := List.mem_map.1 hRecord
    refine ⟨List.cons_ne_nil _ _, fun f hf => ?_⟩
    rcases List.mem_cons.1 hf with rfl | hCell
    · exact plain_isoString (range_of_mem_instants hPoints ht).1 (range_of_mem_instants hPoints ht).2
    · obtain ⟨k, _, rfl⟩ := List.mem_map.1 hCell
      exact plain_lastValue hPoints k t

end Points

------------------------------------------------------------
-- Renaming Columns
------------------------------------------------------------

section Renaming

variable {κ κ' : Type}

/- The instants do not depend on the columns' names. -/
theorem instants_map_column (g : κ → κ') (points : List (κ × Int × JsVal)) :
    instants (points.map fun p => (g p.1, p.2)) = instants points := by
  simp [instants, List.map_map, Function.comp_def]

variable [DecidableEq κ] [DecidableEq κ']

/- Under a renaming that merges no column into `k`, `k`'s last values keep. -/
theorem lastValue_map_column
    (g : κ → κ')
    {points : List (κ × Int × JsVal)}
    {k : κ}
    (hInj : ∀ p ∈ points, g p.1 = g k → p.1 = k)
    (t : Int) :
    lastValue (points.map fun p => (g p.1, p.2)) (g k) t = lastValue points k t := by
  have hSame : ∀ p ∈ points.reverse,
      decide (g p.1 = g k ∧ p.2.1 = t) = decide (p.1 = k ∧ p.2.1 = t) := by
    intro p hp
    exact decide_eq_decide.2 ⟨fun h => ⟨hInj p (List.mem_reverse.1 hp) h.1, h.2⟩,
      fun h => ⟨by rw [h.1], h.2⟩⟩
  unfold lastValue
  rw [← List.map_reverse, List.find?_map]
  simp only [Function.comp_def]
  rw [find?_congr hSame]
  cases points.reverse.find? (fun p => decide (p.1 = k ∧ p.2.1 = t)) <;> rfl

/- Renaming the columns one to one renames the records' columns and changes no cell. -/
theorem timeRecords_map_column
    (g : κ → κ')
    {points : List (κ × Int × JsVal)}
    {columns : List κ}
    (hInj : ∀ k ∈ columns, ∀ p ∈ points, g p.1 = g k → p.1 = k) :
    timeRecords (points.map fun p => (g p.1, p.2)) (columns.map g) = timeRecords points columns := by
  unfold timeRecords
  rw [instants_map_column]
  refine List.map_congr_left fun t _ => ?_
  rw [List.map_map]
  exact congrArg _ (List.map_congr_left fun k hk => by
    simp only [Function.comp_apply, lastValue_map_column g (hInj k hk)])

end Renaming

end PanelExport
