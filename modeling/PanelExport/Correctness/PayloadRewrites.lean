import PanelExport.Js.IsoParse
import PanelExport.Correctness.TimeSeriesExport

/-
  Rewrites of a time-series payload that an exporter does not see.

  Both exporters key a row by `new Date(t).toISOString()`: the
  stashed one of the entry's first element as it is, the enhanced
  one of a number after reading it as seconds up to `1e10`, and of
  a string as it is.  `Date.parse` reads back every ISO text of a
  four-digit year, so writing each numeric timestamp as the ISO
  text of the instant the exporter reads it as leaves every row key,
  and so the whole export, as it was: the exporters take their own
  `DateTime` column back as input.

  The stashed series loop skips a series without a truthy `name`
  or a `values` array and reads nothing else of it, so dropping
  such series, as long as one is left, changes nothing either.

  Main declarations:
    * `mapProp`, `mapItems`, `isoEntry`, `isoTimestamps`, `filterItems`
    * `Stashed.exportTimeSeriesData_isoTimestamps`
    * `Enhanced.exportTimeSeriesData_isoTimestamps`
    * `iso_timestamps_export_alike`
    * `Stashed.collectNamedSeries_filter`, `skipped_series_dropped_alike`
-/

------------------------------------------------------------
-- Rewriting Payloads
------------------------------------------------------------

namespace PanelExport

/- `v` with the value of its own property `key` replaced by `g` of it, when `v` is an object. -/
def mapProp (key : String) (g : JsVal → JsVal) : JsVal → JsVal
  | .obj props => .obj (props.map fun p => if p.1 = key then (key, g p.2) else p)
  | v => v

/- `v` with each element replaced by `g` of it, when `v` is an array. -/
def mapItems (g : JsVal → JsVal) : JsVal → JsVal
  | .arr items => .arr (items.map g)
  | v => v

/-
  An entry `[t, ...]` whose number `t` an exporter reads as the
  instant `instant t` of a four-digit year, with `t` written as that
  instant's ISO text instead.
-/
def isoEntry (instant : Int → Int) : JsVal → JsVal
  | .arr (.num (.int t) :: rest) =>
      if isoMin ≤ instant t ∧ instant t ≤ isoMax then .arr (.str (isoString (instant t)) :: rest)
      else .arr (.num (.int t) :: rest)
  | v => v

/- A time-series payload with the timestamps of its series' entries so written. -/
def isoTimestamps (instant : Int → Int) : JsVal → JsVal :=
  mapProp "series" (mapItems (mapProp "values" (mapItems (isoEntry instant))))

/- An object stays an object. -/
theorem truthy_mapProp (key : String) (g : JsVal → JsVal) (v : JsVal) :
    (mapProp key g v).truthy = v.truthy := by
  cases v <;> rfl

/- Other properties of the object are read as before. -/
theorem get_mapProp_ne {key k : String} (g : JsVal → JsVal) (v : JsVal) (hNe : k ≠ key) :
    (mapProp key g v).get k = v.get k := by
  cases v with
  | obj props =>
      simp only [mapProp, JsVal.get, lookup_map_update, if_neg hNe]
      rfl
  | _ => rfl

/- Optional chaining reads the other properties as before too. -/
theorem getOpt_mapProp_ne {key k : String} (g : JsVal → JsVal) (v : JsVal) (hNe : k ≠ key) :
    (mapProp key g v).getOpt k = v.getOpt k := by
  rw [JsVal.getOpt, JsVal.getOpt, get_mapProp_ne g v hNe]
  cases v <;> rfl

/- The rewritten array property reads as the rewritten array, whatever the value is. -/
theorem get_mapProp_mapItems {key : String} (hKey : key = "series" ∨ key = "values")
    (h : JsVal → JsVal) (v : JsVal) :
    (mapProp key (mapItems h) v).get key = mapItems h <$> v.get key := by
  cases v with
  | obj props =>
      simp only [mapProp, JsVal.get, lookup_map_update, if_pos rfl]
      cases props.lookup key with
      | none => rcases hKey with rfl | rfl <;> rfl
      | some w => rfl
  | _ => rcases hKey with rfl | rfl <;> rfl

/- An entry is left as it is, or is one whose timestamp is rewritten. -/
theorem isoEntry_cases (instant : Int → Int) (e : JsVal) :
    isoEntry instant e = e ∨ ∃ t rest, e = .arr (.num (.int t) :: rest) ∧
      isoMin ≤ instant t ∧ instant t ≤ isoMax ∧
      isoEntry instant e = .arr (.str (isoString (instant t)) :: rest) := by
  unfold isoEntry
  split
  · rename_i t rest
    split_ifs with hRange
    · exact .inr ⟨t, rest, rfl, hRange.1, hRange.2, rfl⟩
    · exact .inl rfl
  · exact .inl rfl

------------------------------------------------------------
-- The Stashed Exporter
------------------------------------------------------------

namespace Stashed

/- The entries loop reads a rewritten timestamp as the same instant. -/
theorem collectNamedEntries_isoEntry (name : JsVal) (rows : List (String × Props))
    (entries : List JsVal) :
    collectNamedEntries name rows (entries.map (isoEntry id)) =
      collectNamedEntries name rows entries := by
  induction entries generalizing rows with
  | nil => rfl
  | cons e entries ih =>
      rw [List.map_cons]
      rcases isoEntry_cases id e with hSame | ⟨t, tail, rfl, hMin, hMax, hIso⟩
      · simp only [hSame, collectNamedEntries, ih]
      · have hHead : ∀ x, (JsVal.arr (x :: tail)).get "0" = .ok x := fun _ => rfl
        have hValue : ∀ x, (JsVal.arr (x :: tail)).get "1" = (JsVal.arr (.null :: tail)).get "1" :=
          fun _ => rfl
        have hParse : dateValue (.str (isoString t)) = dateValue (.num (.int t)) :=
          congrArg Except.ok (dateParse_isoString hMin hMax)
        simp only [hIso, collectNamedEntries, ih, hHead, hValue, id, except_ok_bind, hParse]

/- The series loop over rewritten series collects the same names and rows. -/
theorem collectNamedSeries_isoEntry (acc : List JsVal × List (String × Props))
    (series : List JsVal) :
    collectNamedSeries acc (series.map (mapProp "values" (mapItems (isoEntry id)))) =
      collectNamedSeries acc series := by
  induction series generalizing acc with
  | nil => rfl
  | cons s series ih =>
      obtain ⟨names, rows⟩ := acc
      rw [List.map_cons]
      simp only [collectNamedSeries, getOpt_mapProp_ne _ s (show "name" ≠ "values" by decide),
        get_mapProp_mapItems (.inr rfl), ih]
      cases s.getOpt "name" with
      | error e => rfl
      | ok name =>
          cases s.get "values" with
          | error e => rfl
          | ok values =>
              cases values <;> simp only [mapItems, except_map_ok, except_ok_bind,
                collectNamedEntries_isoEntry, ih]

/- The stashed export of a payload with its timestamps written as ISO texts. -/
theorem exportTimeSeriesData_isoTimestamps (data : JsVal) :
    exportTimeSeriesData (isoTimestamps id data) = exportTimeSeriesData data := by
  unfold exportTimeSeriesData isoTimestamps
  rw [truthy_mapProp, get_mapProp_mapItems (.inl rfl)]
  cases data.get "series" with
  | error e => rfl
  | ok series =>
      cases series with
      | arr items =>
          cases items with
          | nil => rfl
          | cons s rest =>
              simp only [mapItems, except_map_ok, except_ok_bind, List.map_cons]
              rw [← List.map_cons, collectNamedSeries_isoEntry]
      | _ => rfl

end Stashed

------------------------------------------------------------
-- The Enhanced Exporter
------------------------------------------------------------

namespace Enhanced

/- A rewritten timestamp keys the same row as the number it replaces. -/
theorem entryDateTime_isoString {t : Int} (hMin : isoMin ≤ instantOf t) (hMax : instantOf t ≤ isoMax) :
    entryDateTime (.str (isoString (instantOf t))) = entryDateTime (.num (.int t)) := by
  simp only [entryDateTime, dateParse_isoString hMin hMax, toMillis_int]

/- The entries loop reads a rewritten timestamp as the same instant. -/
theorem collectEntries_isoEntry (columnName : String) (rows : TimeRows) (entries : List JsVal) :
    collectEntries columnName rows (entries.map (isoEntry instantOf)) =
      collectEntries columnName rows entries := by
  induction entries generalizing rows with
  | nil => rfl
  | cons e entries ih =>
      rw [List.map_cons]
      rcases isoEntry_cases instantOf e with hSame | ⟨t, tail, rfl, hMin, hMax, hIso⟩
      · simp only [hSame, collectEntries, ih]
      · rw [hIso]
        cases tail with
        | nil => simp only [collectEntries, ih]
        | cons value more =>
            simp only [collectEntries, ih, entryDateTime_isoString hMin hMax]

/- The legend of a series reads none of its `values`. -/
theorem getSeriesLegendName_mapProp (g : JsVal → JsVal) (series : JsVal) (i : Nat) :
    getSeriesLegendName (mapProp "values" g series) i = getSeriesLegendName series i := by
  simp only [getSeriesLegendName, get_mapProp_ne g series (show "formattedName" ≠ "values" by decide),
    get_mapProp_ne g series (show "legendName" ≠ "values" by decide),
    get_mapProp_ne g series (show "displayName" ≠ "values" by decide),
    get_mapProp_ne g series (show "legend" ≠ "values" by decide),
    get_mapProp_ne g series (show "name" ≠ "values" by decide)]

/- The series loop over rewritten series collects the same legends and rows. -/
theorem collectSeries_isoEntry (i : Nat) (acc : List SeriesInfo × TimeRows) (series : List JsVal) :
    collectSeries i acc (series.map (mapProp "values" (mapItems (isoEntry instantOf)))) =
      collectSeries i acc series := by
  induction series generalizing i acc with
  | nil => rfl
  | cons s series ih =>
      obtain ⟨infos, rows⟩ := acc
      rw [List.map_cons]
      simp only [collectSeries, truthy_mapProp, get_mapProp_mapItems (.inr rfl),
        getSeriesLegendName_mapProp, ih]
      cases s.get "values" with
      | error e => rfl
      | ok values =>
          cases values <;> simp only [mapItems, except_map_ok, except_ok_bind,
            collectEntries_isoEntry, ih]

/-
  The enhanced export of a payload with each numeric timestamp
  written as the ISO text of its instant, seconds scaled first.
-/
theorem exportTimeSeriesData_isoTimestamps (data : JsVal) (title : String) :
    exportTimeSeriesData (isoTimestamps instantOf data) title = exportTimeSeriesData data title := by
  unfold exportTimeSeriesData isoTimestamps
  rw [get_mapProp_mapItems (.inl rfl)]
  cases data.get "series" with
  | error e => rfl
  | ok series =>
      cases series with
      | arr items =>
          cases items with
          | nil => rfl
          | cons s rest =>
              simp only [mapItems, except_map_ok, except_ok_bind, List.map_cons]
              rw [← List.map_cons, collectSeries_isoEntry]
      | _ => rfl

end Enhanced

/-
  Both time-series exporters write the same text when each numeric
  timestamp of the payload's entries is written as the ISO text of
  the instant the exporter reads it as, for instants of years `0000`
  to `9999`.
-/
theorem iso_timestamps_export_alike (data : JsVal) (title : String) :
    Stashed.exportTimeSeriesData (isoTimestamps id data) = Stashed.exportTimeSeriesData data ∧
      Enhanced.exportTimeSeriesData (isoTimestamps Enhanced.instantOf data) title =
        Enhanced.exportTimeSeriesData data title :=
  ⟨Stashed.exportTimeSeriesData_isoTimestamps data,
    Enhanced.exportTimeSeriesData_isoTimestamps data title⟩

------------------------------------------------------------
-- Skipped Series
------------------------------------------------------------

/- `v` with only the elements `keep` accepts, when `v` is an array. -/
def filterItems (keep : JsVal → Bool) : JsVal → JsVal
  | .arr items => .arr (items.filter keep)
  | v => v

/- The rewritten `series` property reads as the rewritten value, whatever the value is. -/
theorem get_mapProp_series (g : JsVal → JsVal) (hUndefined : g .undefined = .undefined) (v : JsVal) :
    (mapProp "series" g v).get "series" = g <$> v.get "series" := by
  have hRead : ∀ w : Except JsError JsVal, w = .ok .undefined → w = g <$> w := by
    rintro _ rfl
    rw [except_map_ok, hUndefined]
  cases v with
  | obj props =>
      simp only [mapProp, JsVal.get, lookup_map_update, if_pos rfl]
      cases props.lookup "series" with
      | none => exact hRead _ rfl
      | some w => rfl
  | _ => first | rfl | exact hRead _ rfl

/- Optional chaining never raises. -/
theorem JsVal.getOpt_ok (v : JsVal) (key : String) : ∃ w, v.getOpt key = .ok w := by
  unfold JsVal.getOpt
  split
  · exact ⟨_, rfl⟩
  · cases v <;> simp_all [JsVal.get, JsVal.isNullish]

namespace Stashed

/- `series?.name && Array.isArray(series.values)`: the series loop exports this series. -/
def seriesExported (series : JsVal) : Bool :=
  match series.getOpt "name", series.get "values" with
  | .ok name, .ok (.arr _) => name.truthy
  | _, _ => false

/- A series the loop does not export leaves the names and rows as they are. -/
theorem collectNamedSeries_skip {series : JsVal} (hSkip : seriesExported series = false)
    (acc : List JsVal × List (String × Props)) (rest : List JsVal) :
    collectNamedSeries acc (series :: rest) = collectNamedSeries acc rest := by
  obtain ⟨names, rows⟩ := acc
  obtain ⟨name, hName⟩ := JsVal.getOpt_ok series "name"
  simp only [collectNamedSeries, hName, except_ok_bind]
  cases hTruthy : name.truthy
  · simp only [Bool.not_false, if_true, bind_pure]
  · have hValues : ∃ values, series.get "values" = .ok values := by
      cases series <;> first | exact ⟨_, rfl⟩ | (cases hName; cases hTruthy)
    obtain ⟨values, hValues⟩ := hValues
    simp only [seriesExported, hName, hValues] at hSkip
    cases values <;> simp_all

/- The series loop over only the exported series collects the same names and rows. -/
theorem collectNamedSeries_filter (acc : List JsVal × List (String × Props)) (series : List JsVal) :
    collectNamedSeries acc (series.filter seriesExported) = collectNamedSeries acc series := by
  induction series generalizing acc with
  | nil => rfl
  | cons s series ih =>
      cases hKept : seriesExported s
      · rw [List.filter_cons_of_neg (by simp [hKept]), collectNamedSeries_skip hKept, ih]
      · obtain ⟨names, rows⟩ := acc
        rw [List.filter_cons_of_pos hKept]
        simp only [collectNamedSeries, ih]

end Stashed

/-
  The stashed time series export reads only the series it exports:
  dropping every series without a truthy name or a `values` array,
  as long as one is left, leaves the text as it is.
-/
theorem skipped_series_dropped_alike
    (data : JsVal)
    (series : List JsVal)
    (hSeries : data.get "series" = .ok (.arr series))
    (hKept : series.any Stashed.seriesExported = true) :
    Stashed.exportTimeSeriesData (mapProp "series" (filterItems Stashed.seriesExported) data) =
      Stashed.exportTimeSeriesData data := by
  obtain ⟨f, fs, hFiltered⟩ := List.exists_cons_of_ne_nil
    (show series.filter Stashed.seriesExported ≠ [] by simpa [List.filter_eq_nil_iff] using hKept)
  obtain ⟨s, ss, rfl⟩ := List.exists_cons_of_ne_nil (show series ≠ [] by rintro rfl; cases hKept)
  unfold Stashed.exportTimeSeriesData
  rw [truthy_mapProp, get_mapProp_series _ rfl, hSeries]
  simp only [filterItems, except_map_ok, except_ok_bind, hFiltered]
  rw [← hFiltered, Stashed.collectNamedSeries_filter]

/- A `null` before a named series: dropping it changes nothing. -/
theorem skipped_series_dropped_alike_on_sample :
    Stashed.exportTimeSeriesData (mapProp "series" (filterItems Stashed.seriesExported)
        (.obj [("series", .arr [.null, .obj [("name", .str "a"), ("values", .arr [])]])])) =
      Stashed.exportTimeSeriesData (.obj [("series", .arr [.null, .obj [("name", .str "a"), ("values", .arr [])]])]) :=
  skipped_series_dropped_alike _ _ rfl rfl

end PanelExport
