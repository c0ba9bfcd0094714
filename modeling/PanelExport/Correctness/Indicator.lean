import PanelExport.Panel.Header

/-
  The state indicator beside the header actions.

  The upstream `PanelActions` derives the indicator from the query
  results: a spinner while some result refetches and some result
  has data.  The stashed and enhanced `PanelActions` receive a
  payload in place of the results and fix the fetch flag and the
  error list, so every header they render shows no indicator,
  whatever the results hold; the stashed header renders none.

  Main declarations:
    * `queryStateIndicator_loading_iff`
    * `enhancedPanelHeader_indicator`, `stashedPanelActions_indicator`
    * `error_indicator_hidden`
-/

------------------------------------------------------------
-- Upstream Indicator
------------------------------------------------------------

namespace PanelExport

/- The upstream spinner shows exactly when a result fetches and one has data. -/
theorem queryStateIndicator_loading_iff (queryResults : List QueryData) :
    queryStateIndicator queryResults = .ok .loading ↔
      (∃ q ∈ queryResults, q.isFetching) ∧ (∃ q ∈ queryResults, q.data.truthy) := by
  dsimp only [queryStateIndicator]
  split
  · simp_all
  · constructor
    · intro hLoading
      split at hLoading
      · generalize errorTooltip _ = tooltip at hLoading
        cases tooltip <;> simp at hLoading
      · simp at hLoading
    · intro hBoth
      simp_all

------------------------------------------------------------
-- Fixed Indicators
------------------------------------------------------------

/- Every header the enhanced `PanelHeader` renders shows no indicator. -/
theorem enhancedPanelHeader_indicator
    {dataType : Option DataType}
    {queryResults : List QueryData}
    {view : HeaderView}
    (hRender : enhancedPanelHeader dataType queryResults = .ok view) :
    view.indicator = .none := by
  simp only [enhancedPanelHeader, enhancedPanelActions, enhancedQueryStateIndicator,
    fixedQueryStateIndicator_eq, except_bind_eq_ok, except_ok_bind, except_pure,
    Except.ok.injEq] at hRender
  obtain ⟨_, _, _, _, rfl⟩ := hRender
  rfl

/-
  Every header the stashed `PanelActions` renders, for any payload
  or list of results, shows no indicator.
-/
theorem stashedPanelActions_indicator
    {queryResults : JsVal}
    {panelType : PanelType}
    {view : HeaderView}
    (hRender : stashedPanelActions queryResults panelType = .ok view) :
    view.indicator = .none := by
  simp only [stashedPanelActions, stashedQueryStateIndicator,
    fixedQueryStateIndicator_eq, except_bind_eq_ok, except_ok_bind, except_pure,
    Except.ok.injEq] at hRender
  obtain ⟨_, _, _, _, rfl⟩ := hRender
  rfl

/-
  A result that failed without data: the upstream header shows the
  error icon, the enhanced header and the header of
  `PanelHeader.tsx` show nothing, and the stashed header raises
  before it renders.  Throughout, the upstream spinner follows the
  results, while the enhanced and stashed indicators never show.
-/
theorem error_indicator_hidden :
    let query : QueryData := ⟨.undefined, false, .str "boom"⟩
    upstreamPanelHeader [query] = .ok ⟨none, .errors "boom"⟩ ∧
      enhancedPanelHeader none [query] = .ok ⟨none, .none⟩ ∧
      listPanelHeader .other [query] = .ok ⟨none, .none⟩ ∧
      stashedPanelHeader .timeseries [query] = .error .referenceError ∧
      (∀ queryResults, queryStateIndicator queryResults = .ok .loading ↔
        (∃ q ∈ queryResults, q.isFetching) ∧ (∃ q ∈ queryResults, q.data.truthy)) ∧
      (∀ dataType queryResults view,
        enhancedPanelHeader dataType queryResults = .ok view → view.indicator = .none) ∧
      (∀ payload panelType view,
        stashedPanelActions payload panelType = .ok view → view.indicator = .none) :=
  ⟨rfl, rfl, rfl, rfl, queryStateIndicator_loading_iff, fun _ _ _ => enhancedPanelHeader_indicator,
    fun _ _ _ => stashedPanelActions_indicator⟩

end PanelExport
