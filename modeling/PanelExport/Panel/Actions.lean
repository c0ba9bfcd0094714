import PanelExport.Js.Convert

/-
  Query results, the header's state indicator, and what an export
  handler does.

  `QueryData` keeps the fields of a plugin-system query result the
  panel header reads.  The indicator is the one glyph beside the
  header actions: a spinner while a panel that already shows data
  refetches, else an error icon whose tooltip joins every error's
  text with line feeds.  The upstream `PanelActions` derives it
  from the query results; the stashed and enhanced ones receive a
  payload instead and fix `isFetching = false` and
  `queryErrors = []`.

  Main declarations:
    * `QueryData`, `QueryData.toJs`
    * `Indicator`, `errorText`
    * `queryStateIndicator` (upstream)
    * `stashedQueryStateIndicator`, `enhancedQueryStateIndicator`
    * `ExportOutcome`
-/

------------------------------------------------------------
-- Query Results
------------------------------------------------------------

namespace PanelExport

/- One query's outcome: payload, fetch in progress, error. -/
structure QueryData where
  data : JsVal
  isFetching : Bool
  error : JsVal
deriving Repr

/- The result as the JavaScript object the stashed components see. -/
def QueryData.toJs (q : QueryData) : JsVal :=
  .obj [("data", q.data), ("isFetching", .bool q.isFetching),
    ("error", q.error)]

------------------------------------------------------------
-- State Indicator
------------------------------------------------------------

/- What the state indicator renders. -/
inductive Indicator where
  | none
  | loading
  | errors (tooltip : String)
deriving DecidableEq, Repr

/-
  `e?.message ?? e?.toString() ?? 'Unknown error'` for one error;
  `toString()` on a value is its `ToString` text.
-/
def errorText (e : JsVal) : Except JsError JsVal := do
  let message ← e.getOpt "message"
  if !message.isNullish then pure message
  else if e.isNullish then pure (.str "Unknown error")
  else .str <$> e.toStr

/- The tooltip of the error icon: the texts joined by line feeds. -/
def errorTooltip (errors : List JsVal) : Except JsError String := do
  let texts ← errors.mapM errorText
  JsVal.join "\n" texts

/- The upstream indicator, derived from the query results. -/
def queryStateIndicator
    (queryResults : List QueryData) :
    Except JsError Indicator := do
  let hasData := queryResults.any (·.data.truthy)
  let isFetching := queryResults.any (·.isFetching)
  let queryErrors := queryResults.filter (·.error.truthy)
  if isFetching && hasData then pure .loading
  else if queryErrors.length > 0 then
    .errors <$> errorTooltip (queryErrors.map (·.error))
  else pure .none

/-
  The indicator of the stashed and enhanced `PanelActions`: the
  fetch flag and the error list are the constants `false` and
  `[]`, so neither glyph can appear.
-/
def fixedQueryStateIndicator : Except JsError Indicator := do
  let isFetching := false
  let queryErrors : List JsVal := []
  if isFetching then pure .loading
  else if queryErrors.length > 0 then .errors <$> errorTooltip queryErrors
  else pure .none

@[simp] theorem fixedQueryStateIndicator_eq :
    fixedQueryStateIndicator = .ok .none := rfl

/- The stashed `PanelActions` indicator for any `queryResults`. -/
def stashedQueryStateIndicator (_queryResults : JsVal) :
    Except JsError Indicator :=
  fixedQueryStateIndicator

/- The enhanced `PanelActions` indicator for any payload. -/
def enhancedQueryStateIndicator (_queryResults : JsVal) :
    Except JsError Indicator :=
  fixedQueryStateIndicator

------------------------------------------------------------
-- Export Outcome
------------------------------------------------------------

/- What invoking an export handler does when it returns. -/
inductive ExportOutcome where
  | nothing
  | download (fileName : String) (contents : String)
deriving DecidableEq, Repr

end PanelExport
