import PanelExport.Panel.Layout

/-
  What the header rows of `PanelActions` offer.

  At every width a row offers exactly the controls its memos
  build, some directly, some in an overflow menu: an overflow menu
  is dropped only when none of its children is an element, and then
  it had nothing to offer.  The enhanced row offers its export
  button at every width.  The stashed row offers the same controls
  without the export button, at every width, whatever its
  `csvExportButton` memo holds.

  Main declarations:
    * `presentActions`
    * `stashedActionsLayout_offered`, `enhancedActionsLayout_offered`
    * `enhancedActionsLayout_csvExport`
-/

------------------------------------------------------------
-- Controls Built
------------------------------------------------------------

namespace PanelExport

/- The controls the memos other than the export button build. -/
def presentActions (props : ActionsProps) (view : HeaderView) : List Action :=
  [descriptionAction props.description, linksAction props.links, indicatorNode view.indicator,
    extraActions props, readActions props, editActions props, moveAction props].flatMap
      Node.actions

/- None of those memos is an export button. -/
theorem csvExport_not_mem_presentActions (props : ActionsProps) (view : HeaderView) :
    Action.csvExport ∉ presentActions props view := by
  obtain ⟨description, links, extra, readHandlers, editing⟩ := props
  simp only [presentActions, List.flatMap_cons, List.flatMap_nil, List.append_nil,
    List.mem_append, not_or]
  refine ⟨?_, ?_, ?_, ?_, ?_, ?_, ?_⟩
  · cases description <;> simp only [descriptionAction] <;> (try split_ifs) <;> simp
  · cases links <;> simp only [linksAction] <;> (try split_ifs) <;> simp
  · cases view.indicator <;> simp [indicatorNode]
  · cases extra <;> simp only [extraActions, ExtraNode.toNode] <;> split_ifs <;> simp
  · simp only [readActions]; split_ifs <;> simp
  · simp only [editActions]; split_ifs <;> simp
  · simp only [moveAction]; split_ifs <;> simp

------------------------------------------------------------
-- Every Width
------------------------------------------------------------

/-
  The stashed row offers, at every width, each control its memos
  build and nothing else: never the export button.
-/
theorem stashedActionsLayout_offered (props : ActionsProps) (view : HeaderView) (w : HeaderWidth) :
    (offered (stashedActionsLayout props view w)).Perm (presentActions props view) ∧
      Action.csvExport ∉ offered (stashedActionsLayout props view w) := by
  have hPerm : (offered (stashedActionsLayout props view w)).Perm (presentActions props view) := by
    cases w <;> simp [stashedActionsLayout, presentActions]
  exact ⟨hPerm, fun hMem => csvExport_not_mem_presentActions props view (hPerm.subset hMem)⟩

/- The enhanced row offers, at every width, each control its memos build, the export button too. -/
theorem enhancedActionsLayout_offered (props : ActionsProps) (view : HeaderView)
    (w : HeaderWidth) :
    (offered (enhancedActionsLayout props view w)).Perm
      (presentActions props view ++ (csvExportButton view.exportButton).actions) := by
  cases w <;> simp [enhancedActionsLayout, presentActions, List.perm_append_left_iff]
  all_goals exact List.perm_append_comm

/- The enhanced row offers the export button, at any width, exactly when its memo built one. -/
theorem enhancedActionsLayout_csvExport (props : ActionsProps) (view : HeaderView)
    (w : HeaderWidth) :
    Action.csvExport ∈ offered (enhancedActionsLayout props view w) ↔
      view.exportButton.isSome = true := by
  rw [(enhancedActionsLayout_offered props view w).mem_iff, List.mem_append]
  cases view.exportButton <;> simp [csvExportButton, csvExport_not_mem_presentActions]

end PanelExport
