import PanelExport.Panel.Header
import PanelExport.Js.Regex

/-
  The header row `PanelActions` renders: which controls appear at
  which header width, directly or in an overflow menu, and which
  show only on hover.

  Both `PanelActions` build the same memos (description, links,
  state indicator, `extra`, view, edit and move) and lay them out
  in three rows, one per container width: at a small width all but
  the drag handle go into an overflow menu, at a medium width the
  edit buttons do, at a large width none does.  The enhanced one
  adds its export button to an overflow menu at every width; the
  stashed one builds an export button memo and places it nowhere.
  JSX text between expressions is kept as text children, which are
  never elements.

  Main declarations:
    * `Action`, `Node`, `ActionsProps`
    * `overflowMenu`, `stashedActionsLayout`, `enhancedActionsLayout`
    * `offered`
-/

------------------------------------------------------------
-- Nodes and Memos
------------------------------------------------------------

namespace PanelExport

/- The controls `PanelActions` can put in a panel header. -/
inductive Action where
  | description
  | links
  | loading
  | errors
  | extra
  | viewPanel
  | editPanel
  | movePanel
  | csvExport
deriving DecidableEq, Repr

/- A child as React renders it: an element, text, or nothing (`undefined`, `null`, `false`). -/
inductive Node where
  | element (action : Action)
  | text (s : String)
  | empty
deriving DecidableEq, Repr

/- `isValidElement`. -/
def Node.isValidElement : Node → Bool
  | .element _ => true
  | _ => false

/- The control an element node renders. -/
def Node.actions : Node → List Action
  | .element a => [a]
  | _ => []

@[simp] theorem Node.actions_element (a : Action) : (Node.element a).actions = [a] := rfl
@[simp] theorem Node.actions_text (s : String) : (Node.text s).actions = [] := rfl
@[simp] theorem Node.actions_empty : Node.empty.actions = [] := rfl

/- A child that is no element renders no control. -/
theorem Node.actions_eq_nil {n : Node} (h : n.isValidElement = false) : n.actions = [] := by
  cases n <;> simp_all [isValidElement]

/- The `extra` node a caller passes: an element, text, or nothing. -/
inductive ExtraNode where
  | element
  | text (s : String)
  | nothing
deriving DecidableEq, Repr

/- The node `extra` renders as. -/
def ExtraNode.toNode : ExtraNode → Node
  | .element => .element .extra
  | .text s => .text s
  | .nothing => .empty

/-
  The props the action memos read: the description after variable
  replacement, the number of links if any are given, `extra`,
  `readHandlers.isPanelViewed` when read handlers are given, and
  whether edit handlers are given.
-/
structure ActionsProps where
  description : Option String
  links : Option Nat
  extra : ExtraNode
  readHandlers : Option Bool
  editing : Bool
deriving Repr

/- `description && description.trim().length > 0` and the info icon. -/
def descriptionAction (description : Option String) : Node :=
  match description with
  | some d => if 0 < (jsTrim d).length then .element .description else .empty
  | none => .empty

/- `links && links.length > 0 && <PanelLinks />`. -/
def linksAction (links : Option Nat) : Node :=
  match links with
  | some n => if 0 < n then .element .links else .empty
  | none => .empty

/- `editHandlers === undefined && extra`. -/
def extraActions (props : ActionsProps) : Node :=
  if props.editing then .empty else props.extra.toNode

/- The node of the state indicator memo: nothing, the spinner or the error icon. -/
def indicatorNode : Indicator → Node
  | .none => .empty
  | .loading => .element .loading
  | .errors _ => .element .errors

/- The view-panel button, when read handlers are given. -/
def readActions (props : ActionsProps) : Node :=
  if props.readHandlers.isSome then .element .viewPanel else .empty

/- The edit, duplicate and delete buttons, when edit handlers are given. -/
def editActions (props : ActionsProps) : Node :=
  if props.editing then .element .editPanel else .empty

/- `editActions && !readHandlers?.isPanelViewed` and the drag handle. -/
def moveAction (props : ActionsProps) : Node :=
  if (editActions props).isValidElement && !(props.readHandlers.getD false) then
    .element .movePanel
  else .empty

/- The export button memo: the button, or `null`. -/
def csvExportButton (exportButton : Option String) : Node :=
  match exportButton with
  | some _ => .element .csvExport
  | none => .empty

/-
  `OnHover`: outside edit mode and outside the panel view, its
  children show only while the pointer is over the panel.
-/
def hiddenUntilHover (props : ActionsProps) : Bool :=
  !props.editing && !(props.readHandlers.getD false)

------------------------------------------------------------
-- Header Rows
------------------------------------------------------------

/- What the actions put in the header row: a node, an overflow menu, the divider. -/
inductive Slot where
  | node (n : Node) (hidden : Bool)
  | menu (children : List Node) (hidden : Bool)
  | divider
deriving DecidableEq, Repr

/-
  `OverflowMenu`: a menu button whose popover holds the children,
  rendered only when some child is a valid element.
-/
def overflowMenu (children : List Node) (hidden : Bool) : List Slot :=
  if children.any Node.isValidElement then [.menu children hidden] else []

/- The three header widths the container queries tell apart. -/
inductive HeaderWidth where
  | small
  | medium
  | large
deriving DecidableEq, Repr

/-
  The header row of the stashed `PanelActions` at each width.  Its
  `csvExportButton` memo is built but placed at no width.
-/
def stashedActionsLayout (props : ActionsProps) (view : HeaderView) : HeaderWidth → List Slot
  | .small =>
      .divider :: overflowMenu [descriptionAction props.description, .text " ",
        linksAction props.links, .text " ", indicatorNode view.indicator, .text " ",
        extraActions props, .text " ", readActions props, .text " ", editActions props]
          (hiddenUntilHover props) ++
        [.node (moveAction props) (hiddenUntilHover props)]
  | .medium =>
      [.node (descriptionAction props.description) (hiddenUntilHover props),
        .node (.text " ") (hiddenUntilHover props),
        .node (linksAction props.links) (hiddenUntilHover props),
        .divider, .node (.text " ") false, .node (indicatorNode view.indicator) false,
        .node (extraActions props) (hiddenUntilHover props),
        .node (.text " ") (hiddenUntilHover props),
        .node (readActions props) (hiddenUntilHover props)] ++
        overflowMenu [editActions props] (hiddenUntilHover props) ++
        [.node (moveAction props) (hiddenUntilHover props)]
  | .large =>
      [.node (descriptionAction props.description) (hiddenUntilHover props),
        .node (.text " ") (hiddenUntilHover props),
        .node (linksAction props.links) (hiddenUntilHover props),
        .divider, .node (.text " ") false, .node (indicatorNode view.indicator) false,
        .node (extraActions props) (hiddenUntilHover props),
        .node (.text " ") (hiddenUntilHover props),
        .node (readActions props) (hiddenUntilHover props),
        .node (.text " ") (hiddenUntilHover props),
        .node (editActions props) (hiddenUntilHover props),
        .node (.text " ") (hiddenUntilHover props),
        .node (moveAction props) (hiddenUntilHover props)]

/-
  The header row of the enhanced `PanelActions`: the export button
  sits in an overflow menu at every width.
-/
def enhancedActionsLayout (props : ActionsProps) (view : HeaderView) : HeaderWidth → List Slot
  | .small =>
      .divider :: overflowMenu [descriptionAction props.description, .text " ",
        linksAction props.links, .text " ", indicatorNode view.indicator, .text " ",
        extraActions props, .text " ", readActions props, .text " ", editActions props,
        csvExportButton view.exportButton] (hiddenUntilHover props) ++
        [.node (moveAction props) (hiddenUntilHover props)]
  | .medium =>
      [.node (descriptionAction props.description) (hiddenUntilHover props),
        .node (.text " ") (hiddenUntilHover props),
        .node (linksAction props.links) (hiddenUntilHover props),
        .divider, .node (.text " ") false, .node (indicatorNode view.indicator) false,
        .node (extraActions props) (hiddenUntilHover props),
        .node (.text " ") (hiddenUntilHover props),
        .node (readActions props) (hiddenUntilHover props)] ++
        overflowMenu [editActions props, csvExportButton view.exportButton]
          (hiddenUntilHover props) ++
        [.node (moveAction props) (hiddenUntilHover props)]
  | .large =>
      [.node (descriptionAction props.description) (hiddenUntilHover props),
        .node (.text " ") (hiddenUntilHover props),
        .node (linksAction props.links) (hiddenUntilHover props),
        .divider, .node (.text " ") false, .node (indicatorNode view.indicator) false,
        .node (extraActions props) (hiddenUntilHover props),
        .node (.text " ") (hiddenUntilHover props),
        .node (readActions props) (hiddenUntilHover props),
        .node (.text " ") (hiddenUntilHover props),
        .node (editActions props) (hiddenUntilHover props),
        .node (.text " ") (hiddenUntilHover props),
        .node (moveAction props) (hiddenUntilHover props)] ++
        overflowMenu [csvExportButton view.exportButton] (hiddenUntilHover props)

------------------------------------------------------------
-- Offered Controls
------------------------------------------------------------

/- The controls a row offers: its elements, and those of the menus it renders. -/
def offered (slots : List Slot) : List Action :=
  slots.flatMap fun
    | .node n _ => n.actions
    | .menu children _ => children.flatMap Node.actions
    | .divider => []

@[simp] theorem offered_nil : offered [] = [] := rfl

@[simp] theorem offered_node (n : Node) (hidden : Bool) (slots : List Slot) :
    offered (.node n hidden :: slots) = n.actions ++ offered slots := rfl

@[simp] theorem offered_divider (slots : List Slot) : offered (.divider :: slots) = offered slots :=
  rfl

@[simp] theorem offered_append (slots slots' : List Slot) :
    offered (slots ++ slots') = offered slots ++ offered slots' := by
  simp [offered]

/- A menu offers its elements, and one without elements is not rendered. -/
@[simp] theorem offered_overflowMenu (children : List Node) (hidden : Bool) :
    offered (overflowMenu children hidden) = children.flatMap Node.actions := by
  unfold overflowMenu
  split
  · simp [offered]
  · rename_i hNone
    simp only [List.any_eq_true, not_exists, not_and, Bool.not_eq_true] at hNone
    simp [List.flatMap_eq_nil_iff.2 fun n hn => Node.actions_eq_nil (hNone n hn)]

end PanelExport
