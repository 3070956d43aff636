import MermaidTidy.Layout.Render

/-!
# Rules of layout

How deep a statement is indented, and where a blank line is called for.

* `LayoutState` is what a pass over the statements remembers: whether the declaration has been seen
  and how many brace blocks are open;
* `LayoutState.depth` is the depth of a statement under that state;
* `needsBlankBefore` says where a blank line is called for.

The rules speak of `Option Statement`, since the place before the first statement is empty.
-/

namespace MermaidTidy

/-- What a pass over the statements remembers. -/
structure LayoutState where
  declared : Bool := false
  braces : Nat := 0
deriving DecidableEq, Repr

namespace LayoutState

/-- The state behind an opening brace. -/
def openBrace (s : LayoutState) : LayoutState := { s with braces := s.braces + 1 }

/-- The state at a closing brace. A closer without an open block changes nothing. -/
def closeBrace (s : LayoutState) : LayoutState := { s with braces := s.braces - 1 }

end LayoutState

/-- How a statement is placed once the declaration has been seen. -/
inductive Placement
  /-- At the left margin. -/
  | margin
  /-- At the depth of the open brace blocks. -/
  | brace
  /-- Inside the innermost open brace block, or one level in when none is open. -/
  | content
deriving DecidableEq, Repr

/-- The placement of a statement. -/
def Statement.placement : Statement → Placement
  | .declaration _ | .directive _ | .frontmatter _ | .blockStart _ _ | .blockOption _
  | .blockElse _ | .blockAnd _ | .blockEnd => .margin
  | .braceBlockStart _ _ | .braceBlockEnd => .brace
  | .participant _ | .note _ | .comment _ | .message _ | .generic _ | .blank => .content

/-- The depth of a placement. Before the declaration everything is at the margin. -/
def Placement.depth (p : Placement) (s : LayoutState) : Nat :=
  if s.declared then
    match p with
    | .margin => 0
    | .brace => s.braces
    | .content => max s.braces 1
  else 0

/-- The depth of a statement; an empty place counts as content. -/
def LayoutState.depth (s : LayoutState) (statement : Option Statement) : Nat :=
  ((statement.map Statement.placement).getD .content).depth s

/-- Statements that open a block. -/
def Statement.opensBlock : Statement → Bool
  | .blockStart _ _ | .braceBlockStart _ _ => true
  | _ => false

/-- Statements that must be set off from a block behind them. -/
def Statement.isContentBeforeBlock : Statement → Bool
  | .blockEnd | .braceBlockEnd | .generic _ | .message _ | .participant _ | .note _ => true
  | _ => false

/-- Whether a blank line is called for between `previous`, the nearest statement before that is not
blank, and `statement`. -/
def needsBlankBefore (statement previous : Option Statement) : Bool :=
  statement.any Statement.opensBlock && previous.any Statement.isContentBeforeBlock

/-- There is no statement to render. -/
inductive RenderFault
  | nothing
deriving DecidableEq, Repr

/-- The fault in words. -/
def RenderFault.message : RenderFault → Text
  | .nothing => "Cannot render NoneType".toList

/-- The text of the statement at a place that may be empty. -/
def renderPlace : Option Statement → Except RenderFault Text
  | some s => .ok s.render
  | none => .error .nothing

end MermaidTidy
