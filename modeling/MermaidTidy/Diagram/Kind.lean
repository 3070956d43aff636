import MermaidTidy.Text.WordChar
import MermaidTidy.Vocabulary

/-!
# Kinds of diagrams

Every diagram is declared by a keyword. `DiagramKind.leading?` finds the keyword at the start of a
text: the longest one that ends at a word boundary.
-/

namespace MermaidTidy

/-- The kind of a diagram, one for each keyword. -/
inductive DiagramKind
  | sequenceDiagram
  | flowchart
  | graph
  | classDiagram
  | stateDiagram
  | stateDiagramV2
  | erDiagram
  | journey
  | gantt
  | pie
  | quadrantChart
  | requirementDiagram
  | gitGraph
  | mindmap
  | timeline
  | sankey
  | xychart
  | block
  | architecture
deriving DecidableEq, Repr

namespace DiagramKind

/-- The keyword of a kind. -/
def keyword : DiagramKind → Text
  | .sequenceDiagram => "sequenceDiagram".toList
  | .flowchart => "flowchart".toList
  | .graph => "graph".toList
  | .classDiagram => "classDiagram".toList
  | .stateDiagram => "stateDiagram".toList
  | .stateDiagramV2 => "stateDiagram-v2".toList
  | .erDiagram => "erDiagram".toList
  | .journey => "journey".toList
  | .gantt => "gantt".toList
  | .pie => "pie".toList
  | .quadrantChart => "quadrantChart".toList
  | .requirementDiagram => "requirementDiagram".toList
  | .gitGraph => "gitGraph".toList
  | .mindmap => "mindmap".toList
  | .timeline => "timeline".toList
  | .sankey => "sankey-beta".toList
  | .xychart => "xychart-beta".toList
  | .block => "block-beta".toList
  | .architecture => "architecture-beta".toList

/-- All kinds. -/
def all : List DiagramKind :=
  [.sequenceDiagram, .flowchart, .graph, .classDiagram, .stateDiagram, .stateDiagramV2, .erDiagram,
   .journey, .gantt, .pie, .quadrantChart, .requirementDiagram, .gitGraph, .mindmap, .timeline,
   .sankey, .xychart, .block, .architecture]

theorem mem_all (k : DiagramKind) : k ∈ all := by cases k <;> decide

instance : Vocabulary DiagramKind where
  title := "diagram kind".toList
  members := all
  spelling := keyword

/-- All kinds in the order in which their keywords are looked for: where one keyword begins another,
the longer one comes first. -/
def longestFirst : List DiagramKind := .stateDiagramV2 :: all

/-- What follows the keyword of `k` at the start of `t`, if the keyword ends there as a word. -/
def after? (k : DiagramKind) (t : Text) : Option Text :=
  (k.keyword.isPrefixOf? t).filter Text.atWordEnd

/-- The kind whose keyword a text starts with, and what follows the keyword. -/
def leading? (t : Text) : Option (DiagramKind × Text) :=
  longestFirst.findSome? fun k => (k.after? t).map (k, ·)

/-- Kinds whose structure lives in the indentation of their lines. -/
def isIndentSensitive : DiagramKind → Bool
  | .mindmap | .timeline => true
  | _ => false

/-- Kinds that may be followed by a direction. -/
def isDirected : DiagramKind → Bool
  | .flowchart | .graph => true
  | _ => false

theorem eq_append_of_after? {k : DiagramKind} {t rest : Text} (h : k.after? t = some rest) :
    t = k.keyword ++ rest ∧ Text.atWordEnd rest = true := by
  obtain ⟨h, hb⟩ := Option.filter_eq_some_iff.1 h
  exact ⟨Text.isPrefixOf?_eq_some_iff.1 h, hb⟩

theorem eq_append_of_leading? {k : DiagramKind} {t rest : Text}
    (h : leading? t = some (k, rest)) : t = k.keyword ++ rest ∧ Text.atWordEnd rest = true := by
  obtain ⟨k', -, hk⟩ := List.exists_of_findSome?_eq_some h
  obtain ⟨r, hr, he⟩ := Option.map_eq_some_iff.1 hk
  cases he
  exact eq_append_of_after? hr

end DiagramKind

end MermaidTidy
