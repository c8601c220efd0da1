import Wiring.Graph.Basic

/-!
The graph in the Graphviz language, with an arrow from each consumer to what it consumes.
-/

namespace Wiring.Graph

def label : Node → String
  | .external type _ => type.display ++ " (external)"
  | .provider type p _ => type.display ++ " <- " ++ p.display
  | .zeroError => "nil error"

/-- A character inside a quoted label. A line feed is written as the end of a left-justified line. -/
def labelChar (c : Char) : List Char :=
  if c = '"' ∨ c = '\\' then ['\\', c]
  else if c = '\n' then ['\\', 'l']
  else [c]

def dotNode (id : NodeId) (node : Node) : String :=
  "    " ++ toString id ++ " [ label = \"" ++
    String.ofList ((label node).toList.flatMap labelChar) ++ "\" ]\n"

def dotEdge (id : NodeId) (edge : Edge) : String :=
  "    " ++ toString id ++ " -> " ++ toString edge.node ++ " [ ]\n"

/-- Nodes in creation order, then edges in creation order. -/
def dot (g : Graph) : String :=
  let numbered := g.nodes.toList.zipIdx
  "digraph \x7b\n" ++
    String.join (numbered.map fun (node, id) => dotNode id node) ++
    String.join (numbered.flatMap fun (node, id) => node.edges.map (dotEdge id)) ++
    "\x7d\n"

end Wiring.Graph
