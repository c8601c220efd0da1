import Wiring.Graph.Basic

/-!
The indented printout of a graph: a header, then a line for each result and, below it and one step
deeper, a line for each node that the node of the line above consumes. In a hoisted graph the nodes
below a provider are listed the first time only; later lines of it are marked as shared.
-/

namespace Wiring

inductive TreeEntry where
  | header (name target : String)
  /-- A use of a node under the type its consumer declares. -/
  | node (id : NodeId) (node : Node) (requested resolved : TypeRef) (shared : Bool)
  | propagatedError
  | nilError
deriving DecidableEq, Repr

structure TreeLine where
  depth : Nat
  entry : TreeEntry
deriving DecidableEq, Repr

namespace TreeEntry

def render : TreeEntry → String
  | header name target => name ++ " in \"" ++ target ++ "\""
  | node _ used requested resolved shared =>
    let type := requested.display ++
      if requested = resolved then "" else " => " ++ resolved.display
    match used with
    | .external .. => type ++ " (external)"
    | .zeroError => type ++ " <- nil"
    | .provider _ p _ =>
      type ++ " <- " ++ p.display ++ (if p.fallible then " (fallible)" else "") ++
        if shared then " (shared)" else ""
  | propagatedError => "error (propagated)"
  | nilError => "error <- nil"

end TreeEntry

namespace TreeLine

def render (line : TreeLine) : String :=
  String.join (List.replicate line.depth "  ") ++ line.entry.render

end TreeLine

namespace Graph

/-- The lines of a node and of what it consumes, and the provider nodes listed so far. An edge to a
later node is not followed, so the printout ends on every graph. -/
def nodeLines (g : Graph) (depth : Nat) (listed : List NodeId) (id : NodeId)
    (requested resolved : TypeRef) : List TreeLine × List NodeId :=
  match g.nodes[id]? with
  | none => ([], listed)
  | some node =>
    let shared := g.hoist && node.isProvider && listed.contains id
    let line : TreeLine := ⟨depth, .node id node requested resolved shared⟩
    if shared then
      ([line], listed)
    else
      (g.children id).foldl
        (fun (lines, listed) edge =>
          if edge.node < id then
            let (below, listed) :=
              g.nodeLines (depth + 1) listed edge.node edge.requested edge.resolved
            (lines ++ below, listed)
          else
            (lines, listed))
        ([line], if node.isProvider then id :: listed else listed)
termination_by id

/-- The lines of the results, one group after the other. -/
def outputLines (g : Graph) : List Output → List NodeId → List TreeLine
  | [], _ => []
  | .error .propagated :: rest, listed => ⟨1, .propagatedError⟩ :: g.outputLines rest listed
  | .error (.zero _) :: rest, listed => ⟨1, .nilError⟩ :: g.outputLines rest listed
  | .value id requested resolved :: rest, listed =>
    let (lines, listed) := g.nodeLines 1 listed id requested resolved
    lines ++ g.outputLines rest listed

def treeLines (g : Graph) : List TreeLine :=
  ⟨0, .header g.name g.target⟩ :: g.outputLines g.outputs []

/-- The printout, without a line feed at its end. -/
def print (g : Graph) : String :=
  "\n".intercalate (g.treeLines.map TreeLine.render)

end Graph

end Wiring
