import Wiring.Provider

/-!
The dependency graph of a function. Nodes are numbered in the order of their creation and only ever
appended; a provider node has an edge to each node it consumes, marked with the input that it feeds.
-/

namespace Wiring

abbrev NodeId := Nat

structure Edge where
  node : NodeId
  /-- Which input of the provider the node feeds. -/
  position : Nat
  /-- The type the provider declares. -/
  requested : TypeRef
  /-- The type after substitution. -/
  resolved : TypeRef
deriving DecidableEq, Repr

inductive Node where
  /-- A parameter of the function. -/
  | external (type : TypeRef) (position : Nat)
  /-- A value built by a provider from the nodes its edges name. -/
  | provider (type : TypeRef) (provider : Provider) (edges : List Edge)
  /-- The nil error of a function in which nothing can fail. -/
  | zeroError
deriving DecidableEq, Repr

namespace Node

/-- The type the node stands for. -/
def type? : Node → Option TypeRef
  | external type _ | provider type _ _ => some type
  | zeroError => none

/-- The type of the value the node holds, which may differ from the type it stands for by a
pointer. -/
def produces? : Node → Option TypeRef
  | external type _ => some type
  | provider _ p _ => some p.result
  | zeroError => none

def provider? : Node → Option Provider
  | provider _ p _ => some p
  | _ => none

def edges : Node → List Edge
  | provider _ _ edges => edges
  | _ => []

def isProvider (node : Node) : Bool :=
  node.provider?.isSome

def isFallible (node : Node) : Bool :=
  node.provider?.any Provider.fallible

end Node

/-- Where the error result of a function comes from. -/
inductive ErrorSource where
  /-- The error of the first provider that fails. -/
  | propagated
  /-- A node that is always nil. -/
  | zero (node : NodeId)
deriving DecidableEq, Repr

inductive Output where
  | value (node : NodeId) (requested resolved : TypeRef)
  | error (source : ErrorSource)
deriving DecidableEq, Repr

namespace Output

def isError : Output → Bool
  | error _ => true
  | value .. => false

/-- The node whose value is returned. -/
def value? : Output → Option NodeId
  | value node _ _ => some node
  | error _ => none

/-- The node the result depends on. -/
def root? : Output → Option NodeId
  | value node _ _ => some node
  | error (.zero node) => some node
  | error .propagated => none

end Output

structure Graph where
  name : String
  target : String
  hoist : Bool
  nodes : Array Node
  params : List NodeId
  outputs : List Output
deriving DecidableEq, Repr

namespace Graph

/-- All node numbers, in creation order. -/
def ids (g : Graph) : List NodeId :=
  List.range g.nodes.size

/-- The edges of a node in the order in which they were added. A number without a node has none. -/
def outgoing (g : Graph) (id : NodeId) : List Edge :=
  match g.nodes[id]? with
  | some node => node.edges
  | none => []

/-- The nodes a node consumes, in the order of its provider's inputs. -/
def children (g : Graph) (id : NodeId) : List Edge :=
  (g.outgoing id).mergeSort fun e e' => e.position ≤ e'.position

def edges (g : Graph) : List Edge :=
  g.nodes.toList.flatMap Node.edges

/-- How often a node is consumed, by providers and by the results of the function. -/
def consumers (g : Graph) (id : NodeId) : Nat :=
  g.edges.countP (fun edge => edge.node == id) +
    g.outputs.countP fun output => output.value? == some id

/-- The nodes that consume nothing, in creation order. -/
def leaves (g : Graph) : List NodeId :=
  g.ids.filter fun id => (g.outgoing id).isEmpty

def isFallible (g : Graph) : Bool :=
  g.nodes.any Node.isFallible

/-- What is left of the nodes after some rounds, each of which takes away the nodes that consume none
of those left before it. -/
def entangled (g : Graph) : Nat → List NodeId
  | 0 => g.ids
  | rounds + 1 =>
    let left := g.entangled rounds
    left.filter fun id => (g.outgoing id).any fun edge => left.contains edge.node

/-- Whether no walk along edges comes back to where it started. Each round takes away a node at
least, unless all that are left are on such walks or lead to one. -/
def isAcyclic (g : Graph) : Bool :=
  (g.entangled g.nodes.size).isEmpty

end Graph

end Wiring
