import Wiring.Proofs.Links
import Wiring.Proofs.Request

/-!
The structure of a resolved graph: which provider stands at a node, which nodes it consumes, and
that consuming leads to earlier nodes only.
-/

namespace Wiring

namespace Registry

variable {outputs : List Output} {fallible : Bool} {nodes : Array Node}

/-- Settling the error at most appends a propagated one, or it makes the declared one nil. -/
theorem settleError_cases (outputs : List Output) (fallible : Bool) (nodes : Array Node) :
    (∃ more, (∀ output ∈ more, output = .error .propagated) ∧
      settleError outputs fallible nodes = (outputs ++ more, nodes)) ∨
    outputs.any Output.isError = true ∧ settleError outputs fallible nodes =
      (outputs.map fun output => if output.isError then .error (.zero nodes.size) else output,
        nodes.push .zeroError) := by
  have hnone : ∃ more : List Output, (∀ output ∈ more, output = .error .propagated) ∧
      (outputs, nodes) = (outputs ++ more, nodes) := ⟨[], by simp⟩
  unfold settleError
  cases fallible with
  | true =>
      simp only [if_true]
      split
      · exact Or.inl ⟨[.error .propagated], by simp, rfl⟩
      · exact Or.inl hnone
  | false =>
      simp only [Bool.false_eq_true, if_false]
      split
      case isTrue hdeclared => exact Or.inr ⟨hdeclared, rfl⟩
      case isFalse => exact Or.inl hnone

theorem nodes_prefix_settleError (outputs : List Output) (fallible : Bool) (nodes : Array Node) :
    nodes.toList <+: (settleError outputs fallible nodes).2.toList := by
  rcases settleError_cases outputs fallible nodes with ⟨more, -, heq⟩ | ⟨-, heq⟩
  · simp [heq]
  · simp [heq]

/-- The only node that is added at the end is the nil error. -/
theorem getElem?_settleError {id : NodeId} {node : Node}
    (h : (settleError outputs fallible nodes).2[id]? = some node) :
    nodes[id]? = some node ∨ node = .zeroError := by
  rcases settleError_cases outputs fallible nodes with ⟨more, -, heq⟩ | ⟨-, heq⟩
  · rw [heq] at h
    exact Or.inl h
  · rw [heq, Array.getElem?_push] at h
    split at h
    · cases h
      exact Or.inr rfl
    · exact Or.inl h

theorem provider_of_settleError {id : NodeId} {t : TypeRef} {p : Provider} {edges : List Edge}
    (h : (settleError outputs fallible nodes).2[id]? = some (.provider t p edges)) :
    nodes[id]? = some (.provider t p edges) := by
  rcases getElem?_settleError h with hold | hzero
  · exact hold
  · cases hzero

/-- Settling the error leaves the values alone. -/
theorem mem_settleError {output : Output} (hvalue : output.isError = false)
    (h : output ∈ (settleError outputs fallible nodes).1) : output ∈ outputs := by
  rcases settleError_cases outputs fallible nodes with ⟨more, hmore, heq⟩ | ⟨-, heq⟩
  · rw [heq] at h
    rcases List.mem_append.mp h with hold | hnew
    · exact hold
    · rw [hmore output hnew] at hvalue
      cases hvalue
  · rw [heq] at h
    obtain ⟨before, hmem, hsettled⟩ := List.mem_map.mp h
    split at hsettled
    · cases hsettled
      cases hvalue
    · cases hsettled
      exact hmem

/-- The nodes whose values are returned stay the same. -/
theorem filterMap_value?_settleError (outputs : List Output) (fallible : Bool) (nodes : Array Node) :
    (settleError outputs fallible nodes).1.filterMap Output.value? =
      outputs.filterMap Output.value? := by
  rcases settleError_cases outputs fallible nodes with ⟨more, hmore, heq⟩ | ⟨-, heq⟩
  · have hnone : more.filterMap Output.value? = [] := by
      rw [List.filterMap_eq_nil_iff]
      intro output hmem
      rw [hmore output hmem]
      rfl
    rw [heq, List.filterMap_append, hnone, List.append_nil]
  · rw [heq, List.filterMap_map]
    refine List.filterMap_congr fun output _ => ?_
    cases output <;> rfl

end Registry

namespace Graph

/-- What holds of the graph of a request. -/
structure WellFormed (scope : Scope) (g : Graph) : Prop where
  providers : ∀ id d p edges, g.nodes[id]? = some (.provider d p edges) →
    scope.Wired g.nodes id d p (g.children id)
  outputs : ∀ output ∈ g.outputs, scope.Returned g.nodes output
  earlier : ∀ id child, g.Consumes id child → child < id
  acyclic : ∀ id, ¬ Relation.TransGen g.Consumes id id
  /-- The graph's own test finds this out. -/
  tested : g.isAcyclic = true
  childless : ∀ id node, g.nodes[id]? = some node →
    (g.children id = [] ↔ (∃ t position, node = .external t position) ∨ node = .zeroError ∨
      ∃ d p edges, node = .provider d p edges ∧ p.inputs = [])

end Graph

namespace Registry

variable {registry : Registry} {request : Request}

/-- Every node of a graph is a parameter, a wired provider node or the nil error. -/
theorem node_cases {outputs : List Output} {s : Resolution (registry.scope request) []}
    (hframed : s.Framed) {id : NodeId} {node : Node}
    (h : (registry.graph request outputs s).nodes[id]? = some node) :
    (∃ t, node = .external t id) ∨ node = .zeroError ∨
      ∃ d p edges, node = .provider d p edges ∧
        (registry.scope request).Wired (registry.graph request outputs s).nodes id d p edges := by
  rcases getElem?_settleError h with hold | hzero
  · rcases hframed.frame.node_cases hold with hparam | ⟨d, p, edges, rfl, hwired⟩
    · exact Or.inl hparam
    · exact Or.inr (Or.inr ⟨d, p, edges, rfl,
        hwired.of_grown (nodes_prefix_settleError outputs s.fallible s.nodes)⟩)
  · exact Or.inr (Or.inl hzero)

/-- The nodes of the parameters come first, in declared order. -/
theorem external_of_load {g : Graph} (h : registry.load request = .ok g) {id : NodeId}
    (hid : id < request.paramTypes.length) :
    g.nodes[id]? = some (.external request.paramTypes[id] id) := by
  obtain ⟨-, outputs, s, hresults, -, rfl⟩ := exists_of_load_ok h
  have hframed := (Scope.framed_of_resolveResults hresults).1
  have hgrown := hframed.frame.params.trans (nodes_prefix_settleError outputs s.fallible s.nodes)
  have hstart : (Resolution.start (registry.scope request)).nodes[id]? =
      some (.external request.paramTypes[id] id) := by
    simp [Resolution.start, scope, hid]
  have hlt := (Array.getElem?_eq_some_iff.mp hstart).1
  exact (getElem?_eq_of_grown hgrown hlt).trans hstart

theorem param_of_load {g : Graph} (h : registry.load request = .ok g) {id : NodeId}
    (hid : id < request.paramTypes.length) : ∃ t, g.nodes[id]? = some (.external t id) :=
  ⟨_, external_of_load h hid⟩

/-- What a node consumes was made before it. -/
theorem lt_of_consumes {g : Graph} (h : registry.load request = .ok g) {id child : NodeId}
    (hconsumes : g.Consumes id child) : child < id := by
  obtain ⟨-, outputs, s, hresults, -, rfl⟩ := exists_of_load_ok h
  have hframed := (Scope.framed_of_resolveResults hresults).1
  obtain ⟨node, hnode, e, he, rfl⟩ := Graph.exists_edge_of_consumes hconsumes
  rcases node_cases hframed hnode with ⟨t, rfl⟩ | rfl | ⟨d, p, edges, rfl, hwired⟩
  · cases he
  · cases he
  · exact hwired.earlier e he

/-- The edges of a graph were added in the order of the inputs. -/
theorem children_of_load {g : Graph} (h : registry.load request = .ok g) {id : NodeId} {node : Node}
    (hnode : g.nodes[id]? = some node) : g.children id = node.edges := by
  obtain ⟨-, outputs, s, hresults, -, rfl⟩ := exists_of_load_ok h
  refine Graph.children_eq hnode ?_
  rcases node_cases (Scope.framed_of_resolveResults hresults).1 hnode with
    ⟨t, rfl⟩ | rfl | ⟨d, p, edges, rfl, hwired⟩
  · exact .nil
  · exact .nil
  · exact hwired.ordered

/-- The graph of a request is well formed: its provider nodes are those that the registry has, they
consume what their inputs ask for, its outputs name what the results ask for, and nothing consumes
itself. -/
theorem wellFormed_of_load {g : Graph} (h : registry.load request = .ok g) :
    g.WellFormed (registry.scope request) := by
  have hload := h
  have hconsumes : ∀ id child, g.Consumes id child → child < id := fun _ _ => lt_of_consumes h
  obtain ⟨-, outputs, s, hresults, -, rfl⟩ := exists_of_load_ok h
  obtain ⟨hframed, hreturned⟩ := Scope.framed_of_resolveResults hresults
  have hacyclic := Graph.not_consumes_self hconsumes
  refine
    { providers := ?_
      outputs := ?_
      earlier := hconsumes
      acyclic := hacyclic
      tested := Graph.isAcyclic_iff.mpr hacyclic
      childless := ?_ }
  · intro id d p edges hnode
    rw [children_of_load hload hnode]
    rcases node_cases hframed hnode with ⟨t, ht⟩ | hzero | ⟨d', p', edges', heq, hwired⟩
    · cases ht
    · cases hzero
    · cases heq
      exact hwired
  · intro output hmem
    cases output with
    | error source => trivial
    | value id r t =>
        exact (hreturned _ (mem_settleError rfl hmem)).of_grown
          (nodes_prefix_settleError outputs s.fallible s.nodes)
  · intro id node hnode
    rw [children_of_load hload hnode]
    rcases node_cases hframed hnode with ⟨t, rfl⟩ | rfl | ⟨d, p, edges, rfl, hwired⟩
    · simp [Node.edges]
    · simp [Node.edges]
    · simp only [Node.edges, reduceCtorEq, exists_false, false_or, Node.provider.injEq]
      rw [← List.length_eq_zero_iff, hwired.length, List.length_eq_zero_iff]
      constructor
      · intro hinputs
        exact ⟨d, p, edges, ⟨rfl, rfl, rfl⟩, hinputs⟩
      · rintro ⟨d', p', edges', ⟨rfl, rfl, rfl⟩, hinputs⟩
        exact hinputs

end Registry

namespace Sample

/-- A type of a shop. -/
def type (name : String) : TypeRef :=
  ⟨"shop", name, false⟩

/-- A shop in which a cart and a ledger are built from one store. -/
def registry : Registry :=
  .ofList
    [{ importPath := "shop"
       name := none
       types :=
         [⟨"Store", .struct, [⟨"Clock", type "Clock"⟩]⟩,
          ⟨"Cart", .struct, [⟨"Store", (type "Store").withPointer true⟩, ⟨"Clock", type "Clock"⟩]⟩,
          ⟨"Ledger", .struct, [⟨"Store", type "Store"⟩]⟩]
       functions := [] }]

/-- A cart, an error, and a journal for which the ledger stands. -/
def request : Request where
  name := "Open"
  target := "main"
  params := [.param (type "Clock")]
  results := [.type (type "Cart"), .error, .type (type "Journal")]
  aliases := ⟨.ofList [(type "Journal", type "Ledger")]⟩
  hoist := true

/-- The composite literal of a type of the shop. -/
def literal (t : TypeRef) (inputs : List Input) : Provider where
  importPath := "shop"
  package := "shop"
  name := t.name
  kind := .struct
  inputs := inputs
  result := t
  fallible := false

def graph : Graph where
  name := "Open"
  target := "main"
  hoist := true
  nodes :=
    let clock := type "Clock"
    let store := type "Store"
    let shared := store.withPointer true
    #[.external clock 0,
      .provider shared (literal shared [⟨some "Clock", clock⟩]) [⟨0, 0, clock, clock⟩],
      .provider (type "Cart")
        (literal (type "Cart") [⟨some "Store", shared⟩, ⟨some "Clock", clock⟩])
        [⟨1, 0, shared, shared⟩, ⟨0, 1, clock, clock⟩],
      .provider (type "Ledger") (literal (type "Ledger") [⟨some "Store", store⟩])
        [⟨1, 0, store, store⟩],
      .zeroError]
  params := [0]
  outputs :=
    [.value 2 (type "Cart") (type "Cart"), .error (.zero 4),
      .value 3 (type "Journal") (type "Ledger")]

theorem load_request : registry.load request = .ok graph := by
  with_unfolding_all rfl

theorem wellFormed_graph :
    registry.load request = .ok graph ∧ graph.WellFormed (registry.scope request) :=
  ⟨load_request, Registry.wellFormed_of_load load_request⟩

end Sample

end Wiring
