import Wiring.Proofs.Consuming
import Wiring.Proofs.Delivery

/-!
How the nodes of a graph are linked. Every edge leads to the node that supplies what an input of the
provider asks for, and that node was made before. A run keeps this from node to node, be the node
linked to a parameter, a new one or one that is used again.
-/

namespace Wiring

open Resolution

namespace Scope

variable {scope : Scope} {path : List TypeRef}

/-- The node that supplies a type: the parameter to choose for it, or if no parameter has its base a
provider node that stands for a type of its base. -/
inductive Supplies (scope : Scope) (nodes : Array Node) (t : TypeRef) : NodeId → Prop where
  | external {id : NodeId} {u : TypeRef} (hchosen : scope.Chosen t id)
      (hparam : scope.params[id]? = some u) (hnode : nodes[id]? = some (.external u id)) :
      Supplies scope nodes t id
  | provider {id : NodeId} {u : TypeRef} {p : Provider} {edges : List Edge}
      (hnone : ∀ v ∈ scope.params, v.base ≠ t.base)
      (hnode : nodes[id]? = some (.provider u p edges)) (hbase : u.base = t.base) :
      Supplies scope nodes t id

/-- An edge feeds an input: it leads to a node that supplies what the requested type comes to. -/
structure Linked (scope : Scope) (nodes : Array Node) (position : Nat) (input : Input)
    (e : Edge) : Prop where
  position : e.position = position
  requested : e.requested = input.type
  resolved : scope.aliases.resolve input.type = .ok e.resolved
  supplies : scope.Supplies nodes e.resolved e.node

/-- A provider node is the right one for the type that it stands for. Each of its inputs is fed by
one edge, in order, from nodes made before. -/
structure Wired (scope : Scope) (nodes : Array Node) (id : NodeId) (d : TypeRef) (p : Provider)
    (edges : List Edge) : Prop where
  found : scope.registry.find d = .ok p
  result : p.result.base = d.base
  final : scope.aliases.get? d = none
  unsupplied : ∀ u ∈ scope.params, u.base ≠ d.base
  length : edges.length = p.inputs.length
  linked : ∀ i (hi : i < p.inputs.length) (he : i < edges.length),
    scope.Linked nodes i p.inputs[i] edges[i]
  earlier : ∀ e ∈ edges, e.node < id

/-- The nodes of a graph under construction: first one for each parameter, then provider nodes that
are wired. -/
structure Frame (scope : Scope) (nodes : Array Node) : Prop where
  params : (start scope).nodes.toList <+: nodes.toList
  others : ∀ id node, scope.params.length ≤ id → nodes[id]? = some node →
    ∃ d p edges, node = .provider d p edges ∧ scope.Wired nodes id d p edges

theorem Supplies.of_grown {before after : Array Node} {t : TypeRef} {id : NodeId}
    (h : scope.Supplies before t id) (hgrown : before.toList <+: after.toList) :
    scope.Supplies after t id := by
  cases h with
  | external hchosen hparam hnode =>
      have hid := (Array.getElem?_eq_some_iff.mp hnode).1
      exact .external hchosen hparam (by rw [getElem?_eq_of_grown hgrown hid, hnode])
  | provider hnone hnode hbase =>
      have hid := (Array.getElem?_eq_some_iff.mp hnode).1
      exact .provider hnone (by rw [getElem?_eq_of_grown hgrown hid, hnode]) hbase

theorem Supplies.lt_size {nodes : Array Node} {t : TypeRef} {id : NodeId}
    (h : scope.Supplies nodes t id) : id < nodes.size := by
  cases h with
  | external _ _ hnode => exact (Array.getElem?_eq_some_iff.mp hnode).1
  | provider _ hnode _ => exact (Array.getElem?_eq_some_iff.mp hnode).1

theorem Linked.of_grown {before after : Array Node} {position : Nat} {input : Input} {e : Edge}
    (h : scope.Linked before position input e) (hgrown : before.toList <+: after.toList) :
    scope.Linked after position input e :=
  { h with supplies := h.supplies.of_grown hgrown }

theorem Wired.of_grown {before after : Array Node} {id : NodeId} {d : TypeRef} {p : Provider}
    {edges : List Edge} (h : scope.Wired before id d p edges)
    (hgrown : before.toList <+: after.toList) : scope.Wired after id d p edges :=
  { h with linked := fun i hi he => (h.linked i hi he).of_grown hgrown }

theorem Wired.ordered {nodes : Array Node} {id : NodeId} {d : TypeRef} {p : Provider}
    {edges : List Edge} (h : scope.Wired nodes id d p edges) : Edge.Ordered edges := by
  have hpositions : ∀ i (hi : i < edges.length), edges[i].position = 0 + i := fun i hi => by
    rw [(h.linked i (h.length ▸ hi) hi).position, Nat.zero_add]
  exact Edge.ordered_of_positions hpositions

theorem frame_start (scope : Scope) : scope.Frame (start scope).nodes where
  params := List.prefix_refl _
  others := by
    intro id node hle hnode
    have hlt := (Array.getElem?_eq_some_iff.mp hnode).1
    simp only [start, List.size_toArray, List.length_map, List.length_zipIdx] at hlt
    exact absurd hle (Nat.not_le_of_lt hlt)

/-- A node of a frame is a parameter or a wired provider node. -/
theorem Frame.node_cases {nodes : Array Node} (h : scope.Frame nodes) {id : NodeId} {node : Node}
    (hnode : nodes[id]? = some node) :
    (∃ t, node = .external t id) ∨
      ∃ d p edges, node = .provider d p edges ∧ scope.Wired nodes id d p edges := by
  rcases Nat.lt_or_ge id scope.params.length with hlt | hle
  · have hstart : (start scope).nodes[id]? = some (.external scope.params[id] id) := by
      simp [start, hlt]
    have hid := (Array.getElem?_eq_some_iff.mp hstart).1
    rw [getElem?_eq_of_grown h.params hid, hstart] at hnode
    cases hnode
    exact Or.inl ⟨_, rfl⟩
  · exact Or.inr (h.others id node hle hnode)

/-- A wired provider node may be added to a frame. -/
theorem Frame.push {nodes : Array Node} {d : TypeRef} {p : Provider} {edges : List Edge}
    (h : scope.Frame nodes) (hwired : scope.Wired nodes nodes.size d p edges) :
    scope.Frame (nodes.push (.provider d p edges)) := by
  have hgrown : nodes.toList <+: (nodes.push (.provider d p edges)).toList := by simp
  refine ⟨h.params.trans hgrown, fun id node hle hnode => ?_⟩
  rw [Array.getElem?_push] at hnode
  split at hnode
  case isTrue heq =>
    cases hnode
    rw [heq]
    exact ⟨d, p, edges, rfl, hwired.of_grown hgrown⟩
  case isFalse =>
    obtain ⟨d', p', edges', rfl, hold⟩ := h.others id node hle hnode
    exact ⟨d', p', edges', rfl, hold.of_grown hgrown⟩

end Scope

namespace Resolution

variable {scope : Scope} {path : List TypeRef}

/-- The frame stands, and a mark refers to a provider node of the type that it is for. -/
structure Framed (s : Resolution scope path) : Prop where
  frame : scope.Frame s.nodes
  marks : ∀ b id, s.marks[b]? = some (Mark.resolved id) →
    ∃ d p edges, s.nodes[id]? = some (Node.provider d p edges) ∧ d.base = b

theorem framed_start (scope : Scope) : (start scope).Framed where
  frame := Scope.frame_start scope
  marks := by
    intro b id hmark
    simp [start] at hmark

/-- The first nodes are those of the parameters. -/
theorem external_of_lt_start {id : Nat} (h : id < (start scope).nodes.size) :
    ∃ t, (start scope).nodes[id]? = some (.external t id) := by
  have hid : id < scope.params.length := by simpa [start] using h
  exact ⟨scope.params[id], by simp [start, hid]⟩

/-- The nil error is not made before the results are resolved. -/
theorem Framed.ne_zero {s : Resolution scope path} (h : s.Framed) (id : NodeId) :
    s.nodes[id]? ≠ some .zeroError := by
  intro hnode
  rcases h.frame.node_cases hnode with ⟨t, ht⟩ | ⟨d, p, edges, heq, -⟩
  · cases ht
  · cases heq

theorem Framed.use {s : Resolution scope path} (h : s.Framed) (id : NodeId) : (s.use id).Framed :=
  ⟨h.frame, h.marks⟩

theorem Framed.enter {s : Resolution scope path} (h : s.Framed) (t : TypeRef)
    (lookup : Lookup scope.registry) : (s.enter t lookup).Framed where
  frame := h.frame
  marks := by
    intro b id hmark
    rw [Resolution.enter, Std.ExtTreeMap.getElem?_insert] at hmark
    split at hmark
    · cases hmark
    · exact h.marks b id hmark

theorem Framed.leave {t : TypeRef} {s : Resolution scope (path ++ [t])} (h : s.Framed)
    (hnew : t.base ∉ path.map TypeRef.base) {p : Provider} {edges : List Edge}
    (hwired : scope.Wired s.nodes s.nodes.size t p edges) : (s.leave hnew p edges).Framed where
  frame := h.frame.push hwired
  marks := by
    intro b id hmark
    rw [Resolution.leave, Std.ExtTreeMap.getElem?_insert] at hmark
    split at hmark
    · rename_i heq
      cases hmark
      exact ⟨t, p, edges, by simp [Resolution.leave], Std.LawfulEqOrd.compare_eq_iff_eq.mp heq⟩
    · obtain ⟨d, q, more, hnode, hbase⟩ := h.marks b id hmark
      have hid := (Array.getElem?_eq_some_iff.mp hnode).1
      have hold := getElem?_eq_of_grown (grows_leave hnew p edges).nodes hid
      exact ⟨d, q, more, hold.trans hnode, hbase⟩

end Resolution

namespace Scope

variable {scope : Scope} {path : List TypeRef}

/-- What a run adds to a frame for a requested type: a node that supplies it. -/
structure Connects (s : Resolution scope path) (r : TypeRef) (supply : Supply)
    (s' : Resolution scope path) : Prop where
  nodes : s.nodes.toList <+: s'.nodes.toList
  framed : s'.Framed
  resolved : scope.aliases.resolve r = .ok supply.type
  supplies : scope.Supplies s'.nodes supply.type supply.node

/-- What a run adds to a frame for the inputs of a provider: an edge for each of them. -/
structure ConnectsAll (s : Resolution scope path) (inputs : List Input) (position : Nat)
    (edges : List Edge) (s' : Resolution scope path) : Prop where
  nodes : s.nodes.toList <+: s'.nodes.toList
  framed : s'.Framed
  length : edges.length = inputs.length
  linked : ∀ i (hi : i < inputs.length) (he : i < edges.length),
    scope.Linked s'.nodes (position + i) inputs[i] edges[i]

theorem ConnectsAll.ordered {s s' : Resolution scope path} {inputs : List Input} {position : Nat}
    {edges : List Edge} (h : ConnectsAll s inputs position edges s') : Edge.Ordered edges :=
  Edge.ordered_of_positions fun i hi => (h.linked i (h.length ▸ hi) hi).position

theorem connectsAll_of_gathered {s s' : Resolution scope path} {inputs : List Input}
    {position : Nat} {edges : List Edge}
    (h : Gathered (fun s r supply s' => s.Framed → Connects s r supply s') inputs position s edges
      s') (hframed : s.Framed) : ConnectsAll s inputs position edges s' := by
  induction h with
  | nil => exact ⟨List.prefix_refl _, hframed, rfl, fun i hi _ => absurd hi (Nat.not_lt_zero i)⟩
  | @cons input inputs position s mid s' supply edges hfirst _ ih =>
      have hone := hfirst hframed
      have hall := ih hone.framed
      refine ⟨hone.nodes.trans hall.nodes, hall.framed, by simp [hall.length], fun i hi he => ?_⟩
      cases i with
      | zero => exact ⟨rfl, rfl, hone.resolved, hone.supplies.of_grown hall.nodes⟩
      | succ i =>
          have hnext := hall.linked i (Nat.lt_of_succ_lt_succ hi) (Nat.lt_of_succ_lt_succ he)
          rw [Nat.add_right_comm] at hnext
          exact hnext

theorem connects_external {s : Resolution scope path} {r t : TypeRef} {id : NodeId}
    (hframed : s.Framed) (halias : scope.aliases.resolve r = .ok t)
    (hext : scope.external? t = some id) : Connects s r ⟨id, t⟩ (s.use id) := by
  obtain ⟨u, hparam, -⟩ := exists_param_of_external hext
  have hstart : (start scope).nodes[id]? = some (.external u id) := by simp [start, hparam]
  have hid := (Array.getElem?_eq_some_iff.mp hstart).1
  have hnode : (s.use id).nodes[id]? = some (.external u id) :=
    (getElem?_eq_of_grown hframed.frame.params hid).trans hstart
  exact ⟨List.prefix_refl _, hframed.use id, halias,
    .external (chosen_of_external hext) hparam hnode⟩

theorem connects_reused {hoist : Bool} {s : Resolution scope path} {r t : TypeRef} {id : NodeId}
    (hframed : s.Framed) (halias : scope.aliases.resolve r = .ok t)
    (hext : scope.external? t = none) (hreuse : s.reusable? hoist t = some id) :
    Connects s r ⟨id, t⟩ s := by
  obtain ⟨d, p, edges, hnode, hbase⟩ := hframed.marks _ _ (reusable?_eq_some hreuse)
  exact ⟨List.prefix_refl _, hframed, halias,
    .provider (external?_eq_none_iff.mp hext) hnode hbase⟩

theorem connects_built {hoist : Bool} {s : Resolution scope path} {r t : TypeRef} {p : Provider}
    {lookup : Lookup scope.registry} {edges : List Edge} {inner : Resolution scope (path ++ [t])}
    (hopens : Opens hoist s r t p)
    (hall : ConnectsAll (s.enter t lookup) p.inputs 0 edges inner) :
    Connects s r ⟨inner.nodes.size, t⟩ (inner.leave hopens.new p edges) := by
  have hnone := external?_eq_none_iff.mp hopens.ext
  have hlinked : ∀ i (hi : i < p.inputs.length) (he : i < edges.length),
      scope.Linked inner.nodes i p.inputs[i] edges[i] := by
    intro i hi he
    have h := hall.linked i hi he
    rwa [Nat.zero_add] at h
  have hearlier : ∀ e ∈ edges, e.node < inner.nodes.size := by
    intro e hmem
    obtain ⟨i, he, rfl⟩ := List.mem_iff_getElem.mp hmem
    exact (hlinked i (hall.length ▸ he) he).supplies.lt_size
  have hwired : scope.Wired inner.nodes inner.nodes.size t p edges :=
    { found := hopens.found
      result := Registry.result_of_find hopens.found
      final := Aliases.get?_of_resolve hopens.comesTo
      unsupplied := hnone
      length := hall.length
      linked := hlinked
      earlier := hearlier }
  have hnode : (inner.leave hopens.new p edges).nodes[inner.nodes.size]? =
      some (.provider t p edges) := by simp [leave]
  exact
    { nodes := hall.nodes.trans (grows_leave hopens.new p edges).nodes
      framed := hall.framed.leave hopens.new hwired
      resolved := hopens.comesTo
      supplies := .provider hnone hnode rfl }

/-- Every run adds to the frame and leaves it standing. -/
theorem connects_of_resolve {hoist : Bool} {s s' : Resolution scope path} {r : TypeRef}
    {supply : Supply} (h : scope.resolve hoist s r = .ok (supply, s')) :
    s.Framed → Connects s r supply s' := by
  refine resolve_induction (motive := fun _ s r supply s' => s.Framed → Connects s r supply s')
    ?_ ?_ ?_ h
  · intro path s r t id halias hext hframed
    exact connects_external hframed halias hext
  · intro path s r t id halias hext _ hreuse hframed
    exact connects_reused hframed halias hext hreuse
  · intro path s r t p lookup edges inner hopens hgathered hframed
    exact connects_built hopens (connectsAll_of_gathered hgathered (hframed.enter t lookup))

/-- An output names the node that supplies what its type comes to. -/
def Returned (scope : Scope) (nodes : Array Node) : Output → Prop
  | .value id r t => scope.aliases.resolve r = .ok t ∧ scope.Supplies nodes t id
  | .error _ => True

theorem Returned.of_grown {before after : Array Node} {output : Output}
    (h : scope.Returned before output) (hgrown : before.toList <+: after.toList) :
    scope.Returned after output := by
  cases output with
  | error source => trivial
  | value id r t => exact ⟨h.1, h.2.of_grown hgrown⟩

theorem framed_of_answered {s s' : Resolution scope path} {results : List Dependency}
    {outputs : List Output}
    (h : Answered (fun s r supply s' => s.Framed → Connects s r supply s') results s outputs s')
    (hframed : s.Framed) :
    s.nodes.toList <+: s'.nodes.toList ∧ s'.Framed ∧
      ∀ output ∈ outputs, scope.Returned s'.nodes output := by
  induction h with
  | nil => exact ⟨List.prefix_refl _, hframed, by simp⟩
  | error _ _ ih =>
      obtain ⟨hnodes, hafter, hreturned⟩ := ih hframed
      exact ⟨hnodes, hafter, List.forall_mem_cons.mpr ⟨trivial, hreturned⟩⟩
  | value _ hfirst _ ih =>
      have hone := hfirst hframed
      obtain ⟨hnodes, hafter, hreturned⟩ := ih hone.framed
      refine ⟨hone.nodes.trans hnodes, hafter, List.forall_mem_cons.mpr ⟨?_, hreturned⟩⟩
      exact ⟨hone.resolved, hone.supplies.of_grown hnodes⟩

/-- The results of a function leave a frame, and outputs that name nodes of it. -/
theorem framed_of_resolveResults {hoist hasError : Bool} {s' : Resolution scope []}
    {results : List Dependency} {outputs : List Output}
    (h : scope.resolveResults hoist results hasError (start scope) = .ok (outputs, s')) :
    s'.Framed ∧ ∀ output ∈ outputs, scope.Returned s'.nodes output :=
  (framed_of_answered ((answered_of_ok h).mono fun _ _ _ _ hrun => connects_of_resolve hrun)
    (framed_start scope)).2

end Scope

end Wiring
