import Wiring.Proofs.Consumption

/-!
A graph has what is needed and nothing else. The base types that are built are those that the
request requires; a node is made once for each of them when hoisting, and otherwise once for each
use. No parameter is left over.
-/

namespace Wiring

open Resolution

/-- How a graph spends its nodes on what is requested. -/
structure Graph.Economical (g : Graph) (scope : Scope) (requested : List TypeRef) (hoist : Bool) :
    Prop where
  built : ∀ b, (∃ id t, g.Builds id t ∧ t.base = b) ↔ scope.Required requested b
  shared : hoist = true →
    ∀ id id' t t', g.Builds id t → g.Builds id' t' → t.base = t'.base → id = id'
  copied : hoist = false → ∀ id t, g.Builds id t → g.consumers id = 1
  /-- Without hoisting each provider node stands in the tree of one result. -/
  trees : hoist = false → ∀ id t, g.Builds id t → ∃! position, g.Below position id
  /-- A result is the root of such a tree unless a parameter supplies it. -/
  roots : ∀ (position : Nat) root r t, g.outputs[position]? = some (.value root r t) →
    (∀ u ∈ scope.params, u.base ≠ t.base) → ∃ u, g.Builds root u ∧ u.base = t.base
  params : ∀ (id : NodeId) t position, g.nodes[id]? = some (.external t position) →
    0 < g.consumers id

namespace Registry

variable {registry : Registry} {request : Request} {g : Graph} {id : NodeId} {t : TypeRef}

theorem edgesTo_settleError (outputs : List Output) (fallible : Bool) (nodes : Array Node)
    (id : NodeId) : edgesTo (settleError outputs fallible nodes).2 id = edgesTo nodes id := by
  rcases settleError_cases outputs fallible nodes with ⟨more, -, heq⟩ | ⟨-, heq⟩
  · rw [heq]
  · rw [heq, edgesTo_push]
    rfl

/-- Without hoisting a provider node has one consumer. -/
theorem consumers_of_builds (h : registry.load request = .ok g) (hcopied : request.hoist = false)
    (hbuilds : g.Builds id t) : g.consumers id = 1 := by
  obtain ⟨p, edges, hnode⟩ := hbuilds
  obtain ⟨-, outputs, s, hresults, -, rfl⟩ := exists_of_load_ok h
  have hmade : s.nodes[id]? = some (.provider t p edges) := provider_of_settleError hnode
  rw [hcopied] at hresults
  have hanswered := Scope.answered_of_ok hresults
  obtain ⟨-, hassembled⟩ := Scope.assembled_of_answered hanswered (framed_start _)
  have hnew : (start (registry.scope request)).nodes.size ≤ id := by
    by_contra hlt
    obtain ⟨u, hu⟩ := external_of_lt_start (Nat.lt_of_not_le hlt)
    have hold := getElem?_eq_of_grown hassembled.grows (Nat.lt_of_not_le hlt)
    rw [hmade, hu] at hold
    cases hold
  have hother : ∀ u position, s.nodes[id]? ≠ some (.external u position) := by
    intro u position hu
    rw [hmade] at hu
    cases hu
  have hcount := hassembled.edgesTo_add_count hother
  rw [edgesTo_start, if_pos ⟨hnew, (Array.getElem?_eq_some_iff.mp hmade).1⟩,
    hanswered.filterMap_root?] at hcount
  rw [Graph.consumers_eq]
  simp only [graph, edgesTo_settleError, Graph.countP_value?, filterMap_value?_settleError]
  exact hcount

/-- When hoisting, there is one provider node for a base type. -/
theorem eq_of_builds (h : registry.load request = .ok g) (hshared : request.hoist = true)
    {id' : NodeId} {t' : TypeRef} (hbuilds : g.Builds id t) (hbuilds' : g.Builds id' t')
    (hbase : t.base = t'.base) : id = id' := by
  obtain ⟨-, outputs, s, hresults, -, rfl⟩ := exists_of_load_ok h
  rw [hshared] at hresults
  have hrecorded := Scope.recorded_of_answered (Scope.answered_of_ok hresults) (recorded_start _)
  have hmarked : ∀ {i u}, (registry.graph request outputs s).Builds i u →
      s.marks[u.base]? = some (.resolved i) := by
    rintro i u ⟨p, edges, hnode⟩
    exact hrecorded i u p edges (provider_of_settleError hnode)
  have hone := hmarked hbuilds
  rw [hbase, hmarked hbuilds'] at hone
  cases hone
  rfl

/-- Whatever the results ask for is supplied by a node that is consumed. -/
theorem consumed_of_asks (h : registry.load request = .ok g) {r r' : TypeRef}
    (hr : r ∈ request.resultTypes) (hasks : (registry.scope request).Asks r r')
    (halias : request.aliases.resolve r' = .ok t) :
    ∃ id, (registry.scope request).Supplies g.nodes t id ∧ 0 < g.consumers id := by
  rcases Relation.ReflTransGen.cases_tail hasks with rfl | ⟨mid, hbefore, hneeds⟩
  · obtain ⟨id, t', hmem⟩ := (exists_value_iff h r').mpr hr
    obtain ⟨halias', hsupplies⟩ := returned_of_load h hmem
    rw [halias] at halias'
    cases halias'
    obtain ⟨position, hposition⟩ := List.mem_iff_getElem?.mp hmem
    exact ⟨id, hsupplies, Nat.lt_add_left _ (Graph.outputs_pos_of_value hposition)⟩
  · have hmid := hneeds
    obtain ⟨u, p, hu, -⟩ := hmid
    obtain ⟨hbuilt, q, input, hfind, hinput, rfl⟩ := hneeds.exists_input hu
    obtain ⟨id, d, ⟨p', edges, hnode⟩, hbase⟩ :=
      exists_node_of_required h (.of_asks hr hbefore hu hbuilt)
    rw [← hbase] at hfind
    obtain ⟨e, he, hsupplies⟩ := (wired_of_load h hnode).exists_edge hfind hinput halias
    have hconsumes : g.Consumes id e.node := ⟨e, (Graph.mem_children_iff hnode).mpr he, rfl⟩
    exact ⟨e.node, hsupplies, Nat.lt_add_right _ (Graph.edgesTo_pos_of_consumes hconsumes)⟩

theorem lt_of_external (h : registry.load request = .ok g) {id position : Nat}
    (hnode : g.nodes[id]? = some (.external t position)) : id < request.paramTypes.length := by
  obtain ⟨-, outputs, s, hresults, -, rfl⟩ := exists_of_load_ok h
  rcases Nat.lt_or_ge id request.paramTypes.length with hlt | hge
  · exact hlt
  · have hframed := (Scope.framed_of_resolveResults hresults).1
    rcases getElem?_settleError hnode with hold | hzero
    · obtain ⟨d, p, edges, heq, -⟩ := hframed.frame.others id _ hge hold
      cases heq
    · cases hzero

/-- Every parameter has a consumer. -/
theorem consumers_of_external (h : registry.load request = .ok g) {position : Nat}
    (hnode : g.nodes[id]? = some (.external t position)) : 0 < g.consumers id := by
  have hid := lt_of_external h hnode
  obtain ⟨hdeclares, outputs, s, hresults, hunused, -⟩ := exists_of_load_ok h
  have hused := (unused?_iff_of_resolveResults hdeclares hresults).mp hunused id hid
  obtain ⟨r, hr, needed, u, hasks, halias, hchosen⟩ := hused
  obtain ⟨i, hsupplies, hconsumed⟩ := consumed_of_asks h hr hasks halias
  rwa [← hsupplies.eq_of_chosen hdeclares.differ hchosen]

/-- The graph of a request builds what the request requires, once when hoisting and once for each
use otherwise, and it consumes every parameter. -/
theorem economical_of_load (h : registry.load request = .ok g) :
    g.Economical (registry.scope request) request.resultTypes request.hoist where
  built b := by
    constructor
    · rintro ⟨id, t, hbuilds, rfl⟩
      exact required_of_builds h hbuilds
    · exact exists_node_of_required h
  shared hshared _ _ _ _ hbuilds hbuilds' hbase := eq_of_builds h hshared hbuilds hbuilds' hbase
  copied hcopied _ _ hbuilds := consumers_of_builds h hcopied hbuilds
  trees hcopied id t hbuilds := by
    obtain ⟨position, hbelow⟩ := exists_below h hbuilds
    refine ⟨position, hbelow, fun other hother => ?_⟩
    exact Graph.position_unique (fun _ _ hone => consumers_of_builds h hcopied hone)
      (fun _ _ hconsumes => lt_of_consumes h hconsumes) hbuilds hother hbelow
  roots position root r t hposition hbuilt := by
    obtain ⟨-, hsupplies⟩ := returned_of_load h (List.mem_of_getElem? hposition)
    obtain ⟨u, p, edges, hnode, hbase⟩ := hsupplies.provider_node hbuilt
    exact ⟨u, ⟨p, edges, hnode⟩, hbase⟩
  params _ _ _ hnode := consumers_of_external h hnode

end Registry

namespace Sample

theorem economical_graph : registry.load request = .ok graph ∧
    graph.Economical (registry.scope request) request.resultTypes request.hoist :=
  ⟨load_request, Registry.economical_of_load load_request⟩

end Sample

end Wiring
