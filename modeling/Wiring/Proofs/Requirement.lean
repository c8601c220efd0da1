import Wiring.Proofs.BindingOrder

/-!
What has to be built for a request. The base types of the provider nodes of a graph are exactly the
ones that the results and the inputs of their providers come to, and that no parameter supplies.
-/

namespace Wiring

namespace Scope

/-- The base types that have to be built for some requested types: what these come to, and what the
inputs of the providers of all such types come to, as long as no parameter supplies it. -/
inductive Required (scope : Scope) (requested : List TypeRef) : TypeRef → Prop where
  | requested {r t : TypeRef} (hr : r ∈ requested) (halias : scope.aliases.resolve r = .ok t)
      (hbuilt : ∀ u ∈ scope.params, u.base ≠ t.base) : Required scope requested t.base
  | input {b t : TypeRef} {p : Provider} {input : Input} (h : Required scope requested b)
      (hfind : scope.registry.find b = .ok p) (hmem : input ∈ p.inputs)
      (halias : scope.aliases.resolve input.type = .ok t)
      (hbuilt : ∀ u ∈ scope.params, u.base ≠ t.base) : Required scope requested t.base

variable {scope : Scope} {nodes : Array Node} {requested : List TypeRef}

/-- What a type needs are inputs of the provider of its base. -/
theorem Needs.exists_input {r r' t : TypeRef} (h : scope.Needs r r')
    (halias : scope.aliases.resolve r = .ok t) :
    (∀ u ∈ scope.params, u.base ≠ t.base) ∧
      ∃ q input, scope.registry.find t.base = .ok q ∧ input ∈ q.inputs ∧ input.type = r' := by
  obtain ⟨t', p, halias', hext, hfind, input, hmem, rfl⟩ := h
  rw [halias] at halias'
  cases halias'
  have hbase : t.base = t.base.base := rfl
  obtain ⟨q, hq, herased⟩ := Registry.find_ok_congr hbase hfind
  refine ⟨external?_eq_none_iff.mp hext, q, input, hq, ?_, rfl⟩
  rwa [Provider.inputs_of_erased herased]

/-- What a requested type asks for is required, unless a parameter supplies it. -/
theorem Required.of_asks {r r' t : TypeRef} (hr : r ∈ requested) (hasks : scope.Asks r r')
    (halias : scope.aliases.resolve r' = .ok t) (hbuilt : ∀ u ∈ scope.params, u.base ≠ t.base) :
    scope.Required requested t.base := by
  induction hasks generalizing t with
  | refl => exact .requested hr halias hbuilt
  | tail _ hneeds ih =>
      have hmid := hneeds
      obtain ⟨u, p, hu, -⟩ := hmid
      obtain ⟨habove, q, input, hfind, hmem, rfl⟩ := hneeds.exists_input hu
      exact .input (ih hu habove) hfind hmem halias hbuilt

/-- A provider node of the base is what supplies a type that no parameter supplies. -/
theorem Supplies.provider_node {t : TypeRef} {id : NodeId} (h : scope.Supplies nodes t id)
    (hbuilt : ∀ u ∈ scope.params, u.base ≠ t.base) :
    ∃ u p edges, nodes[id]? = some (.provider u p edges) ∧ u.base = t.base := by
  cases h with
  | external hchosen hparam hnode =>
      rcases hchosen with hexact | ⟨-, v, hv, hbase, -⟩
      · exact absurd rfl (hbuilt t (List.mem_of_getElem? hexact))
      · exact absurd hbase (hbuilt v (List.mem_of_getElem? hv))
  | provider _ hnode hbase => exact ⟨_, _, _, hnode, hbase⟩

/-- A type that a provider node supplies has its base and is supplied by no parameter. -/
theorem Supplies.of_provider_node {t u : TypeRef} {p : Provider} {edges : List Edge} {id : NodeId}
    (h : scope.Supplies nodes t id) (hnode : nodes[id]? = some (.provider u p edges)) :
    (∀ v ∈ scope.params, v.base ≠ t.base) ∧ u.base = t.base := by
  cases h with
  | external _ _ hexternal =>
      rw [hnode] at hexternal
      cases hexternal
  | provider hbuilt hprovider hbase =>
      rw [hnode] at hprovider
      cases hprovider
      exact ⟨hbuilt, hbase⟩

/-- The parameter to choose for a type is what supplies it. -/
theorem Supplies.eq_of_chosen {t : TypeRef} {id i : NodeId} (h : scope.Supplies nodes t id)
    (hnodup : scope.params.Nodup) (hchosen : scope.Chosen t i) : id = i := by
  cases h with
  | external hid _ _ => exact hid.unique hnodup hchosen
  | provider hnone _ _ =>
      rcases hchosen with hexact | ⟨-, v, hv, hbase, -⟩
      · exact absurd rfl (hnone t (List.mem_of_getElem? hexact))
      · exact absurd hbase (hnone v (List.mem_of_getElem? hv))

/-- An input of the provider of a base type is fed by an edge of every node of this base. -/
theorem Wired.exists_edge {id : NodeId} {d t : TypeRef} {p q : Provider} {edges : List Edge}
    {input : Input} (h : scope.Wired nodes id d p edges) (hfind : scope.registry.find d.base = .ok q)
    (hmem : input ∈ q.inputs) (halias : scope.aliases.resolve input.type = .ok t) :
    ∃ e ∈ edges, scope.Supplies nodes t e.node := by
  have hbase : d.base.base = d.base := rfl
  obtain ⟨p', hp', herased⟩ := Registry.find_ok_congr hbase hfind
  rw [h.found] at hp'
  cases hp'
  rw [← Provider.inputs_of_erased herased] at hmem
  obtain ⟨i, hi, rfl⟩ := List.mem_iff_getElem.mp hmem
  have he : i < edges.length := h.length ▸ hi
  have hlinked := h.linked i hi he
  rw [hlinked.resolved] at halias
  cases halias
  exact ⟨edges[i], List.getElem_mem he, hlinked.supplies⟩

/-- An edge of a node feeds an input of its provider. -/
theorem Wired.exists_linked {id : NodeId} {d : TypeRef} {p : Provider} {edges : List Edge}
    {e : Edge} (h : scope.Wired nodes id d p edges) (he : e ∈ edges) :
    ∃ i input, input ∈ p.inputs ∧ scope.Linked nodes i input e := by
  obtain ⟨i, hi, rfl⟩ := List.mem_iff_getElem.mp he
  have hinput : i < p.inputs.length := h.length ▸ hi
  exact ⟨i, p.inputs[i], List.getElem_mem hinput, h.linked i hinput hi⟩

/-- An edge of a node stands for an input of the provider of its base type. -/
theorem Wired.exists_input {id : NodeId} {d : TypeRef} {p : Provider} {edges : List Edge} {e : Edge}
    (h : scope.Wired nodes id d p edges) (he : e ∈ edges) :
    ∃ q input, scope.registry.find d.base = .ok q ∧ input ∈ q.inputs ∧
      scope.aliases.resolve input.type = .ok e.resolved ∧
      scope.Supplies nodes e.resolved e.node := by
  have hbase : d.base = d.base.base := rfl
  obtain ⟨q, hq, herased⟩ := Registry.find_ok_congr hbase h.found
  obtain ⟨i, input, hmem, hlinked⟩ := h.exists_linked he
  refine ⟨q, input, hq, ?_, hlinked.resolved, hlinked.supplies⟩
  rwa [Provider.inputs_of_erased herased]

/-- The values among the outputs are those of the results. -/
theorem Answered.exists_value_iff {σ : Type} {R : σ → TypeRef → Supply → σ → Prop} {s s' : σ}
    {results : List Dependency} {outputs : List Output} (h : Answered R results s outputs s')
    (r : TypeRef) :
    (∃ id t, .value id r t ∈ outputs) ↔ r ∈ results.filterMap Dependency.type? := by
  induction h with
  | nil => simp
  | error htype _ ih => simp [List.filterMap_cons_none htype, ih]
  | @value dependency rest s mid s' u supply outputs htype _ _ ih =>
      rw [List.filterMap_cons_some htype, List.mem_cons, ← ih]
      constructor
      · rintro ⟨id, t, hmem⟩
        rcases List.mem_cons.mp hmem with heq | hrest
        · cases heq
          exact Or.inl rfl
        · exact Or.inr ⟨id, t, hrest⟩
      · rintro (rfl | ⟨id, t, hrest⟩)
        · exact ⟨supply.node, supply.type, by simp⟩
        · exact ⟨id, t, by simp [hrest]⟩

end Scope

namespace Graph

variable {g : Graph} {id child : NodeId}

/-- A node is a provider node, and it stands for a type. -/
def Builds (g : Graph) (id : NodeId) (t : TypeRef) : Prop :=
  ∃ p edges, g.nodes[id]? = some (.provider t p edges)

theorem Builds.lt_size {t : TypeRef} (h : g.Builds id t) : id < g.nodes.size := by
  obtain ⟨p, edges, hnode⟩ := h
  exact (Array.getElem?_eq_some_iff.mp hnode).1

/-- Only provider nodes consume others. -/
theorem builds_of_consumes (h : g.Consumes id child) : ∃ t, g.Builds id t := by
  obtain ⟨node, hnode, e, he, -⟩ := exists_edge_of_consumes h
  cases node with
  | external t position => cases he
  | zeroError => cases he
  | provider t p edges => exact ⟨t, p, edges, hnode⟩

/-- The value returned at a position is built from a node: the node itself is returned, or something
is that consumes it, directly or not. -/
def Below (g : Graph) (position : Nat) (id : NodeId) : Prop :=
  ∃ root r t, g.outputs[position]? = some (.value root r t) ∧
    Relation.ReflTransGen g.Consumes root id

end Graph

namespace Registry

variable {registry : Registry} {request : Request} {g : Graph} {id child : NodeId} {t : TypeRef}

theorem mem_settleError_iff {outputs : List Output} {fallible : Bool} {nodes : Array Node}
    {output : Output} (hvalue : output.isError = false) :
    output ∈ (settleError outputs fallible nodes).1 ↔ output ∈ outputs := by
  refine ⟨mem_settleError hvalue, fun hmem => ?_⟩
  rcases settleError_cases outputs fallible nodes with ⟨more, -, heq⟩ | ⟨-, heq⟩
  · rw [heq]
    exact List.mem_append_left _ hmem
  · rw [heq]
    exact List.mem_map.mpr ⟨output, hmem, by simp [hvalue]⟩

/-- The provider nodes of the graph of a request are wired. -/
theorem wired_of_load (h : registry.load request = .ok g) {d : TypeRef} {p : Provider}
    {edges : List Edge} (hnode : g.nodes[id]? = some (.provider d p edges)) :
    (registry.scope request).Wired g.nodes id d p edges := by
  obtain ⟨-, outputs, s, hresults, -, rfl⟩ := exists_of_load_ok h
  rcases node_cases (Scope.framed_of_resolveResults hresults).1 hnode with
    ⟨t, ht⟩ | hzero | ⟨d', p', edges', heq, hwired⟩
  · cases ht
  · cases hzero
  · cases heq
    exact hwired

/-- The outputs of the graph of a request name what supplies them. -/
theorem returned_of_load (h : registry.load request = .ok g) {r : TypeRef}
    (hmem : .value id r t ∈ g.outputs) :
    request.aliases.resolve r = .ok t ∧ (registry.scope request).Supplies g.nodes t id := by
  obtain ⟨-, outputs, s, hresults, -, rfl⟩ := exists_of_load_ok h
  have hreturned := (Scope.framed_of_resolveResults hresults).2 _ (mem_settleError rfl hmem)
  exact hreturned.of_grown (nodes_prefix_settleError outputs s.fallible s.nodes)

/-- The values among the outputs of a graph are those of the requested results. -/
theorem exists_value_iff (h : registry.load request = .ok g) (r : TypeRef) :
    (∃ id t, .value id r t ∈ g.outputs) ↔ r ∈ request.resultTypes := by
  obtain ⟨-, outputs, s, hresults, -, rfl⟩ := exists_of_load_ok h
  rw [Request.resultTypes, ← (Scope.answered_of_ok hresults).exists_value_iff r]
  exact exists_congr fun id => exists_congr fun t => mem_settleError_iff rfl

/-- An error among the outputs names nothing but the nil error. -/
theorem zero_of_load (h : registry.load request = .ok g) {z : NodeId}
    (hmem : .error (.zero z) ∈ g.outputs) : g.nodes[z]? = some .zeroError := by
  obtain ⟨m, built, before, slot, after, hlayout⟩ := exists_layout h
  refine (hlayout.zero z).mpr ?_
  rw [hlayout.outputs, List.append_assoc, List.mem_append, List.mem_append] at hmem
  rcases hmem with hbefore | hslot | hafter
  · exact absurd rfl (hlayout.others _ (List.mem_append_left _ hbefore) z)
  · exact hslot
  · exact absurd rfl (hlayout.others _ (List.mem_append_right _ hafter) z)

/-- Every provider node is made for some result. -/
theorem exists_below (h : registry.load request = .ok g) (hbuilds : g.Builds id t) :
    ∃ position, g.Below position id := by
  obtain ⟨p, edges, hnode⟩ := hbuilds
  obtain ⟨m, built, before, slot, after, hlayout⟩ := exists_layout h
  have hid : id ∈ g.ids := List.mem_range.mpr (Array.getElem?_eq_some_iff.mp hnode).1
  rcases hlayout.reached hid with hparam | ⟨output, hmem, root, hroot, hreach⟩
  · rw [hlayout.params, List.mem_range] at hparam
    obtain ⟨u, hu⟩ := param_of_load h hparam
    rw [hnode] at hu
    cases hu
  · match output, hroot with
    | .value root r u, rfl =>
      obtain ⟨position, hposition⟩ := List.mem_iff_getElem?.mp hmem
      exact ⟨position, root, r, u, hposition, hreach⟩
    | .error (.zero z), rfl =>
      have hzero := zero_of_load h hmem
      rcases Relation.ReflTransGen.cases_head hreach with rfl | ⟨x, hstep, -⟩
      · rw [hzero] at hnode
        cases hnode
      · obtain ⟨u, q, more, hu⟩ := Graph.builds_of_consumes hstep
        rw [hzero] at hu
        cases hu

/-- What the results need is built: there is a node for each base type that is required. -/
theorem exists_node_of_required (h : registry.load request = .ok g) {b : TypeRef}
    (hrequired : (registry.scope request).Required request.resultTypes b) :
    ∃ id t, g.Builds id t ∧ t.base = b := by
  induction hrequired with
  | @requested r t hr halias hbuilt =>
      obtain ⟨id, t', hmem⟩ := (exists_value_iff h r).mpr hr
      obtain ⟨halias', hsupplies⟩ := returned_of_load h hmem
      have hsame : request.aliases.resolve r = .ok t := halias
      rw [hsame] at halias'
      cases halias'
      obtain ⟨u, p, edges, hnode, hbase⟩ := hsupplies.provider_node hbuilt
      exact ⟨id, u, ⟨p, edges, hnode⟩, hbase⟩
  | @input b t p input _ hfind hmem halias hbuilt ih =>
      obtain ⟨id, d, ⟨q, edges, hnode⟩, rfl⟩ := ih
      obtain ⟨e, -, hsupplies⟩ := (wired_of_load h hnode).exists_edge hfind hmem halias
      obtain ⟨u, p', more, hchild, hbase⟩ := hsupplies.provider_node hbuilt
      exact ⟨e.node, u, ⟨p', more, hchild⟩, hbase⟩

/-- A provider node that a required one consumes is required. -/
theorem required_of_consumes (h : registry.load request = .ok g) {d : TypeRef}
    (hbuilds : g.Builds id d) (hchild : g.Builds child t) (hconsumes : g.Consumes id child)
    (hrequired : (registry.scope request).Required request.resultTypes d.base) :
    (registry.scope request).Required request.resultTypes t.base := by
  obtain ⟨p, edges, hnode⟩ := hbuilds
  obtain ⟨q, more, hmore⟩ := hchild
  obtain ⟨e, he, rfl⟩ := hconsumes
  rw [children_of_load h hnode] at he
  obtain ⟨q', input, hfind, hmem, halias, hsupplies⟩ := (wired_of_load h hnode).exists_input he
  obtain ⟨hbuilt, hbase⟩ := hsupplies.of_provider_node hmore
  rw [hbase]
  exact .input hrequired hfind hmem halias hbuilt

/-- Nothing else is built: every provider node is required. -/
theorem required_of_builds (h : registry.load request = .ok g) (hbuilds : g.Builds id t) :
    (registry.scope request).Required request.resultTypes t.base := by
  obtain ⟨position, root, r, u, hposition, hreach⟩ := exists_below h hbuilds
  -- Along the walk from the result each node needs the next one as an input.
  induction hreach generalizing t with
  | refl =>
      obtain ⟨p, edges, hnode⟩ := hbuilds
      have hmem := List.mem_of_getElem? hposition
      obtain ⟨halias, hsupplies⟩ := returned_of_load h hmem
      obtain ⟨hbuilt, hbase⟩ := hsupplies.of_provider_node hnode
      rw [hbase]
      exact .requested ((exists_value_iff h r).mp ⟨_, _, hmem⟩) halias hbuilt
  | tail _ hstep ih =>
      obtain ⟨d, hparent⟩ := Graph.builds_of_consumes hstep
      exact required_of_consumes h hparent hbuilds hstep (ih hparent)

end Registry

end Wiring
