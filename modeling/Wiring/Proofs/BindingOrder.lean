import Wiring.Proofs.Layout
import Wiring.Proofs.Success

/-!
The order in which the values of a graph are bound. It is the order in which the resolution has made
the nodes, but for the nil error: the resolution makes it last, and the order has it where it is
returned.
-/

namespace Wiring

open Resolution

namespace Registry

variable {registry : Registry} {request : Request} {outputs : List Output}
  {s : Resolution (registry.scope request) []}

theorem size_start (registry : Registry) (request : Request) :
    (start (registry.scope request)).nodes.size = request.paramTypes.length := by
  simp [start, scope]

theorem params_graph (registry : Registry) (request : Request) (outputs : List Output)
    (s : Resolution (registry.scope request) []) :
    (registry.graph request outputs s).params =
      List.range (start (registry.scope request)).nodes.size := by
  rw [size_start]
  rfl

/-- A graph without a nil error. -/
theorem layout_of_propagated {more : List Output}
    (hresults : (registry.scope request).resolveResults request.hoist request.results false
      (start _) = .ok (outputs, s))
    (hmore : ∀ output ∈ more, output = .error .propagated)
    (hsettle : settleError outputs s.fallible s.nodes = (outputs ++ more, s.nodes)) :
    (registry.graph request outputs s).Layout request.paramTypes.length s.nodes.size s.nodes.size
      (outputs ++ more) [] [] := by
  have hanswered := Scope.answered_of_ok hresults
  obtain ⟨hframed, hreplays⟩ := Scope.replays_of_answered hanswered (framed_start _)
  have hroots : (outputs ++ more).filterMap Output.root? = outputs.filterMap Output.root? := by
    have hnone : more.filterMap Output.root? = [] := by
      rw [List.filterMap_eq_nil_iff]
      intro output hmem
      rw [hmore output hmem]
      rfl
    rw [List.filterMap_append, hnone, List.append_nil]
  have hothers : ∀ output ∈ outputs ++ more ++ [], ∀ z, output ≠ .error (.zero z) := by
    rw [List.append_nil]
    intro output hmem z
    rcases List.mem_append.mp hmem with hold | hnew
    · exact hanswered.ne_zero output hold z
    · rw [hmore output hnew]
      simp
  rw [← size_start registry request]
  refine Graph.layout_of_replays (hroots ▸ hreplays) (.nil _) hothers hframed.ne_zero
    (params_graph registry request outputs s) ?_ ?_
  · simp only [graph, hsettle, List.append_nil]
  · exact Or.inl ⟨rfl, by simp only [graph, hsettle]⟩

theorem values_of_countP {before after : List Output} {source : ErrorSource}
    (h : (before ++ .error source :: after).countP Output.isError ≤ 1) :
    (∀ output ∈ before, output.isError = false) ∧ ∀ output ∈ after, output.isError = false := by
  rw [List.countP_append, List.countP_cons_of_pos rfl] at h
  have hbefore : before.countP Output.isError = 0 := by omega
  have hafter : after.countP Output.isError = 0 := by omega
  exact ⟨by simpa using List.countP_eq_zero.mp hbefore,
    by simpa using List.countP_eq_zero.mp hafter⟩

theorem map_of_values {outputs : List Output} (z : NodeId)
    (h : ∀ output ∈ outputs, output.isError = false) :
    (outputs.map fun output => if output.isError then .error (.zero z) else output) = outputs := by
  refine (List.map_congr_left fun output hmem => ?_).trans (List.map_id outputs)
  rw [h output hmem]
  rfl

/-- A graph with a nil error, which is put where the error was declared. -/
theorem layout_of_zero {before after : List Output}
    (hresults : (registry.scope request).resolveResults request.hoist request.results false
      (start _) = .ok (before ++ .error .propagated :: after, s))
    (hsettle : settleError (before ++ .error .propagated :: after) s.fallible s.nodes =
      ((before ++ .error .propagated :: after).map
        fun output => if output.isError then .error (.zero s.nodes.size) else output,
        s.nodes.push .zeroError)) :
    ∃ m, (registry.graph request (before ++ .error .propagated :: after) s).Layout
      request.paramTypes.length m s.nodes.size before [.error (.zero s.nodes.size)] after := by
  have hanswered := Scope.answered_of_ok hresults
  have hcount := ((Scope.resolveResults_ok_iff _ _ _).mp ⟨_, _, hresults⟩).2
  rw [← hanswered.countP_isError] at hcount
  obtain ⟨hbefore, hafter⟩ := values_of_countP hcount
  have hothers : ∀ output ∈ before ++ after, ∀ z, output ≠ .error (.zero z) := by
    intro output hmem z
    refine hanswered.ne_zero output ?_ z
    rw [List.mem_append, List.mem_cons]
    exact (List.mem_append.mp hmem).imp_right Or.inr
  obtain ⟨_, _, mid, hfirst, hsecond⟩ := hanswered.split
  obtain ⟨hmid, hreplays⟩ := Scope.replays_of_answered hfirst (framed_start _)
  cases hsecond with
  | error _ hrest =>
      obtain ⟨hframed, hreplays'⟩ := Scope.replays_of_answered hrest hmid
      rw [← size_start registry request]
      refine ⟨mid.nodes.size, Graph.layout_of_replays hreplays hreplays' hothers hframed.ne_zero
        (params_graph registry request _ s) ?_ ?_⟩
      · simp only [graph, hsettle, List.map_append, List.map_cons, map_of_values _ hbefore,
          map_of_values _ hafter, List.append_assoc]
        rfl
      · exact Or.inr ⟨rfl, by simp only [graph, hsettle]⟩

/-- The order of every graph of a request is laid out by the order in which its nodes were made. -/
theorem exists_layout {g : Graph} (h : registry.load request = .ok g) :
    ∃ m built before slot after,
      g.Layout request.paramTypes.length m built before slot after := by
  obtain ⟨-, outputs, s, hresults, -, rfl⟩ := exists_of_load_ok h
  rcases settleError_cases outputs s.fallible s.nodes with
    ⟨more, hmore, hsettle⟩ | ⟨hdeclared, hsettle⟩
  · exact ⟨_, _, _, _, _, layout_of_propagated hresults hmore hsettle⟩
  · obtain ⟨output, hmem, herror⟩ := List.any_eq_true.mp hdeclared
    have hzero := (Scope.answered_of_ok hresults).ne_zero output hmem
    match output, hzero, herror with
    | .error .propagated, _, _ =>
      obtain ⟨before, after, rfl⟩ := List.append_of_mem hmem
      obtain ⟨m, hlayout⟩ := layout_of_zero hresults hsettle
      exact ⟨_, _, _, _, _, hlayout⟩
    | .error (.zero z), hzero, _ => exact absurd rfl (hzero z)

end Registry

/-- The values of a graph can be bound in its order, which is that of the nodes but for the nil
error: this one stands where the outputs have it. -/
structure Graph.Ordered (g : Graph) : Prop where
  complete : g.order.Perm g.ids
  params : g.params <+: g.order
  children : ∀ id child, g.Consumes id child → g.Precedes child id
  creation : (g.order.filter fun id => g.nodes[id]? ≠ some .zeroError) =
    g.ids.filter fun id => g.nodes[id]? ≠ some .zeroError
  nilError : ∀ before z after, g.outputs = before ++ .error (.zero z) :: after →
    (∀ id, g.Needed before id → g.Precedes id z) ∧
    ∀ id t p edges, g.nodes[id]? = some (.provider t p edges) → g.Needed after id →
      ¬ g.Needed before id → g.Precedes z id
  reached : ∀ id ∈ g.ids, id ∈ g.params ∨ g.Needed g.outputs id

namespace Registry

/-- The order of the graph of a request has every node once, what a node consumes before the node,
and but for the nil error it is the order in which the nodes were made. -/
theorem ordered_of_load {registry : Registry} {request : Request} {g : Graph}
    (h : registry.load request = .ok g) : g.Ordered := by
  obtain ⟨m, built, before, slot, after, hlayout⟩ := exists_layout h
  have hless : ∀ id child, g.Consumes id child → child < id := fun _ _ => lt_of_consumes h
  refine
    { complete := hlayout.complete
      params := hlayout.prefix_order
      children := fun id child hconsumes =>
        hlayout.children (hless id child hconsumes) hconsumes
      creation := hlayout.creation
      nilError := ?_
      reached := fun id hid => hlayout.reached hid }
  intro before' z after' houtputs
  obtain ⟨rfl, rfl, rfl, rfl⟩ := hlayout.split houtputs
  refine ⟨fun id hneeded => hlayout.nil_after hless hneeded, ?_⟩
  intro id t p edges hnode _ hnot
  have hhigh : id < z := hlayout.lt_built hnode (by simp)
  rcases Nat.lt_or_ge id request.paramTypes.length with hparam | hge
  · obtain ⟨u, hu⟩ := param_of_load h hparam
    rw [hnode] at hu
    cases hu
  · rcases Nat.lt_or_ge id m with hlow | hle
    · exact absurd (hlayout.first id hge hlow) hnot
    · exact hlayout.nil_before hle hhigh

end Registry

namespace Sample

theorem ordered_graph : registry.load request = .ok graph ∧ graph.Ordered :=
  ⟨load_request, Registry.ordered_of_load load_request⟩

/-- The nil error is made last and stands where it is returned. -/
example : graph.order = [0, 1, 2, 4, 3] := by
  cbv

end Sample

end Wiring
