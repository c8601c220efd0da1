import Wiring.Proofs.Links

/-!
How a resolution puts its nodes together. Whatever it resolves, it comes by the same few steps: it
answers with the node of a parameter, with a node that is used again, or with a new node, which is
made after everything for its inputs was. What these steps keep is proved once for all runs.
-/

namespace Wiring

/-- The steps that lead from the nodes `before` to the nodes `after` and answer with `ids`. -/
inductive Assembled (hoist : Bool) : Array Node → Array Node → List NodeId → Prop where
  | nil (nodes : Array Node) : Assembled hoist nodes nodes []
  | external {nodes : Array Node} {id position : Nat} {t : TypeRef}
      (hnode : nodes[id]? = some (.external t position)) : Assembled hoist nodes nodes [id]
  /-- Only hoisting uses a node again. -/
  | reused {nodes : Array Node} {id : NodeId} (hhoist : hoist = true) (hid : id < nodes.size) :
      Assembled hoist nodes nodes [id]
  | append {before mid after : Array Node} {first second : List NodeId}
      (hfirst : Assembled hoist before mid first) (hsecond : Assembled hoist mid after second) :
      Assembled hoist before after (first ++ second)
  | push {before after : Array Node} {edges : List Edge} (t : TypeRef) (p : Provider)
      (hordered : Edge.Ordered edges)
      (hinputs : Assembled hoist before after (edges.map Edge.node)) :
      Assembled hoist before (after.push (.provider t p edges)) [after.size]

namespace Assembled

variable {hoist : Bool} {before after : Array Node} {ids : List NodeId}

theorem grows (h : Assembled hoist before after ids) : before.toList <+: after.toList := by
  induction h with
  | nil => exact List.prefix_refl _
  | external => exact List.prefix_refl _
  | reused => exact List.prefix_refl _
  | append _ _ ihfirst ihsecond => exact ihfirst.trans ihsecond
  | push t p _ _ ih => exact ih.trans (by simp)

theorem size_le (h : Assembled hoist before after ids) : before.size ≤ after.size := by
  simpa using h.grows.length_le

end Assembled

namespace Resolution

variable {scope : Scope} {path : List TypeRef}

theorem hoist_of_reusable {s : Resolution scope path} {hoist : Bool} {t : TypeRef} {id : NodeId}
    (h : s.reusable? hoist t = some id) : hoist = true := by
  unfold reusable? at h
  split at h
  case h_1 => rfl
  case h_2 => cases h

end Resolution

namespace Scope

variable {scope : Scope} {path : List TypeRef} {hoist : Bool}

theorem assembled_of_gathered {s s' : Resolution scope path} {inputs : List Input} {position : Nat}
    {edges : List Edge}
    (h : Gathered (fun s r supply s' => s.Framed →
      Connects s r supply s' ∧ Assembled hoist s.nodes s'.nodes [supply.node]) inputs position s
      edges s')
    (hframed : s.Framed) : Assembled hoist s.nodes s'.nodes (edges.map Edge.node) := by
  induction h with
  | nil => exact .nil _
  | cons hfirst _ ih =>
      obtain ⟨hone, hassembled⟩ := hfirst hframed
      exact hassembled.append (ih hone.framed)

/-- Every run for a requested type is put together from these steps. -/
theorem assembled_of_resolve {s s' : Resolution scope path} {r : TypeRef} {supply : Supply}
    (h : scope.resolve hoist s r = .ok (supply, s')) :
    s.Framed → Connects s r supply s' ∧ Assembled hoist s.nodes s'.nodes [supply.node] := by
  refine resolve_induction (motive := fun _ s r supply s' => s.Framed →
    Connects s r supply s' ∧ Assembled hoist s.nodes s'.nodes [supply.node]) ?_ ?_ ?_ h
  · intro path s r t id halias hext hframed
    obtain ⟨u, hnode⟩ := Resolution.start_getElem? hext
    have hid := (Array.getElem?_eq_some_iff.mp hnode).1
    have hold := (getElem?_eq_of_grown hframed.frame.params hid).trans hnode
    exact ⟨connects_external hframed halias hext, .external hold⟩
  · intro path s r t id halias hext _ hreuse hframed
    have hone := connects_reused hframed halias hext hreuse
    exact ⟨hone, .reused (Resolution.hoist_of_reusable hreuse) hone.supplies.lt_size⟩
  · intro path s r t p lookup edges inner hopens hgathered hframed
    have hentered := hframed.enter t lookup
    have hinputs := hgathered.mono fun s r supply s' hrun hs => (hrun hs).1
    have hall := connectsAll_of_gathered hinputs hentered
    have hone := connects_built hopens hall
    exact ⟨hone, .push t p hall.ordered (assembled_of_gathered hgathered hentered)⟩

/-- So is every run for the results of a function. -/
theorem assembled_of_answered {s s' : Resolution scope path} {results : List Dependency}
    {outputs : List Output}
    (h : Answered (fun s r supply s' => scope.resolve hoist s r = .ok (supply, s')) results s
      outputs s') (hframed : s.Framed) :
    s'.Framed ∧ Assembled hoist s.nodes s'.nodes (outputs.filterMap Output.root?) := by
  induction h with
  | nil => exact ⟨hframed, .nil _⟩
  | error _ _ ih => exact ih hframed
  | value _ hfirst _ ih =>
      obtain ⟨hone, hassembled⟩ := assembled_of_resolve hfirst hframed
      obtain ⟨hafter, hrest⟩ := ih hone.framed
      exact ⟨hafter, hassembled.append hrest⟩

end Scope

end Wiring
