import Wiring.Proofs.Requirement

/-!
How often the nodes of a graph are consumed. Without hoisting every provider node has exactly one
consumer, so that the provider nodes form trees, one for each result that is built. With hoisting no
two provider nodes have the same base type. A parameter is consumed in both cases.
-/

namespace Wiring

section Count

variable {α : Type} {l : List α} {p : α → Bool} {a b : α} {j k : Nat}

theorem two_le_countP_of_lt (hjk : j < k) (hj : l[j]? = some a) (hk : l[k]? = some b)
    (ha : p a = true) (hb : p b = true) : 2 ≤ l.countP p := by
  have hlow : a ∈ l.take k := List.mem_of_getElem? (by rwa [List.getElem?_take_of_lt hjk])
  have hhigh : b ∈ l.drop k := by
    have hzero : (l.drop k)[0]? = some b := by rwa [List.getElem?_drop, Nat.add_zero]
    exact List.mem_of_getElem? hzero
  have hfirst : 0 < (l.take k).countP p := List.countP_pos_iff.mpr ⟨a, hlow, ha⟩
  have hsecond : 0 < (l.drop k).countP p := List.countP_pos_iff.mpr ⟨b, hhigh, hb⟩
  rw [← List.take_append_drop k l, List.countP_append]
  omega

/-- Of a property that holds once in a list, one position is the place. -/
theorem eq_of_countP_le_one (h : l.countP p ≤ 1) (hj : l[j]? = some a) (hk : l[k]? = some b)
    (ha : p a = true) (hb : p b = true) : j = k := by
  rcases Nat.lt_trichotomy j k with hlt | heq | hgt
  · have := two_le_countP_of_lt hlt hj hk ha hb
    omega
  · exact heq
  · have := two_le_countP_of_lt hgt hk hj hb ha
    omega

end Count

/-- How often nodes consume a node. -/
def edgesTo (nodes : Array Node) (id : NodeId) : Nat :=
  (nodes.toList.flatMap Node.edges).countP fun e => e.node == id

theorem edgesTo_push (nodes : Array Node) (node : Node) (id : NodeId) :
    edgesTo (nodes.push node) id = edgesTo nodes id + (node.edges.map Edge.node).count id := by
  simp only [edgesTo, Array.toList_push, List.flatMap_append, List.countP_append,
    List.flatMap_singleton, List.count, List.countP_map]
  rfl

theorem edgesTo_start (scope : Scope) (id : NodeId) :
    edgesTo (Resolution.start scope).nodes id = 0 := by
  have hnone : (Resolution.start scope).nodes.toList.flatMap Node.edges = [] := by
    rw [List.flatMap_eq_nil_iff]
    intro node hmem
    obtain ⟨⟨t, position⟩, -, rfl⟩ := List.mem_map.mp hmem
    rfl
  rw [edgesTo, hnone, List.countP_nil]

/-- The nodes with an edge to a node are no more than the edges to it. -/
theorem countP_consuming_le (nodes : List Node) (id : NodeId) :
    nodes.countP (fun node => node.edges.any fun e => e.node == id) ≤
      (nodes.flatMap Node.edges).countP fun e => e.node == id := by
  induction nodes with
  | nil => simp
  | cons node rest ih =>
      rw [List.flatMap_cons, List.countP_append, List.countP_cons]
      split
      case isTrue hany =>
        have hpos : 0 < node.edges.countP fun e => e.node == id := by
          obtain ⟨e, he, heq⟩ := List.any_eq_true.mp hany
          exact List.countP_pos_iff.mpr ⟨e, he, heq⟩
        omega
      case isFalse => omega

namespace Assembled

/-- Without hoisting what is added is consumed once: by what is added above it, or by whoever
asked. All nodes but those of the parameters are left alone after that. -/
theorem edgesTo_add_count {before after : Array Node} {ids : List NodeId}
    (h : Assembled false before after ids) {id : Nat}
    (hbuilt : ∀ t position, after[id]? ≠ some (.external t position)) :
    edgesTo after id + ids.count id =
      edgesTo before id + if before.size ≤ id ∧ id < after.size then 1 else 0 := by
  induction h with
  | nil nodes =>
      rw [if_neg (fun h => Nat.not_le_of_lt h.2 h.1), List.count_nil]
  | @external nodes i position t hnode =>
      have hne : i ≠ id := by
        rintro rfl
        exact hbuilt t position hnode
      rw [if_neg (fun h => Nat.not_le_of_lt h.2 h.1), List.count_singleton, if_neg (by simpa)]
  | reused hhoist => cases hhoist
  | @append before mid after first second hfirst hsecond ihfirst ihsecond =>
      have hmid : ∀ t position, mid[id]? ≠ some (.external t position) := by
        intro t position hnode
        have hlt := (Array.getElem?_eq_some_iff.mp hnode).1
        exact hbuilt t position ((getElem?_eq_of_grown hsecond.grows hlt).trans hnode)
      have hone := ihfirst hmid
      have htwo := ihsecond hbuilt
      have hlow := hfirst.size_le
      have hhigh := hsecond.size_le
      rw [List.count_append]
      split at hone <;> split at htwo <;> split <;> omega
  | @push before after edges t p _ hinputs ih =>
      have hinner : ∀ u position, after[id]? ≠ some (.external u position) := by
        intro u position hnode
        have hlt := (Array.getElem?_eq_some_iff.mp hnode).1
        refine hbuilt u position ?_
        rwa [Array.getElem?_push_lt hlt, ← Array.getElem?_eq_getElem hlt]
      have hbelow := ih hinner
      have hle := hinputs.size_le
      have hedges : (Node.provider t p edges).edges = edges := rfl
      rw [edgesTo_push, hedges, hbelow, Array.size_push, List.count_singleton]
      simp only [beq_iff_eq]
      split <;> split <;> split <;> omega

end Assembled

namespace Resolution

variable {scope : Scope} {path : List TypeRef}

/-- Each provider node is the one that is marked as resolved for its base type. -/
def Recorded (s : Resolution scope path) : Prop :=
  ∀ id t p edges, s.nodes[id]? = some (Node.provider t p edges) →
    s.marks[t.base]? = some (.resolved id)

theorem recorded_start (scope : Scope) : (start scope).Recorded := by
  intro id t p edges hnode
  obtain ⟨u, hu⟩ := external_of_lt_start (Array.getElem?_eq_some_iff.mp hnode).1
  rw [hnode] at hu
  cases hu

theorem Recorded.enter {s : Resolution scope path} (h : s.Recorded) {t : TypeRef}
    (hunbuilt : s.reusable? true t = none) (lookup : Lookup scope.registry) :
    (s.enter t lookup).Recorded := by
  intro id u p edges hnode
  have hmark := h id u p edges hnode
  rw [Resolution.enter, Std.ExtTreeMap.getElem?_insert]
  split
  · rename_i heq
    rw [← Std.LawfulEqOrd.compare_eq_iff_eq.mp heq] at hmark
    simp [reusable?, hmark] at hunbuilt
  · exact hmark

theorem Recorded.leave {t : TypeRef} {s : Resolution scope (path ++ [t])} (h : s.Recorded)
    (hnew : t.base ∉ path.map TypeRef.base) (p : Provider) (edges : List Edge) :
    (s.leave hnew p edges).Recorded := by
  intro id u q more hnode
  have hvisiting : s.marks[t.base]? = some .visiting := (s.visiting_iff _).mpr (by simp)
  rw [Resolution.leave, Array.getElem?_push] at hnode
  rw [Resolution.leave, Std.ExtTreeMap.getElem?_insert]
  split at hnode
  case isTrue heq =>
    cases hnode
    simp [heq]
  case isFalse =>
    have hmark := h id u q more hnode
    split
    · rename_i heq
      rw [← Std.LawfulEqOrd.compare_eq_iff_eq.mp heq, hvisiting] at hmark
      cases hmark
    · exact hmark

end Resolution

namespace Scope

variable {scope : Scope} {path : List TypeRef}

/-- When hoisting, every run keeps a record of all nodes that it makes. -/
theorem recorded_of_answered {s s' : Resolution scope path} {results : List Dependency}
    {outputs : List Output}
    (h : Answered (fun s r supply s' => scope.resolve true s r = .ok (supply, s')) results s
      outputs s') (hrecorded : s.Recorded) : s'.Recorded :=
  invariant_of_answered (P := fun _ s => s.Recorded) (fun _ hs => hs)
    (fun lookup hopens hs => hs.enter hopens.unbuilt lookup)
    (fun hnew p edges hs => hs.leave hnew p edges) h hrecorded

end Scope

namespace Graph

variable {g : Graph} {id child : NodeId}

theorem consumers_eq (g : Graph) (id : NodeId) :
    g.consumers id = edgesTo g.nodes id + g.outputs.countP (·.value? == some id) :=
  rfl

/-- How often a node is returned. -/
theorem countP_value? (outputs : List Output) (id : NodeId) :
    outputs.countP (·.value? == some id) = (outputs.filterMap Output.value?).count id := by
  rw [List.count, List.countP_filterMap]
  refine List.countP_congr fun output _ => ?_
  cases output.value? <;> simp

theorem edgesTo_pos_of_consumes (h : g.Consumes id child) : 0 < edgesTo g.nodes child := by
  obtain ⟨node, hnode, e, he, rfl⟩ := exists_edge_of_consumes h
  have hmem : node ∈ g.nodes.toList := List.mem_of_getElem? (by rwa [Array.getElem?_toList])
  have hedge : e ∈ g.nodes.toList.flatMap Node.edges := List.mem_flatMap.mpr ⟨node, hmem, he⟩
  exact List.countP_pos_iff.mpr ⟨e, hedge, by simp⟩

theorem outputs_pos_of_value {position : Nat} {r t : TypeRef}
    (h : g.outputs[position]? = some (.value id r t)) :
    0 < g.outputs.countP (·.value? == some id) :=
  List.countP_pos_iff.mpr ⟨_, List.mem_of_getElem? h, by simp [Output.value?]⟩

/-- Nodes that both consume a node with one edge to it are the same. -/
theorem eq_of_consumes {other : NodeId} (hone : edgesTo g.nodes child ≤ 1)
    (h : g.Consumes id child) (h' : g.Consumes other child) : id = other := by
  have hnode : ∀ i, g.Consumes i child → ∃ node, g.nodes.toList[i]? = some node ∧
      (node.edges.any fun e => e.node == child) = true := by
    intro i hconsumes
    obtain ⟨node, hnode, e, he, heq⟩ := exists_edge_of_consumes hconsumes
    refine ⟨node, by rwa [Array.getElem?_toList], ?_⟩
    exact List.any_eq_true.mpr ⟨e, he, by simpa using heq⟩
  obtain ⟨node, hid, hany⟩ := hnode id h
  obtain ⟨node', hother, hany'⟩ := hnode other h'
  exact eq_of_countP_le_one (Nat.le_trans (countP_consuming_le _ _) hone) hid hother hany hany'

/-- When every provider node has one consumer, each is built for one of the results only. -/
theorem position_unique (hone : ∀ id t, g.Builds id t → g.consumers id = 1)
    (hless : ∀ id child, g.Consumes id child → child < id) {t : TypeRef} (hbuilds : g.Builds id t)
    {j k : Nat} (hj : g.Below j id) (hk : g.Below k id) : j = k := by
  -- The induction goes up the tree: a consumer was made later than what it consumes.
  induction hdistance : g.nodes.size - id using Nat.strongRecOn generalizing id t with
  | _ distance ih =>
      obtain ⟨root, r, u, hroot, hreach⟩ := hj
      obtain ⟨root', r', u', hroot', hreach'⟩ := hk
      have hcount := hone id t hbuilds
      rw [consumers_eq] at hcount
      rcases Relation.ReflTransGen.cases_tail hreach with rfl | ⟨parent, habove, hstep⟩
      · have hreturned := outputs_pos_of_value hroot
        rcases Relation.ReflTransGen.cases_tail hreach' with rfl | ⟨parent', -, hstep'⟩
        · have hreturnedOnce : g.outputs.countP (·.value? == some id) ≤ 1 := by omega
          exact eq_of_countP_le_one hreturnedOnce hroot hroot' (by simp [Output.value?])
            (by simp [Output.value?])
        · have hconsumed := edgesTo_pos_of_consumes hstep'
          omega
      · have hconsumed := edgesTo_pos_of_consumes hstep
        rcases Relation.ReflTransGen.cases_tail hreach' with rfl | ⟨parent', habove', hstep'⟩
        · have hreturned := outputs_pos_of_value hroot'
          omega
        · obtain rfl := eq_of_consumes (by omega) hstep hstep'
          obtain ⟨v, hparent⟩ := builds_of_consumes hstep
          have hnearer : g.nodes.size - parent < distance :=
            hdistance ▸ Nat.sub_lt_sub_left hbuilds.lt_size (hless _ _ hstep)
          exact ih _ hnearer hparent ⟨root, r, u, hroot, habove⟩ ⟨root', r', u', hroot', habove'⟩
            rfl

end Graph

end Wiring
