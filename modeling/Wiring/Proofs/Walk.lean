import Wiring.Graph.Order

/-!
What working off a stack does to a walk, whatever the graph.
-/

namespace Wiring.Graph

variable {g : Graph} {w : Walk} {id : NodeId} {stack : List Task}

theorem work_nil : g.work w [] = w := by
  rw [work]

theorem work_emit : g.work w (.emit id :: stack) = g.work (w.emit id) stack := by
  rw [work]

/-- A node that was expanded before is passed over. -/
theorem work_expand_of_mem (h : id ∈ w.visited) :
    g.work w (.expand id :: stack) = g.work w stack := by
  rw [work, if_pos h]

theorem work_expand_of_not_mem (h : id ∉ w.visited) :
    g.work w (.expand id :: stack) = g.work (w.see id) ((w.see id).tasks g id ++ stack) := by
  rw [work, if_neg h]

/-- A walk looks at the nodes of a graph only. -/
theorem work_congr {g g' : Graph} (hnodes : g'.nodes = g.nodes) (w : Walk) (stack : List Task) :
    g'.work w stack = g.work w stack := by
  have htasks : ∀ w id, Walk.tasks g' w id = Walk.tasks g w id := by
    intro w id
    rw [Walk.tasks, Walk.tasks, children, children, outgoing, outgoing, hnodes]
  fun_induction work g w stack with
  | case1 w => rw [work_nil]
  | case2 w id stack ih => rw [work_emit, ih]
  | case3 w id stack hmem ih => rw [work_expand_of_mem hmem, ih]
  | case4 w id stack hmem ih => rw [work_expand_of_not_mem hmem, htasks, ih]

/-- Two parts of a stack are worked off one after the other. -/
theorem work_append (g : Graph) (w : Walk) (first second : List Task) :
    g.work w (first ++ second) = g.work (g.work w first) second := by
  fun_induction work g w first with
  | case1 w => rfl
  | case2 w id stack ih =>
      rw [List.cons_append, work_emit]
      exact ih
  | case3 w id stack hmem ih =>
      rw [List.cons_append, work_expand_of_mem hmem]
      exact ih
  | case4 w id stack hmem ih =>
      rw [List.cons_append, work_expand_of_not_mem hmem, ← List.append_assoc]
      exact ih

theorem work_map_append (g : Graph) (w : Walk) (ids more : List NodeId) :
    g.work w ((ids ++ more).map .expand) =
      g.work (g.work w (ids.map .expand)) (more.map .expand) := by
  rw [List.map_append, work_append]

theorem mem_visited_work {i : NodeId} (h : i ∈ w.visited) : i ∈ (g.work w stack).visited := by
  fun_induction work g w stack with
  | case1 w => exact h
  | case2 w id stack ih => exact ih h
  | case3 w id stack hmem ih => exact ih h
  | case4 w id stack hmem ih => exact ih (Walk.mem_visited_see.mpr (Or.inr h))

/-- It makes no difference whether nodes that were expanded before are put on the stack. -/
theorem work_filter (g : Graph) {w : Walk} {seen : NodeId → Bool} (ids : List NodeId)
    (hseen : ∀ i, seen i = true → i ∈ w.visited) :
    g.work w ((ids.filter (!seen ·)).map .expand) = g.work w (ids.map .expand) := by
  induction ids generalizing w with
  | nil => rfl
  | cons i ids ih =>
      have hrest := @ih (g.work w [.expand i]) fun j hj => mem_visited_work (hseen j hj)
      have hone : g.work w ((i :: ids).map .expand) =
          g.work (g.work w [.expand i]) (ids.map .expand) := g.work_map_append w [i] ids
      rw [hone]
      cases hi : seen i with
      | true =>
          rw [work_expand_of_mem (hseen i hi), work_nil] at hrest ⊢
          rw [List.filter_cons_of_neg (by simp [hi])]
          exact hrest
      | false =>
          rw [List.filter_cons_of_pos (by simp [hi]), ← hrest]
          exact g.work_map_append w [i] (ids.filter (!seen ·))

/-- Expanding a node for the first time works off what it consumes, and puts it in order last. -/
theorem work_expand (h : id ∉ w.visited) :
    g.work w [.expand id] =
      (g.work (w.see id) (((g.children id).map Edge.node).map .expand)).emit id := by
  have hskip : g.work (w.see id)
      ((((g.children id).map Edge.node).filter (· ∉ (w.see id).visited)).map .expand) =
      g.work (w.see id) (((g.children id).map Edge.node).map .expand) := by
    have hseen : ∀ i, decide (i ∈ (w.see id).visited) = true → i ∈ (w.see id).visited :=
      fun i hi => of_decide_eq_true hi
    simpa using g.work_filter ((g.children id).map Edge.node) hseen
  rw [work_expand_of_not_mem h, List.append_nil, Walk.tasks, work_append, hskip, work_emit,
    work_nil]

end Wiring.Graph
