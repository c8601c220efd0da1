import Mathlib.Data.Fintype.EquivFin
import Mathlib.Data.List.Nodup
import Mathlib.Logic.Relation
import Mathlib.Order.WellFounded
import Wiring.Graph.Basic

/-!
What the nodes of a graph consume. The inputs of a node come in the order of their positions,
however its edges were added, and the test for loops finds exactly the walks that come back.
-/

namespace Wiring

/-- Edges that were added in the order of the inputs that they feed. -/
def Edge.Ordered (edges : List Edge) : Prop :=
  edges.Pairwise fun e e' => e.position ≤ e'.position

theorem Edge.ordered_of_positions {edges : List Edge} {first : Nat}
    (h : ∀ i (hi : i < edges.length), edges[i].position = first + i) : Ordered edges := by
  rw [Ordered, List.pairwise_iff_getElem]
  intro i j hi hj hlt
  rw [h i hi, h j hj]
  exact Nat.add_le_add_left (Nat.le_of_lt hlt) first

namespace Graph

variable {g : Graph} {id child : NodeId} {node : Node}

/-- One node is built from another one. -/
def Consumes (g : Graph) (id child : NodeId) : Prop :=
  ∃ e ∈ g.children id, e.node = child

theorem perm_children (g : Graph) (id : NodeId) : (g.children id).Perm (g.outgoing id) :=
  List.mergeSort_perm _ _

theorem consumes_iff : g.Consumes id child ↔ ∃ e ∈ g.outgoing id, e.node = child := by
  simp only [Consumes, (g.perm_children id).mem_iff]

theorem mem_children_iff (h : g.nodes[id]? = some node) {e : Edge} :
    e ∈ g.children id ↔ e ∈ node.edges := by
  simp only [(g.perm_children id).mem_iff, outgoing, h]

/-- Edges that were added in the order of the inputs stay in it. -/
theorem children_eq (h : g.nodes[id]? = some node) (hordered : Edge.Ordered node.edges) :
    g.children id = node.edges := by
  simp only [children, outgoing, h]
  exact List.mergeSort_of_pairwise (hordered.imp fun hle => decide_eq_true hle)

/-- In which order the edges of a node were added makes no difference to what it consumes, if they
feed different inputs. -/
theorem children_eq_of_perm {g g' : Graph} (hperm : (g.outgoing id).Perm (g'.outgoing id))
    (hdistinct : ((g.outgoing id).map Edge.position).Nodup) : g.children id = g'.children id := by
  have hsorted : ∀ edges : List Edge, (edges.mergeSort fun e e' => e.position ≤ e'.position).Pairwise
      fun e e' => e.position ≤ e'.position := fun edges =>
    (List.pairwise_mergeSort (by simpa using fun _ _ _ => Nat.le_trans)
      (by simpa using fun _ _ => Nat.le_total _ _) edges).imp of_decide_eq_true
  have hsame : (g.children id).Perm (g'.children id) :=
    (g.perm_children id).trans (hperm.trans (g'.perm_children id).symm)
  refine hsame.eq_of_pairwise ?_ (hsorted _) (hsorted _)
  intro e e' he he' hle hge
  have hmem := (g.perm_children id).mem_iff.mp he
  have hmem' := (g.perm_children id).mem_iff.mp (hsame.mem_iff.mpr he')
  exact List.inj_on_of_nodup_map hdistinct hmem hmem' (Nat.le_antisymm hle hge)

theorem exists_edge_of_consumes (h : g.Consumes id child) :
    ∃ node, g.nodes[id]? = some node ∧ ∃ e ∈ node.edges, e.node = child := by
  have hedge := consumes_iff.mp h
  cases hnode : g.nodes[id]? with
  | none => simp [outgoing, hnode] at hedge
  | some node =>
      simp only [outgoing, hnode] at hedge
      exact ⟨node, rfl, hedge⟩

/-- Nodes that consume only earlier ones never come to consume themselves. -/
theorem not_consumes_self (h : ∀ id child, g.Consumes id child → child < id) (id : NodeId) :
    ¬ Relation.TransGen g.Consumes id id := by
  have hless : ∀ child, Relation.TransGen g.Consumes id child → child < id := by
    intro child hreach
    induction hreach with
    | single hone => exact h id _ hone
    | tail _ hone ih => exact Nat.lt_trans (h _ _ hone) ih
  intro hloop
  exact Nat.lt_irrefl id (hless id hloop)

theorem lt_size_of_consumes (h : g.Consumes id child) : id < g.nodes.size := by
  obtain ⟨node, hnode, -⟩ := exists_edge_of_consumes h
  exact (Array.getElem?_eq_some_iff.mp hnode).1

theorem mem_entangled_succ_iff {rounds : Nat} : id ∈ g.entangled (rounds + 1) ↔
    id ∈ g.entangled rounds ∧ ∃ child ∈ g.entangled rounds, g.Consumes id child := by
  simp only [entangled, List.mem_filter, List.any_eq_true, List.contains_iff_mem, consumes_iff]
  refine and_congr_right fun _ => ⟨?_, ?_⟩
  · rintro ⟨e, he, hleft⟩
    exact ⟨e.node, hleft, e, he, rfl⟩
  · rintro ⟨_, hleft, e, he, rfl⟩
    exact ⟨e, he, hleft⟩

/-- A node on a walk that comes back is never taken away, since neither is the next one. -/
theorem mem_entangled_of_loop (h : Relation.TransGen g.Consumes id id) (rounds : Nat) :
    id ∈ g.entangled rounds := by
  induction rounds generalizing id with
  | zero =>
      obtain ⟨child, hconsumes, -⟩ := Relation.TransGen.head'_iff.mp h
      exact List.mem_range.mpr (lt_size_of_consumes hconsumes)
  | succ rounds ih =>
      obtain ⟨child, hconsumes, hback⟩ := Relation.TransGen.head'_iff.mp h
      exact mem_entangled_succ_iff.mpr ⟨ih h, child, ih (.tail' hback hconsumes), hconsumes⟩

/-- Among some nodes of a graph without loops one consumes none of them. -/
theorem exists_settled (h : ∀ id, ¬ Relation.TransGen g.Consumes id id) {ids : List NodeId}
    (hsome : ids ≠ []) : ∃ id ∈ ids, ∀ child ∈ ids, ¬ g.Consumes id child := by
  let below (child parent : {id // id ∈ ids}) : Prop := Relation.TransGen g.Consumes parent child
  have : IsTrans _ below := ⟨fun _ _ _ hfirst hsecond => hsecond.trans hfirst⟩
  have : Std.Irrefl below := ⟨fun id => h id⟩
  obtain ⟨first, hfirst⟩ := List.exists_mem_of_ne_nil ids hsome
  obtain ⟨last, -, hlast⟩ := (Finite.wellFounded_of_trans_of_irrefl below).has_min Set.univ
    ⟨⟨first, hfirst⟩, trivial⟩
  exact ⟨last, last.property, fun child hchild hconsumes =>
    hlast ⟨child, hchild⟩ trivial (.single hconsumes)⟩

/-- Each round takes a node away. -/
theorem length_entangled_le (h : ∀ id, ¬ Relation.TransGen g.Consumes id id) (rounds : Nat) :
    (g.entangled rounds).length ≤ g.nodes.size - rounds := by
  induction rounds with
  | zero => simp [entangled, ids]
  | succ rounds ih =>
      by_cases hnone : g.entangled rounds = []
      · simp [entangled, hnone]
      · obtain ⟨id, hleft, hsettled⟩ := exists_settled h hnone
        have htaken : id ∉ g.entangled (rounds + 1) := fun hmem =>
          let ⟨child, hchild, hconsumes⟩ := (mem_entangled_succ_iff.mp hmem).2
          hsettled child hchild hconsumes
        have hshorter : (g.entangled (rounds + 1)).length < (g.entangled rounds).length := by
          refine List.length_filter_lt_length_iff_exists.mpr ⟨id, hleft, fun hkept => htaken ?_⟩
          exact List.mem_filter.mpr ⟨hleft, hkept⟩
        omega

/-- The test finds a walk that comes back, if there is one, and nothing else. -/
theorem isAcyclic_iff : g.isAcyclic = true ↔ ∀ id, ¬ Relation.TransGen g.Consumes id id := by
  rw [isAcyclic, List.isEmpty_iff]
  constructor
  · intro hnone id hloop
    have hleft := mem_entangled_of_loop hloop g.nodes.size
    rw [hnone] at hleft
    cases hleft
  · intro h
    have hlength := length_entangled_le h g.nodes.size
    rw [Nat.sub_self] at hlength
    exact List.length_eq_zero_iff.mp (Nat.le_zero.mp hlength)

end Graph

end Wiring
