import Std.Data.ExtTreeSet
import Wiring.Graph.Basic

/-!
The order in which the values of a function are bound: parameters first, and every node after the
nodes it consumes. What is left to do is held on a stack, so that the walk does not recur along the
edges, and on any graph it ends: a node is expanded once.
-/

namespace Wiring

inductive Task where
  /-- To see to what the node consumes. -/
  | expand (id : NodeId)
  /-- To put the node in order, after what it consumes. -/
  | emit (id : NodeId)
deriving DecidableEq, Repr

structure Walk where
  visited : Std.ExtTreeSet NodeId
  order : List NodeId

namespace Walk

def start : Walk :=
  ⟨∅, []⟩

def see (w : Walk) (id : NodeId) : Walk :=
  { w with visited := w.visited.insert id }

def emit (w : Walk) (id : NodeId) : Walk :=
  { w with order := w.order ++ [id] }

/-- Puts a parameter in order, which consumes nothing. -/
def addParam (w : Walk) (id : NodeId) : Walk :=
  if id ∈ w.visited then w else (w.see id).emit id

/-- What expanding a node adds to the stack: the nodes that it consumes and that were not expanded
yet, in the order of its inputs, and then the node itself. -/
def tasks (g : Graph) (w : Walk) (id : NodeId) : List Task :=
  (((g.children id).map Edge.node).filter (· ∉ w.visited)).map .expand ++
    [.emit id]

def unvisited (g : Graph) (w : Walk) : Nat :=
  (g.ids.filter (· ∉ w.visited)).length

/-- An upper bound of the steps that a stack takes if nothing is added to it. -/
def load : List Task → Nat
  | [] => 0
  | .expand _ :: stack => load stack + 2
  | .emit _ :: stack => load stack + 1

theorem mem_visited_see {w : Walk} {id i : NodeId} :
    i ∈ (w.see id).visited ↔ i = id ∨ i ∈ w.visited := by
  rw [see, Std.ExtTreeSet.mem_insert, Std.LawfulEqOrd.compare_eq_iff_eq, eq_comm]

theorem unvisited_see_lt {g : Graph} {w : Walk} {id : NodeId} (hid : id < g.nodes.size)
    (hnew : id ∉ w.visited) : (w.see id).unvisited g < w.unvisited g := by
  have hsub : g.ids.filter (· ∉ (w.see id).visited) =
      (g.ids.filter (· ∉ w.visited)).filter (· ≠ id) := by
    rw [List.filter_filter]
    exact List.filter_congr fun i _ => by simp [mem_visited_see]
  rw [unvisited, unvisited, hsub]
  refine List.length_filter_lt_length_iff_exists.mpr ⟨id, ?_, by simp⟩
  exact List.mem_filter.mpr ⟨List.mem_range.mpr hid, by simpa using hnew⟩

theorem tasks_of_size_le {g : Graph} {id : NodeId} (w : Walk) (hid : g.nodes.size ≤ id) :
    tasks g w id = [.emit id] := by
  simp [tasks, Graph.children, Graph.outgoing, Array.getElem?_eq_none hid]

theorem unvisited_see_of_size_le {g : Graph} {id : NodeId} (w : Walk) (hid : g.nodes.size ≤ id) :
    (w.see id).unvisited g = w.unvisited g := by
  have hfilter : g.ids.filter (· ∉ (w.see id).visited) = g.ids.filter (· ∉ w.visited) := by
    refine List.filter_congr fun i hi => ?_
    have hne : i ≠ id := Nat.ne_of_lt (Nat.lt_of_lt_of_le (List.mem_range.mp hi) hid)
    simp [mem_visited_see, hne]
  rw [unvisited, unvisited, hfilter]

end Walk

namespace Graph

def work (g : Graph) (w : Walk) : List Task → Walk
  | [] => w
  | .emit id :: stack => g.work (w.emit id) stack
  | .expand id :: stack =>
    if id ∈ w.visited then
      g.work w stack
    else
      g.work (w.see id) ((w.see id).tasks g id ++ stack)
termination_by stack => (w.unvisited g, Walk.load stack)
decreasing_by
  · exact Prod.Lex.right _ (by simp [Walk.load])
  · exact Prod.Lex.right _ (by simp [Walk.load])
  · by_cases hid : id < g.nodes.size
    · exact Prod.Lex.left _ _ (Walk.unvisited_see_lt hid ‹_›)
    · have hle : g.nodes.size ≤ id := Nat.le_of_not_lt hid
      rw [Walk.unvisited_see_of_size_le w hle, Walk.tasks_of_size_le _ hle]
      exact Prod.Lex.right _ (by simp [Walk.load])

/-- The parameters in declared order, then every node that a result needs, in depth-first order of
the results and of each provider's inputs. -/
def order (g : Graph) : List NodeId :=
  let w := g.params.foldl Walk.addParam .start
  ((g.outputs.filterMap Output.root?).foldl (fun w root => g.work w [.expand root]) w).order

def providers (g : Graph) : List NodeId :=
  g.order.filter fun id => g.nodes[id]?.any Node.isProvider

end Graph

end Wiring
