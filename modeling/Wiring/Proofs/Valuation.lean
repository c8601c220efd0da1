import Wiring.Proofs.Execution
import Wiring.Proofs.Replay

/-!
The values that running a graph gives to its nodes. Each node gets the value of what stands below
it, however many nodes share it, and a run fails with the error that evaluating the trees from left
to right meets first.
-/

namespace Wiring

universe u

variable {V E : Type u}

namespace Graph

variable {g : Graph} {interp : Interpretation V E} {args : List V} {store : Store NodeId V}
  {n : Nat}

/-- All nodes before some point have the values of what stands below them. -/
def Holds (g : Graph) (interp : Interpretation V E) (args : List V) (store : Store NodeId V)
    (n : Nat) : Prop :=
  ∀ id < n, ∃ value, store id = some value ∧ (unfold g.nodes id).eval interp args = .ok value

/-- Nodes that hold can be read, and what is read is what evaluating them gives. -/
theorem Holds.values {ids : List NodeId} (h : g.Holds interp args store n)
    (hbound : ∀ id ∈ ids, id < n) :
    ∃ values, (ids.mapM fun id => (Halt.expect (store id) : Except (Halt E) V)) = .ok values ∧
      (ids.mapM fun id => (unfold g.nodes id).eval interp args) = .ok values := by
  induction ids with
  | nil => exact ⟨[], rfl, rfl⟩
  | cons id ids ih =>
      obtain ⟨value, hstore, heval⟩ := h id (hbound id List.mem_cons_self)
      obtain ⟨values, hread, hvalues⟩ := ih fun i hi => hbound i (List.mem_cons_of_mem _ hi)
      refine ⟨value :: values, ?_, ?_⟩
      · rw [List.mapM_cons, hstore, hread]
        rfl
      · rw [List.mapM_cons, heval, hvalues]
        rfl

theorem Holds.set (h : g.Holds interp args store n) {value : V}
    (heval : (unfold g.nodes n).eval interp args = .ok value) :
    g.Holds interp args (store.set n value) (n + 1) := by
  intro id hid
  rcases Nat.lt_succ_iff_lt_or_eq.mp hid with hlt | rfl
  · rw [Store.set_of_ne store value (Nat.ne_of_lt hlt)]
    exact h id hlt
  · exact ⟨value, Store.set_self .., heval⟩

/-- The tree below a provider node has the value that its constructor makes of the nodes consumed. -/
theorem eval_unfold {id : NodeId} {t : TypeRef} {p : Provider} {edges : List Edge}
    (hnode : g.nodes[id]? = some (.provider t p edges)) (hbelow : ∀ e ∈ edges, e.node < id) :
    (unfold g.nodes id).eval interp args = (do
      let values ← (edges.map Edge.node).mapM fun id => (unfold g.nodes id).eval interp args
      interp.apply p values) := by
  rw [unfold_provider hnode hbelow, BuildTree.eval_provider, List.mapM_map, List.mapM_map]
  simp only [Interpretation.apply_erased, Function.comp_def]

/-- Taking a provider node after all that it consumes gives it its value, or fails as the evaluation
of its tree does. -/
theorem Holds.step {t : TypeRef} {p : Provider} {edges : List Edge}
    (h : g.Holds interp args store n) (hnode : g.nodes[n]? = some (.provider t p edges))
    (hordered : Edge.Ordered edges) (hbelow : ∀ e ∈ edges, e.node < n) :
    (∃ store', g.step interp store n = .ok store' ∧ g.Holds interp args store' (n + 1)) ∨
    ∃ e, g.step interp store n = .error (.failed e) ∧
      (unfold g.nodes n).eval interp args = .error (.failed e) := by
  have hbound : ∀ id ∈ edges.map Edge.node, id < n := by
    intro id hid
    obtain ⟨e, he, rfl⟩ := List.mem_map.mp hid
    exact hbelow e he
  obtain ⟨values, hread, hvalues⟩ := h.values hbound
  have hargs : (edges.mapM fun edge => (Halt.expect (store edge.node) : Except (Halt E) V)) =
      .ok values := by
    rw [List.mapM_map] at hread
    exact hread
  have heval : (unfold g.nodes n).eval interp args = _ := eval_unfold hnode hbelow
  rw [hvalues] at heval
  rw [step_of_provider hnode, children_eq hnode hordered, Node.edges, hargs]
  rcases interp.apply_cases p values with ⟨value, hvalue⟩ | ⟨e, hfailed⟩
  · refine Or.inl ⟨store.set n value, Except.bind_eq_ok_iff.mpr ⟨values, rfl, ?_⟩, ?_⟩
    · exact Except.bind_eq_ok_iff.mpr ⟨value, hvalue, rfl⟩
    · exact h.set (heval.trans hvalue)
  · refine Or.inr ⟨e, Except.bind_eq_error_iff.mpr (Or.inr ⟨values, rfl, ?_⟩), ?_⟩
    · exact Except.bind_eq_error_iff.mpr (Or.inl hfailed)
    · exact heval.trans hfailed

/-- Running the nodes from `a` up to `b` gives them their values, or it fails as evaluating `ids` from
left to right does. -/
def Runs (g : Graph) (interp : Interpretation V E) (args : List V) (store : Store NodeId V)
    (a b : Nat) (ids : List NodeId) : Prop :=
  (∃ store', (List.range' a (b - a)).foldlM (g.step interp) store = .ok store' ∧
    g.Holds interp args store' b) ∨
  ∃ e, (List.range' a (b - a)).foldlM (g.step interp) store = .error (.failed e) ∧
    (ids.mapM fun id => (unfold g.nodes id).eval interp args) = .error (.failed e)

theorem Holds.runs (h : g.Holds interp args store n) (ids : List NodeId) :
    g.Runs interp args store n n ids := by
  refine Or.inl ⟨store, ?_, h⟩
  rw [Nat.sub_self]
  rfl

/-- Two parts are run one after the other. -/
theorem Runs.append {a b c : Nat} {first second : List NodeId}
    (h : g.Runs interp args store a b first) (hab : a ≤ b) (hbc : b ≤ c)
    (hbound : ∀ id ∈ first, id < b)
    (hrest : ∀ store', g.Holds interp args store' b → g.Runs interp args store' b c second) :
    g.Runs interp args store a c (first ++ second) := by
  have hmid : a + (b - a) = b := Nat.add_sub_cancel' hab
  have hlength : b - a + (c - b) = c - a := by omega
  rw [Runs, ← hlength, ← List.range'_append_1, hmid, List.foldlM_append, List.mapM_append]
  rcases h with ⟨store', hrun, hholds⟩ | ⟨e, hrun, heval⟩
  · obtain ⟨values, -, hvalues⟩ := hholds.values hbound
    rw [hrun, hvalues]
    rcases hrest store' hholds with hdone | ⟨e, hrun', heval⟩
    · exact Or.inl hdone
    · refine Or.inr ⟨e, hrun', ?_⟩
      rw [heval]
      rfl
  · rw [hrun, heval]
    exact Or.inr ⟨e, rfl, rfl⟩

/-- A provider node is run after what it consumes. -/
theorem Runs.push {a b : Nat} {t : TypeRef} {p : Provider} {edges : List Edge}
    (h : g.Runs interp args store a b (edges.map Edge.node)) (hab : a ≤ b)
    (hnode : g.nodes[b]? = some (.provider t p edges)) (hordered : Edge.Ordered edges)
    (hbelow : ∀ e ∈ edges, e.node < b) :
    g.Runs interp args store a (b + 1) [b] := by
  have hlast : a + (b - a) = b := Nat.add_sub_cancel' hab
  have hlength : b + 1 - a = b - a + 1 := by omega
  rw [Runs, hlength, List.range'_1_concat, hlast, List.foldlM_append, List.mapM_cons]
  rcases h with ⟨store', hrun, hholds⟩ | ⟨e, hrun, heval⟩
  · rw [hrun]
    rcases hholds.step hnode hordered hbelow with ⟨last, hstep, hlasts⟩ | ⟨e, hstep, heval⟩
    · exact Or.inl ⟨last, Except.bind_eq_ok_iff.mpr ⟨store', rfl, by simpa using hstep⟩, hlasts⟩
    · refine Or.inr ⟨e, ?_, ?_⟩
      · exact Except.bind_eq_error_iff.mpr (Or.inr ⟨store', rfl, by simpa using hstep⟩)
      · rw [heval]
        rfl
  · rw [hrun, eval_unfold hnode hbelow, heval]
    exact Or.inr ⟨e, rfl, rfl⟩

end Graph

/-- Running the nodes that were added between two states of the construction gives them their
values, or it fails as evaluating what the construction answered with does. -/
theorem Assembled.runs {hoist : Bool} {before after : Array Node} {ids : List NodeId}
    (h : Assembled hoist before after ids) {g : Graph} (hgrown : after.toList <+: g.nodes.toList)
    {interp : Interpretation V E} {args : List V} {store : Store NodeId V}
    (hholds : g.Holds interp args store before.size) :
    g.Runs interp args store before.size after.size ids := by
  induction h generalizing store with
  | nil => exact hholds.runs _
  | external => exact hholds.runs _
  | reused => exact hholds.runs _
  | append hfirst hsecond ihfirst ihsecond =>
      have hbound := (Replays.of_assembled hfirst).bound
      have hruns := ihfirst (hsecond.grows.trans hgrown) hholds
      exact hruns.append hfirst.size_le hsecond.size_le hbound fun _ hmid => ihsecond hgrown hmid
  | @push before after edges t p hordered hinputs ih =>
      obtain ⟨hinner, hnode⟩ := Replays.of_push_grown hgrown
      have hbelow : ∀ e ∈ edges, e.node < after.size := fun e he =>
        (Replays.of_assembled hinputs).bound e.node (List.mem_map.mpr ⟨e, he, rfl⟩)
      rw [Array.size_push]
      exact (ih hinner hholds).push hinputs.size_le hnode hordered hbelow

end Wiring
