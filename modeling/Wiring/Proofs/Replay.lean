import Wiring.Proofs.Assembly
import Wiring.Proofs.Structure
import Wiring.Proofs.Walk

/-!
The walk over a finished graph comes by its nodes in the order in which the resolution has made
them: where the resolution has added some nodes for a requested type, expanding the node that it
answered with puts exactly these in order, and reaches each of them.
-/

namespace Wiring

/-- Of the nodes before `b` those before `a` were expanded. -/
def Walk.At (w : Walk) (a b : Nat) : Prop :=
  ∀ i, i < b → (i ∈ w.visited ↔ i < a)

/-- A walk has come by the nodes from `a` up to `b`. -/
structure Walk.Passed (w w' : Walk) (a b : Nat) : Prop where
  order : w'.order = w.order ++ List.range' a (b - a)
  visited : ∀ i, i ∈ w'.visited ↔ i ∈ w.visited ∨ a ≤ i ∧ i < b

namespace Walk

variable {w mid w' : Walk} {a b c : Nat}

theorem passed_refl (w : Walk) (a : Nat) : w.Passed w a a where
  order := by simp
  visited i := by
    constructor
    · exact Or.inl
    · rintro (hold | ⟨hle, hlt⟩)
      · exact hold
      · exact absurd hlt (Nat.not_lt_of_le hle)

theorem Passed.trans (h : w.Passed mid a b) (h' : mid.Passed w' b c) (hab : a ≤ b) (hbc : b ≤ c) :
    w.Passed w' a c where
  order := by
    have hlength : b - a + (c - b) = c - a := by omega
    have hstart : a + (b - a) = b := by omega
    rw [h'.order, h.order, List.append_assoc, ← hlength, ← List.range'_append_1, hstart]
  visited i := by
    rw [h'.visited, h.visited, or_assoc]
    refine or_congr_right ?_
    constructor
    · rintro (⟨hlow, hhigh⟩ | ⟨hlow, hhigh⟩)
      · exact ⟨hlow, Nat.lt_of_lt_of_le hhigh hbc⟩
      · exact ⟨Nat.le_trans hab hlow, hhigh⟩
    · rintro ⟨hlow, hhigh⟩
      rcases Nat.lt_or_ge i b with hlt | hge
      · exact Or.inl ⟨hlow, hlt⟩
      · exact Or.inr ⟨hge, hhigh⟩

/-- Putting a node in order that was expanded before all that was passed. -/
theorem Passed.emit (h : (w.see b).Passed w' a b) (hab : a ≤ b) :
    w.Passed (w'.emit b) a (b + 1) where
  order := by
    have hlength : b + 1 - a = b - a + 1 := by omega
    have hlast : a + (b - a) = b := by omega
    rw [Walk.emit, h.order, hlength, List.range'_1_concat, hlast, ← List.append_assoc]
    rfl
  visited i := by
    have hvisited : i ∈ (w'.emit b).visited ↔ i ∈ (w.see b).visited ∨ a ≤ i ∧ i < b := h.visited i
    rw [hvisited, mem_visited_see, Nat.lt_succ_iff_lt_or_eq, and_or_left]
    constructor
    · rintro ((rfl | hold) | hnew)
      · exact Or.inr (Or.inr ⟨hab, rfl⟩)
      · exact Or.inl hold
      · exact Or.inr (Or.inl hnew)
    · rintro (hold | hnew | ⟨-, rfl⟩)
      · exact Or.inl (Or.inr hold)
      · exact Or.inr hnew
      · exact Or.inl (Or.inl rfl)

/-- After passing some nodes a walk is further. -/
theorem At.passed (hat : w.At a c) (h : w.Passed w' a b) (hab : a ≤ b) : w'.At b c := by
  intro i hi
  rw [h.visited, hat i hi]
  constructor
  · rintro (hlt | ⟨-, hlt⟩)
    · exact Nat.lt_of_lt_of_le hlt hab
    · exact hlt
  · intro hlt
    rcases Nat.lt_or_ge i a with hlow | hge
    · exact Or.inl hlow
    · exact Or.inr ⟨hge, hlt⟩

theorem At.mono (hat : w.At a c) (hbc : b ≤ c) : w.At a b :=
  fun i hi => hat i (Nat.lt_of_lt_of_le hi hbc)

end Walk

/-- Expanding some nodes of a graph passes exactly the nodes that were added between two states of
its construction, and each of these is consumed by the expanded ones, directly or not. -/
structure Replays (before after : Array Node) (ids : List NodeId) : Prop where
  grows : before.toList <+: after.toList
  bound : ∀ id ∈ ids, id < after.size
  passed : ∀ (g : Graph) (w : Walk), after.toList <+: g.nodes.toList →
    w.At before.size after.size →
      w.Passed (g.work w (ids.map .expand)) before.size after.size
  reached : ∀ (g : Graph) (i : Nat), after.toList <+: g.nodes.toList → before.size ≤ i →
    i < after.size → ∃ id ∈ ids, Relation.ReflTransGen g.Consumes id i

namespace Replays

variable {before mid after : Array Node} {first second : List NodeId}

theorem size_le (h : Replays before after first) : before.size ≤ after.size := by
  simpa using h.grows.length_le

theorem nil (nodes : Array Node) : Replays nodes nodes [] where
  grows := List.prefix_refl _
  bound := by simp
  passed g w _ _ := by
    rw [List.map_nil, Graph.work_nil]
    exact w.passed_refl _
  reached _ _ _ hle hlt := absurd hlt (Nat.not_lt_of_le hle)

/-- Expanding a node that was there before adds nothing. -/
theorem old {nodes : Array Node} {id : Nat} (hid : id < nodes.size) : Replays nodes nodes [id] where
  grows := List.prefix_refl _
  bound := by simpa using hid
  passed g w _ hat := by
    have hmem : id ∈ w.visited := (hat id hid).mpr hid
    rw [List.map_cons, Graph.work_expand_of_mem hmem, List.map_nil, Graph.work_nil]
    exact w.passed_refl _
  reached _ _ _ hle hlt := absurd hlt (Nat.not_lt_of_le hle)

theorem append (h : Replays before mid first) (h' : Replays mid after second) :
    Replays before after (first ++ second) where
  grows := h.grows.trans h'.grows
  bound id hid := by
    rcases List.mem_append.mp hid with hfirst | hsecond
    · exact Nat.lt_of_lt_of_le (h.bound id hfirst) h'.size_le
    · exact h'.bound id hsecond
  passed g w hg hat := by
    have hone := h.passed g w (h'.grows.trans hg) (hat.mono h'.size_le)
    have hall := h'.passed g _ hg (hat.passed hone h.size_le)
    rw [List.map_append, Graph.work_append]
    exact hone.trans hall h.size_le h'.size_le
  reached g i hg hlow hhigh := by
    rcases Nat.lt_or_ge i mid.size with hlt | hge
    · obtain ⟨id, hid, hreach⟩ := h.reached g i (h'.grows.trans hg) hlow hlt
      exact ⟨id, List.mem_append_left _ hid, hreach⟩
    · obtain ⟨id, hid, hreach⟩ := h'.reached g i hg hge hhigh
      exact ⟨id, List.mem_append_right _ hid, hreach⟩

theorem of_push_grown {nodes all : Array Node} {node : Node}
    (h : (nodes.push node).toList <+: all.toList) :
    nodes.toList <+: all.toList ∧ all[nodes.size]? = some node := by
  have hgrows : nodes.toList <+: (nodes.push node).toList := by simp
  refine ⟨hgrows.trans h, ?_⟩
  rw [getElem?_eq_of_grown h (by simp), Array.getElem?_push_size]

/-- Expanding a new node passes what was added for its inputs, and then the node itself. -/
theorem push {t : TypeRef} {p : Provider} {edges : List Edge} (hordered : Edge.Ordered edges)
    (h : Replays before after (edges.map Edge.node)) :
    Replays before (after.push (.provider t p edges)) [after.size] where
  grows := h.grows.trans (by simp)
  bound := by simp
  passed g w hg hat := by
    have hle := h.size_le
    obtain ⟨hinner, hnode⟩ := of_push_grown hg
    rw [Array.size_push] at hat ⊢
    have hnew : after.size ∉ w.visited := by
      rw [hat after.size (Nat.lt_succ_self _)]
      exact Nat.not_lt_of_le hle
    have hseen : (w.see after.size).At before.size after.size := by
      intro i hi
      rw [Walk.mem_visited_see, hat i (Nat.lt_succ_of_lt hi)]
      exact or_iff_right (Nat.ne_of_lt hi)
    have hbelow := h.passed g (w.see after.size) hinner hseen
    have hchildren : g.children after.size = edges := Graph.children_eq hnode hordered
    rw [List.map_cons, List.map_nil, Graph.work_expand hnew, hchildren]
    exact hbelow.emit hle
  reached g i hg hlow hhigh := by
    obtain ⟨hinner, hnode⟩ := of_push_grown hg
    refine ⟨after.size, List.mem_singleton_self _, ?_⟩
    rw [Array.size_push, Nat.lt_succ_iff_lt_or_eq] at hhigh
    rcases hhigh with hlt | rfl
    · obtain ⟨id, hid, hreach⟩ := h.reached g i hinner hlow hlt
      obtain ⟨e, he, rfl⟩ := List.mem_map.mp hid
      exact .head ⟨e, (Graph.mem_children_iff hnode).mpr he, rfl⟩ hreach
    · exact .refl

/-- Whatever a run puts together, expanding what it answers with passes what it has added. -/
theorem of_assembled {hoist : Bool} {ids : List NodeId} (h : Assembled hoist before after ids) :
    Replays before after ids := by
  induction h with
  | nil nodes => exact .nil nodes
  | external hnode => exact .old (Array.getElem?_eq_some_iff.mp hnode).1
  | reused _ hid => exact .old hid
  | append _ _ ihfirst ihsecond => exact ihfirst.append ihsecond
  | push t p hordered _ ih => exact ih.push hordered

end Replays

namespace Scope

variable {scope : Scope} {path : List TypeRef}

theorem replays_of_answered {s s' : Resolution scope path} {results : List Dependency}
    {outputs : List Output} {hoist : Bool}
    (h : Answered (fun s r supply s' => scope.resolve hoist s r = .ok (supply, s')) results s
      outputs s') (hframed : s.Framed) :
    s'.Framed ∧ Replays s.nodes s'.nodes (outputs.filterMap Output.root?) :=
  (assembled_of_answered h hframed).imp_right .of_assembled

end Scope

end Wiring
