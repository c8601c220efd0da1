import Mathlib.Data.List.Nodup
import Wiring.Proofs.Economy
import Wiring.Proofs.Listing
import Wiring.Proofs.Scoping

/-!
The printout of the graph of a request. It has a line for each result and a line for each edge, so
that a node is shown as often as it is consumed, and what a provider node consumes is written out
below one of its lines.
-/

namespace List

variable {α β : Type} {l l' : List α}

theorem flatMap_filter_of_eq_nil {f : α → List β} {q : α → Bool}
    (h : ∀ a, q a = false → f a = []) (l : List α) : (l.filter q).flatMap f = l.flatMap f := by
  induction l with
  | nil => rfl
  | cons a rest ih =>
      rw [filter_cons]
      split
      case isTrue => rw [flatMap_cons, flatMap_cons, ih]
      case isFalse hq => rw [flatMap_cons, h a (Bool.not_eq_true _ ▸ hq), ih, nil_append]

/-- Only those members count that contribute something. -/
theorem perm_flatMap_of_count_eq [DecidableEq α] {f : α → List β}
    (h : ∀ a, f a ≠ [] → l.count a = l'.count a) : (l.flatMap f).Perm (l'.flatMap f) := by
  let contributes : α → Bool := fun a => !(f a).isEmpty
  have hnil : ∀ a, contributes a = false → f a = [] := by simp [contributes]
  have hperm : (l.filter contributes).Perm (l'.filter contributes) := by
    rw [perm_iff_count]
    intro a
    cases hcontributes : contributes a with
    | true =>
        rw [count_filter hcontributes, count_filter hcontributes]
        exact h a (by simpa [contributes] using hcontributes)
    | false =>
        rw [count_eq_zero_of_not_mem (by simp [hcontributes]),
          count_eq_zero_of_not_mem (by simp [hcontributes])]
  rw [← flatMap_filter_of_eq_nil hnil l, ← flatMap_filter_of_eq_nil hnil l']
  exact hperm.flatMap_right f

theorem countP_flatMap_of_count_eq [DecidableEq α] {f : α → List β} {p : β → Bool}
    (h : ∀ a, (f a).any p = true → l.count a = l'.count a) :
    (l.flatMap f).countP p = (l'.flatMap f).countP p := by
  have hsome : ∀ a, (f a).filter p ≠ [] → l.count a = l'.count a := by
    intro a hne
    obtain ⟨b, hb⟩ := exists_mem_of_ne_nil _ hne
    exact h a (any_eq_true.mpr ⟨b, mem_filter.mp hb⟩)
  rw [countP_eq_length_filter, countP_eq_length_filter, filter_flatMap, filter_flatMap]
  exact (perm_flatMap_of_count_eq hsome).length_eq

end List

namespace Wiring

namespace Graph

variable {g : Graph} {id : NodeId} {t : TypeRef} {listed last : List NodeId}
  {lines body : List TreeLine} {outputs : List Output}

theorem perm_flatMap_children (g : Graph) : (g.ids.flatMap g.children).Perm g.edges := by
  have hnodes : g.ids.map g.outgoing = g.nodes.toList.map Node.edges := by
    apply List.ext_getElem
    · simp [ids]
    · intro i h _
      have hi : i < g.nodes.size := by simpa [ids] using h
      simp [ids, outgoing, hi]
  have hedges : g.edges = g.ids.flatMap g.outgoing := by
    rw [edges, List.flatMap_def, List.flatMap_def, hnodes]
  rw [hedges]
  exact List.Perm.flatMap_left _ fun id _ => g.perm_children id

theorem count_ids (hid : id < g.nodes.size) : g.ids.count id = 1 :=
  List.count_eq_one_of_mem List.nodup_range (List.mem_range.mpr hid)

/-- How often the lines of some uses show a node: once for each of the uses, and once for each edge
from a node that they write out. -/
theorem Lists.countP_shows {us : List Usage} {depth : Nat} (h : g.Lists depth us lines)
    (id : NodeId) :
    lines.countP (TreeLine.shows id) = us.countP (fun u => u.node == id) +
      ((openings lines).flatMap g.children).countP (fun e => e.node == id) := by
  have hshows : lines.countP (TreeLine.shows id) =
      (lines.filterMap TreeLine.usage?).countP (fun u => u.node == id) := by
    rw [List.countP_filterMap]
    refine List.countP_congr fun line _ => ?_
    cases hline : line.usage? <;> simp [TreeLine.shows, hline]
  rw [hshows, h.perm_usages.countP_eq, List.countP_append, ← List.map_flatMap, List.countP_map]
  rfl

/-- A provider node that is shown at all is written out once: when hoisting, below its first line,
and otherwise because it is shown once. -/
theorem Prints.count_openings_eq_one {us : List Usage} {depth : Nat}
    (h : g.Prints depth [] us lines last) (hbuilds : g.Builds id t)
    (hshown : 0 < lines.countP (TreeLine.shows id))
    (hcopied : g.hoist = false → lines.countP (TreeLine.shows id) = 1) :
    (openings lines).count id = 1 := by
  obtain ⟨p, edges, hnode⟩ := hbuilds
  rw [count_openings]
  cases hhoist : g.hoist with
  | true =>
      have hsharing := h.sharing hhoist hnode rfl
      rw [← length_sharings] at hshown
      rw [hsharing.eq_cons hshown]
      simp [List.count_replicate]
  | false =>
      have hnone : ∀ tag ∈ sharings id lines, tag = false := by
        intro tag hmem
        obtain ⟨line, hline, rfl⟩ := List.mem_map.mp hmem
        exact h.not_shared hhoist line (List.mem_filter.mp hline).1
      rw [List.count_eq_length.mpr fun tag hmem => (hnone tag hmem).symm, length_sharings]
      exact hcopied hhoist

/-- A graph in which every provider node is consumed, and is consumed once without hoisting. -/
structure Consumed (g : Graph) : Prop where
  earlier : ∀ id child, g.Consumes id child → child < id
  positive : ∀ id t, g.Builds id t → 0 < g.consumers id
  single : g.hoist = false → ∀ id t, g.Builds id t → g.consumers id = 1

theorem countP_usage? (outputs : List Output) (id : NodeId) :
    (outputs.filterMap Output.usage?).countP (fun u => u.node == id) =
      outputs.countP (fun output => output.value? == some id) := by
  rw [List.countP_filterMap]
  refine List.countP_congr fun output _ => ?_
  cases output <;> simp [Output.usage?, Output.value?]

namespace Consumed

/-- Each node is shown as often as it is consumed, and each provider node is written out once. The
induction goes from the results down: what consumes a node was made after it. -/
theorem shows_and_opens (hconsumed : g.Consumed)
    (h : g.Prints 1 [] (g.outputs.filterMap Output.usage?) lines last) (id : NodeId) :
    lines.countP (TreeLine.shows id) = g.consumers id ∧
      (∀ t, g.Builds id t → (openings lines).count id = 1) := by
  induction hdistance : g.nodes.size - id using Nat.strongRecOn generalizing id with
  | _ distance ih =>
      have habove : ∀ parent, g.Consumes parent id →
          (openings lines).count parent = g.ids.count parent := by
        intro parent hconsumes
        obtain ⟨u, hbuilds⟩ := builds_of_consumes hconsumes
        have hlater := hconsumed.earlier parent id hconsumes
        have hnearer : g.nodes.size - parent < distance :=
          hdistance ▸ Nat.sub_lt_sub_left (Nat.lt_trans hlater hbuilds.lt_size) hlater
        rw [count_ids hbuilds.lt_size]
        exact (ih _ hnearer parent rfl).2 u hbuilds
      have hshown : lines.countP (TreeLine.shows id) = g.consumers id := by
        rw [h.lists.countP_shows, countP_usage?, consumers, Nat.add_comm,
          ← g.perm_flatMap_children.countP_eq]
        congr 1
        refine List.countP_flatMap_of_count_eq fun parent hany => habove parent ?_
        obtain ⟨e, he, heq⟩ := List.any_eq_true.mp hany
        exact ⟨e, he, by simpa using heq⟩
      refine ⟨hshown, fun t hbuilds => h.count_openings_eq_one hbuilds ?_ fun hhoist => ?_⟩
      · rw [hshown]
        exact hconsumed.positive id t hbuilds
      · rw [hshown]
        exact hconsumed.single hhoist id t hbuilds

/-- The uses that are shown are those of the results and those that the edges stand for. -/
theorem perm_usages (hconsumed : g.Consumed)
    (h : g.Prints 1 [] (g.outputs.filterMap Output.usage?) lines last) :
    (lines.filterMap TreeLine.usage?).Perm
      (g.outputs.filterMap Output.usage? ++ g.edges.map Edge.usage) := by
  refine h.lists.perm_usages.trans (List.Perm.append_left _ ?_)
  refine List.Perm.trans ?_ (g.perm_flatMap_children.map Edge.usage)
  rw [List.map_flatMap]
  refine List.perm_flatMap_of_count_eq fun id hne => ?_
  obtain ⟨e, he⟩ := List.exists_mem_of_ne_nil _ (List.map_eq_nil_iff.not.mp hne)
  obtain ⟨t, hbuilds⟩ := builds_of_consumes ⟨e, he, rfl⟩
  rw [(hconsumed.shows_and_opens h id).2 t hbuilds, count_ids hbuilds.lt_size]

end Consumed

/-- The lines below the header, result by result: those of a value, or one for the error. -/
inductive Sections (g : Graph) : List Output → List TreeLine → Prop where
  | nil : Sections g [] []
  | propagated {outputs : List Output} {lines : List TreeLine} (hrest : Sections g outputs lines) :
      Sections g (.error .propagated :: outputs) (⟨1, .propagatedError⟩ :: lines)
  | zero {id : NodeId} {outputs : List Output} {lines : List TreeLine}
      (hrest : Sections g outputs lines) :
      Sections g (.error (.zero id) :: outputs) (⟨1, .nilError⟩ :: lines)
  | value {id : NodeId} {r t : TypeRef} {outputs : List Output} {block lines : List TreeLine}
      (hblock : g.Lists 1 [⟨id, r, t⟩] block) (hrest : Sections g outputs lines) :
      Sections g (.value id r t :: outputs) (block ++ lines)

theorem sections_outputLines (hless : ∀ id child, g.Consumes id child → child < id)
    (hsize : ∀ output ∈ outputs, ∀ id, output.value? = some id → id < g.nodes.size)
    (listed : List NodeId) : g.Sections outputs (g.outputLines outputs listed) := by
  induction outputs generalizing listed with
  | nil => exact .nil
  | cons output rest ih =>
      obtain ⟨hfirst, hrest⟩ := List.forall_mem_cons.mp hsize
      match output with
      | .error .propagated => exact .propagated (ih hrest listed)
      | .error (.zero id) => exact .zero (ih hrest listed)
      | .value id r t =>
          exact .value (prints_nodeLines hless id (hfirst id rfl) 1 listed r t).lists (ih hrest _)

theorem exists_prints_outputLines (hless : ∀ id child, g.Consumes id child → child < id)
    (hsize : ∀ output ∈ outputs, ∀ id, output.value? = some id → id < g.nodes.size)
    (listed : List NodeId) : ∃ last, g.Prints 1 listed (outputs.filterMap Output.usage?)
      (shown (g.outputLines outputs listed)) last := by
  induction outputs generalizing listed with
  | nil => exact ⟨listed, .nil⟩
  | cons output rest ih =>
      obtain ⟨hfirst, hrest⟩ := List.forall_mem_cons.mp hsize
      match output with
      | .error .propagated => exact ih hrest listed
      | .error (.zero id) => exact ih hrest listed
      | .value id r t =>
          have hblock := prints_nodeLines hless id (hfirst id rfl) 1 listed r t
          obtain ⟨last, hprints⟩ := ih hrest (g.nodeLines 1 listed id r t).2
          refine ⟨last, ?_⟩
          rw [outputLines, shown, List.filter_append, ← shown, ← shown, hblock.lists.shown_eq]
          exact hblock.append hprints

/-- Besides the lines that show nodes there is one line for each error. -/
theorem Sections.length_add (h : g.Sections outputs body) :
    body.length + (outputs.filterMap Output.usage?).length =
      (body.filterMap TreeLine.usage?).length + outputs.length := by
  induction h with
  | nil => rfl
  | propagated _ ih | zero _ ih =>
      simp only [List.length_cons, List.filterMap_cons, Output.usage?, TreeLine.usage?,
        TreeEntry.usage?]
      omega
  | @value id r t outputs block lines hblock _ ih =>
      have hall : (block.filterMap TreeLine.usage?).length = block.length := by
        rw [List.length_filterMap_eq_countP, List.countP_eq_length_filter]
        exact congrArg List.length hblock.shown_eq
      simp only [List.length_append, List.filterMap_append, List.filterMap_cons, Output.usage?,
        List.length_cons]
      omega

theorem mem_treeLines_or {line : TreeLine} (h : line ∈ g.treeLines) :
    line ∈ shown (g.outputLines g.outputs []) ∨ line.usage? = none := by
  rcases List.mem_cons.mp h with rfl | hbody
  · exact Or.inr rfl
  · exact mem_shown_or hbody

/-- What the printout of a graph says. -/
structure Printed (g : Graph) (hoist : Bool) : Prop where
  /-- Below a header stand the lines of the results, one after the other. -/
  layout : ∃ body, g.treeLines = ⟨0, .header g.name g.target⟩ :: body ∧ g.Sections g.outputs body
  length : g.treeLines.length = 1 + g.outputs.length + g.edges.length
  /-- Each result and each edge is shown, and nothing else. -/
  usages : (g.treeLines.filterMap TreeLine.usage?).Perm
    (g.outputs.filterMap Output.usage? ++ g.edges.map Edge.usage)
  consumers : ∀ id, g.treeLines.countP (TreeLine.shows id) = g.consumers id
  /-- When hoisting, all lines of a provider node but the first one are tagged as shared. -/
  hoisted : hoist = true → ∀ id t, g.Builds id t →
    sharings id g.treeLines = false :: List.replicate (g.consumers id - 1) true
  copied : hoist = false → ∀ line ∈ g.treeLines, line.isTagged .shared = false
  fallible : ∀ line ∈ g.treeLines, line.isTagged .fallible = true ↔
    ∃ u node, line.usage? = some u ∧ g.nodes[u.node]? = some node ∧ node.isFallible = true
  /-- What a provider node consumes is listed in the order of its inputs. -/
  inputs : ∀ (id : NodeId) t p edges, g.nodes[id]? = some (.provider t p edges) →
    edges.map Edge.position = List.range p.inputs.length
  text : g.print = "\n".intercalate (g.treeLines.map fun line =>
    String.join (List.replicate line.depth "  ") ++
      (line.entry.label ++ String.join (line.entry.tags.map Tag.text)))

theorem print_eq (g : Graph) : g.print = "\n".intercalate (g.treeLines.map fun line =>
    String.join (List.replicate line.depth "  ") ++
      (line.entry.label ++ String.join (line.entry.tags.map Tag.text))) := by
  simp only [print, ← TreeEntry.render_eq]
  rfl

end Graph

namespace Registry

variable {registry : Registry} {request : Request} {g : Graph}

theorem hoist_of_load (h : registry.load request = .ok g) : g.hoist = request.hoist := by
  obtain ⟨-, outputs, s, -, -, rfl⟩ := exists_of_load_ok h
  rfl

/-- Every provider node is consumed. -/
theorem consumed_of_load (h : registry.load request = .ok g) : g.Consumed where
  earlier _ _ := lt_of_consumes h
  positive id t hbuilds := by
    obtain ⟨position, root, r, u, hposition, hreach⟩ := exists_below h hbuilds
    rcases Relation.ReflTransGen.cases_tail hreach with rfl | ⟨parent, -, hconsumes⟩
    · exact Nat.lt_add_left _ (Graph.outputs_pos_of_value hposition)
    · exact Nat.lt_add_right _ (Graph.edgesTo_pos_of_consumes hconsumes)
  single hhoist _ _ hbuilds := consumers_of_builds h (hoist_of_load h ▸ hhoist) hbuilds

theorem lt_size_of_value (h : registry.load request = .ok g) :
    ∀ output ∈ g.outputs, ∀ id, output.value? = some id → id < g.nodes.size := by
  intro output hmem id hvalue
  match output, hvalue with
  | .value id r t, rfl => exact (returned_of_load h hmem).2.lt_size

/-- The printout of the graph of a request shows every use of a node once. -/
theorem printed_of_load (h : registry.load request = .ok g) : g.Printed request.hoist := by
  have hconsumed := consumed_of_load h
  have hsections := Graph.sections_outputLines hconsumed.earlier (lt_size_of_value h) []
  obtain ⟨last, hprints⟩ :=
    Graph.exists_prints_outputLines hconsumed.earlier (lt_size_of_value h) []
  have husages := hconsumed.perm_usages hprints
  rw [filterMap_usage?_shown] at husages
  have hcount : ∀ id, g.treeLines.countP (TreeLine.shows id) = g.consumers id := by
    intro id
    rw [← (hconsumed.shows_and_opens hprints id).1, List.countP_eq_length_filter,
      List.countP_eq_length_filter, filter_shows_shown]
    rfl
  refine
    { layout := ⟨_, rfl, hsections⟩
      length := ?_
      usages := husages
      consumers := hcount
      hoisted := ?_
      copied := ?_
      fallible := ?_
      inputs := fun _ _ _ _ => map_position_of_load h
      text := g.print_eq }
  · have hadd := hsections.length_add
    rw [husages.length_eq, List.length_append, List.length_map] at hadd
    rw [Graph.treeLines, List.length_cons]
    omega
  · intro hhoist id t hbuilds
    have hpos := hconsumed.positive id t hbuilds
    obtain ⟨p, edges, hnode⟩ := hbuilds
    have hsharing := hprints.sharing ((hoist_of_load h).trans hhoist) hnode rfl
    rw [sharings, filter_shows_shown, ← sharings] at hsharing
    rw [← hcount, ← length_sharings] at hpos ⊢
    exact hsharing.eq_cons hpos
  · intro hhoist line hmem
    rcases Graph.mem_treeLines_or hmem with hshown | hnone
    · exact hprints.not_shared (hoist_of_load h ▸ hhoist) line hshown
    · exact isTagged_of_usage?_eq_none hnone .shared
  · intro line hmem
    rcases Graph.mem_treeLines_or hmem with hshown | hnone
    · obtain ⟨u, node, husage, hnode, htag⟩ := hprints.lists.exists_usage line hshown
      rw [htag, husage]
      constructor
      · exact fun hfallible => ⟨u, node, rfl, hnode, hfallible⟩
      · rintro ⟨u', node', heq, hnode', hfallible⟩
        cases heq
        rw [hnode] at hnode'
        cases hnode'
        exact hfallible
    · rw [isTagged_of_usage?_eq_none hnone, hnone]
      simp

end Registry

namespace Sample

theorem printed_graph :
    registry.load request = .ok graph ∧ graph.Printed request.hoist :=
  ⟨load_request, Registry.printed_of_load load_request⟩

/-- The store is written out below the cart. Below the ledger it is tagged as shared. -/
example : graph.treeLines.map (fun line =>
      (line.depth, line.usage?.map Usage.node, line.isTagged .shared)) =
    [(0, none, false), (1, some 2, false), (2, some 1, false), (3, some 0, false),
      (2, some 0, false), (1, none, false), (1, some 3, false), (2, some 1, true)] := by
  cbv

end Sample

end Wiring
