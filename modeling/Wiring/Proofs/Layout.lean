import Mathlib.Data.List.Basic
import Wiring.Proofs.Replay

/-!
The shape of the order of a graph. The walk over the outputs comes by the nodes in the order in
which they were made; only the nil error, which is made last, stands where the walk meets it among
the outputs.
-/

namespace Wiring

namespace Walk

variable {w : Walk} {n : Nat}

theorem Passed.at (h : Walk.start.Passed w 0 n) (b : Nat) : w.At n b := by
  intro i _
  rw [h.visited]
  constructor
  · rintro (hold | ⟨-, hlt⟩)
    · simp [Walk.start] at hold
    · exact hlt
  · intro hlt
    exact Or.inr ⟨Nat.zero_le i, hlt⟩

theorem Passed.order_start (h : Walk.start.Passed w 0 n) : w.order = List.range n := by
  rw [h.order, Nat.sub_zero, ← List.range_eq_range']
  rfl

theorem passed_params (n : Nat) :
    Walk.start.Passed ((List.range n).foldl Walk.addParam .start) 0 n := by
  induction n with
  | zero => exact Walk.start.passed_refl 0
  | succ n ih =>
      have hnew : n ∉ ((List.range n).foldl Walk.addParam .start).visited := by
        rw [ih.at (n + 1) n (Nat.lt_succ_self n)]
        exact Nat.lt_irrefl n
      rw [List.range_succ, List.foldl_append, List.foldl_cons, List.foldl_nil, Walk.addParam,
        if_neg hnew]
      exact ih.trans ((passed_refl _ n).emit (Nat.le_refl n)) (Nat.zero_le n) (Nat.le_succ n)

/-- Expanding a node that consumes nothing puts just this one in order. -/
theorem passed_leaf {g : Graph} {id : Nat} (hnew : id ∉ w.visited) (hleaf : g.children id = []) :
    w.Passed (g.work w [.expand id]) id (id + 1) := by
  rw [Graph.work_expand hnew, hleaf, List.map_nil, List.map_nil, Graph.work_nil]
  exact (passed_refl _ id).emit (Nat.le_refl id)

end Walk

namespace Graph

variable {g : Graph} {start mid last : Array Node} {ids first second : List NodeId}

theorem range_append_range' {m n : Nat} (h : m ≤ n) :
    List.range m ++ List.range' m (n - m) = List.range n := by
  have happend : List.range' 0 m ++ List.range' (0 + m) (n - m) = List.range' 0 (m + (n - m)) :=
    List.range'_append_1
  rw [Nat.zero_add, Nat.add_sub_cancel' h] at happend
  rw [List.range_eq_range', List.range_eq_range', happend]

theorem foldl_work (g : Graph) (w : Walk) (ids : List NodeId) :
    ids.foldl (fun w id => g.work w [.expand id]) w = g.work w (ids.map .expand) := by
  induction ids generalizing w with
  | nil => rw [List.foldl_nil, List.map_nil, work_nil]
  | cons id ids ih =>
      rw [List.foldl_cons, ih]
      exact (g.work_map_append w [id] ids).symm

/-- The order of a graph is that of a walk which has passed the parameters before it expands what
the outputs name. -/
theorem exists_walk {n : Nat} (hparams : g.params = List.range n) :
    ∃ w, Walk.start.Passed w 0 n ∧
      g.order = (g.work w ((g.outputs.filterMap Output.root?).map .expand)).order := by
  refine ⟨_, Walk.passed_params n, ?_⟩
  simp only [order, foldl_work, hparams]

/-- Without a nil error the order is the one in which the nodes were made. -/
theorem order_of_replays (h : Replays start last ids) (hnodes : g.nodes = last)
    (hparams : g.params = List.range start.size)
    (hroots : g.outputs.filterMap Output.root? = ids) : g.order = List.range last.size := by
  obtain ⟨w, hstart, horder⟩ := exists_walk hparams
  have hgrows : last.toList <+: g.nodes.toList := hnodes ▸ List.prefix_refl _
  have hpassed := h.passed g w hgrows (hstart.at last.size)
  rw [horder, hroots]
  exact (hstart.trans hpassed (Nat.zero_le _) h.size_le).order_start

/-- A nil error, made last, stands in the order where the walk over the outputs meets it. -/
theorem order_of_replays_zero (h : Replays start mid first) (h' : Replays mid last second)
    (hnodes : g.nodes = last.push .zeroError) (hparams : g.params = List.range start.size)
    (hroots : g.outputs.filterMap Output.root? = first ++ [last.size] ++ second) :
    g.order = List.range mid.size ++ [last.size] ++
      List.range' mid.size (last.size - mid.size) := by
  obtain ⟨w, hstart, horder⟩ := exists_walk hparams
  have hpushed : (last.push .zeroError).toList <+: g.nodes.toList := by simp [hnodes]
  obtain ⟨hlast, hzero⟩ := Replays.of_push_grown hpushed
  have hpassed := h.passed g w (h'.grows.trans hlast) (hstart.at mid.size)
  have hearly := hstart.trans hpassed (Nat.zero_le _) h.size_le
  have hnew : last.size ∉ (g.work w (first.map .expand)).visited := by
    rw [hearly.at (last.size + 1) last.size (Nat.lt_succ_self _)]
    exact Nat.not_lt_of_le h'.size_le
  have hnil := Walk.passed_leaf hnew (children_eq hzero .nil)
  have hat : (g.work (g.work w (first.map .expand)) [.expand last.size]).At mid.size
      last.size := by
    intro i hi
    rw [hnil.visited, hearly.at last.size i hi]
    exact or_iff_left fun hle => Nat.not_le_of_lt hi hle.1
  have hrest := h'.passed g _ hlast hat
  have hone : last.size + 1 - last.size = 1 := by omega
  rw [horder, hroots, work_map_append, work_map_append, List.map_cons, List.map_nil, hrest.order]
  have hmiddle := hnil.order
  rw [hearly.order_start, hone, List.range'_one] at hmiddle
  exact congrArg (· ++ _) hmiddle

/-- A node is consumed by what some outputs name, directly or not. -/
def Needed (g : Graph) (outputs : List Output) (id : NodeId) : Prop :=
  ∃ output ∈ outputs, ∃ root, output.root? = some root ∧ Relation.ReflTransGen g.Consumes root id

theorem Needed.mono {outputs more : List Output} {id : NodeId} (h : g.Needed outputs id)
    (hsub : ∀ output ∈ outputs, output ∈ more) : g.Needed more id := by
  obtain ⟨output, hmem, hneeded⟩ := h
  exact ⟨output, hsub output hmem, hneeded⟩

theorem needed_of_reached {outputs : List Output} {id : NodeId}
    (h : ∃ root ∈ outputs.filterMap Output.root?, Relation.ReflTransGen g.Consumes root id) :
    g.Needed outputs id := by
  obtain ⟨root, hroot, hreach⟩ := h
  obtain ⟨output, hmem, hname⟩ := List.mem_filterMap.mp hroot
  exact ⟨output, hmem, root, hname, hreach⟩

/-- The nodes of a graph in the order in which they were made: those of the `n` parameters, those
made for the outputs before the nil error, those made for the outputs after it, and last the nil
error, if there is one. -/
structure Layout (g : Graph) (n m built : Nat) (before slot after : List Output) : Prop where
  params : g.params = List.range n
  low : n ≤ m
  high : m ≤ built
  outputs : g.outputs = before ++ slot ++ after
  others : ∀ output ∈ before ++ after, ∀ z, output ≠ .error (.zero z)
  nilError : slot = [] ∨ slot = [.error (.zero built)]
  size : g.nodes.size = built + slot.length
  zero : ∀ id, g.nodes[id]? = some .zeroError ↔ .error (.zero id) ∈ slot
  order : g.order = List.range m ++ slot.filterMap Output.root? ++ List.range' m (built - m)
  named : ∀ id ∈ before.filterMap Output.root?, id < m
  first : ∀ id, n ≤ id → id < m → g.Needed before id
  second : ∀ id, m ≤ id → id < built → g.Needed after id

/-- A graph whose nodes are made in two parts has its order laid out in two parts. -/
theorem layout_of_replays {before slot after : List Output}
    (h : Replays start mid (before.filterMap Output.root?))
    (h' : Replays mid last (after.filterMap Output.root?))
    (hothers : ∀ output ∈ before ++ after, ∀ z, output ≠ .error (.zero z))
    (hlast : ∀ id : NodeId, last[id]? ≠ some .zeroError)
    (hparams : g.params = List.range start.size) (houtputs : g.outputs = before ++ slot ++ after)
    (hslot : slot = [] ∧ g.nodes = last ∨
      slot = [.error (.zero last.size)] ∧ g.nodes = last.push .zeroError) :
    g.Layout start.size mid.size last.size before slot after := by
  have hroots : g.outputs.filterMap Output.root? = before.filterMap Output.root? ++
      slot.filterMap Output.root? ++ after.filterMap Output.root? := by
    rw [houtputs, List.filterMap_append, List.filterMap_append]
  have hgrows : last.toList <+: g.nodes.toList := by
    rcases hslot with ⟨-, hnodes⟩ | ⟨-, hnodes⟩ <;> simp [hnodes]
  have horder : g.order = List.range mid.size ++ slot.filterMap Output.root? ++
      List.range' mid.size (last.size - mid.size) := by
    rcases hslot with ⟨rfl, hnodes⟩ | ⟨rfl, hnodes⟩
    · rw [List.filterMap_nil, List.append_nil] at hroots ⊢
      rw [range_append_range' h'.size_le]
      exact order_of_replays (h.append h') hnodes hparams hroots
    · exact order_of_replays_zero h h' hnodes hparams hroots
  refine
    { params := hparams
      low := h.size_le
      high := h'.size_le
      outputs := houtputs
      others := hothers
      nilError := hslot.imp And.left And.left
      size := ?_
      zero := fun id => ?_
      order := horder
      named := h.bound
      first := fun id hle hlt => needed_of_reached (h.reached g id (h'.grows.trans hgrows) hle hlt)
      second := fun id hle hlt => needed_of_reached (h'.reached g id hgrows hle hlt) }
  · rcases hslot with ⟨rfl, hnodes⟩ | ⟨rfl, hnodes⟩ <;> simp [hnodes]
  · rcases hslot with ⟨rfl, hnodes⟩ | ⟨rfl, hnodes⟩
    · rw [hnodes]
      exact iff_of_false (hlast id) (by simp)
    · rw [hnodes, Array.getElem?_push]
      split
      case isTrue heq => simp [heq]
      case isFalse hne => exact iff_of_false (hlast id) (by simp [hne])

/-- One node stands before another one in the order. -/
def Precedes (g : Graph) (id later : NodeId) : Prop :=
  [id, later].Sublist g.order

theorem pair_sublist {α : Type} {a b : α} {first second : List α} (ha : a ∈ first)
    (hb : b ∈ second) : [a, b].Sublist (first ++ second) :=
  (List.singleton_sublist.mpr ha).append (List.singleton_sublist.mpr hb)

namespace Layout

variable {g : Graph} {n m built : Nat} {before slot after : List Output}

theorem ids_eq (h : g.Layout n m built before slot after) :
    g.ids = List.range built ++ slot.filterMap Output.root? := by
  rw [ids, h.size]
  rcases h.nilError with hslot | hslot
  · rw [hslot]
    simp
  · rw [hslot]
    exact List.range_succ

theorem sublist (h : g.Layout n m built before slot after) :
    (List.range built).Sublist g.order := by
  rw [h.order, ← range_append_range' h.high]
  exact (List.sublist_append_left _ _).append (List.Sublist.refl _)

theorem complete (h : g.Layout n m built before slot after) : g.order.Perm g.ids := by
  rw [h.order, h.ids_eq, ← range_append_range' h.high, List.append_assoc, List.append_assoc]
  exact List.perm_append_comm.append_left _

theorem prefix_order (h : g.Layout n m built before slot after) : g.params <+: g.order := by
  rw [h.params, h.order, ← range_append_range' h.low, List.append_assoc, List.append_assoc]
  exact List.prefix_append _ _

theorem zero_of_mem_slot (h : g.Layout n m built before slot after) {id : NodeId}
    (hid : id ∈ slot.filterMap Output.root?) : g.nodes[id]? = some .zeroError := by
  obtain ⟨output, hmem, hroot⟩ := List.mem_filterMap.mp hid
  rcases h.nilError with hslot | hslot
  · rw [hslot] at hmem
    cases hmem
  · rw [hslot, List.mem_singleton] at hmem
    rw [hmem] at hroot
    cases hroot
    exact (h.zero built).mpr (by simp [hslot])

/-- Every node but the nil error was made before it. -/
theorem lt_built (h : g.Layout n m built before slot after) {id : NodeId} {node : Node}
    (hnode : g.nodes[id]? = some node) (hzero : node ≠ .zeroError) : id < built := by
  have hmem : id ∈ g.ids := List.mem_range.mpr (Array.getElem?_eq_some_iff.mp hnode).1
  rw [h.ids_eq, List.mem_append, List.mem_range] at hmem
  rcases hmem with hlt | hslot
  · exact hlt
  · rw [h.zero_of_mem_slot hslot] at hnode
    cases hnode
    exact absurd rfl hzero

theorem children (h : g.Layout n m built before slot after) {id child : NodeId}
    (hless : child < id) (hconsumes : g.Consumes id child) : g.Precedes child id := by
  obtain ⟨e, he, -⟩ := hconsumes
  have hid : id < built := by
    cases hnode : g.nodes[id]? with
    | none => simp [Graph.children, outgoing, hnode] at he
    | some node =>
        refine h.lt_built hnode ?_
        rintro rfl
        rw [mem_children_iff hnode] at he
        cases he
  have hpair : [child, id].Sublist (List.range built) := by
    rw [← range_append_range' (Nat.le_of_lt hid)]
    refine pair_sublist (List.mem_range.mpr hless) (List.mem_range'_1.mpr ⟨Nat.le_refl id, ?_⟩)
    rwa [Nat.add_sub_cancel' (Nat.le_of_lt hid)]
  exact hpair.trans h.sublist

theorem creation (h : g.Layout n m built before slot after) :
    (g.order.filter fun id => g.nodes[id]? ≠ some .zeroError) =
      g.ids.filter fun id => g.nodes[id]? ≠ some .zeroError := by
  have hslot : ((slot.filterMap Output.root?).filter fun id =>
      g.nodes[id]? ≠ some .zeroError) = [] := by
    rw [List.filter_eq_nil_iff]
    intro id hid
    simp [h.zero_of_mem_slot hid]
  rw [h.order, h.ids_eq, ← range_append_range' h.high, List.filter_append, List.filter_append,
    List.filter_append, List.filter_append, hslot, List.append_nil, List.append_nil]

/-- The provider nodes stand in the order in which they were made. -/
theorem providers (h : g.Layout n m built before slot after) :
    g.providers = g.ids.filter fun id => g.nodes[id]?.any Node.isProvider := by
  have hfilter : ∀ ids : List NodeId,
      ((ids.filter fun id => g.nodes[id]? ≠ some .zeroError).filter
        fun id => g.nodes[id]?.any Node.isProvider) =
      ids.filter fun id => g.nodes[id]?.any Node.isProvider := by
    intro ids
    rw [List.filter_filter]
    refine List.filter_congr fun id _ => ?_
    cases g.nodes[id]? with
    | none => rfl
    | some node => cases node <;> rfl
  rw [Graph.providers, ← hfilter g.order, h.creation, hfilter g.ids]

/-- A graph has its nil error where the layout has it. -/
theorem split (h : g.Layout n m built before slot after) {before' after' : List Output}
    {z : NodeId} (houtputs : g.outputs = before' ++ .error (.zero z) :: after') :
    slot = [.error (.zero z)] ∧ before' = before ∧ z = built ∧ after' = after := by
  rcases h.nilError with hnil | hnil
  · rw [h.outputs, hnil, List.append_nil] at houtputs
    exact absurd rfl (h.others (.error (.zero z)) (by simp [houtputs]) z)
  · rw [h.outputs, hnil, List.append_assoc] at houtputs
    have hbefore : .error (.zero z) ∉ before := fun hmem =>
      h.others _ (List.mem_append_left _ hmem) z rfl
    have hafter : .error (.zero z) ∉ after := fun hmem =>
      h.others _ (List.mem_append_right _ hmem) z rfl
    obtain ⟨rfl, heq, rfl⟩ := (List.append_cons_inj_of_notMem hbefore hafter).mp houtputs
    cases heq
    exact ⟨hnil, rfl, rfl, rfl⟩

/-- What the outputs before the nil error need stands before it. -/
theorem nil_after (h : g.Layout n m built before [.error (.zero built)] after)
    (hless : ∀ id child, g.Consumes id child → child < id) {id : NodeId}
    (hneeded : g.Needed before id) : g.Precedes id built := by
  obtain ⟨output, hmem, root, hroot, hreach⟩ := hneeded
  have hle : id ≤ root := by
    clear hroot
    induction hreach with
    | refl => exact Nat.le_refl _
    | tail _ hstep ih => exact Nat.le_trans (Nat.le_of_lt (hless _ _ hstep)) ih
  have hlow : id < m :=
    Nat.lt_of_le_of_lt hle (h.named root (List.mem_filterMap.mpr ⟨output, hmem, hroot⟩))
  rw [Precedes, h.order]
  exact (pair_sublist (List.mem_range.mpr hlow) (List.mem_singleton_self built)).trans
    (List.sublist_append_left _ _)

/-- What was made for the outputs after the nil error stands after it. -/
theorem nil_before (h : g.Layout n m built before [.error (.zero built)] after) {id : NodeId}
    (hlow : m ≤ id) (hhigh : id < built) : g.Precedes built id := by
  have hid : id ∈ List.range' m (built - m) := by
    rw [List.mem_range'_1, Nat.add_sub_cancel' h.high]
    exact ⟨hlow, hhigh⟩
  rw [Precedes, h.order]
  exact pair_sublist (List.mem_append_right _ (List.mem_singleton_self built)) hid

theorem reached (h : g.Layout n m built before slot after) {id : NodeId} (hid : id ∈ g.ids) :
    id ∈ g.params ∨ g.Needed g.outputs id := by
  rw [h.ids_eq, List.mem_append, List.mem_range] at hid
  rw [h.params, h.outputs, List.mem_range]
  rcases hid with hlt | hslot
  · rcases Nat.lt_or_ge id n with hparam | hge
    · exact Or.inl hparam
    · rcases Nat.lt_or_ge id m with hlow | hhigh
      · exact Or.inr ((h.first id hge hlow).mono (by simp +contextual))
      · exact Or.inr ((h.second id hhigh hlt).mono (by simp +contextual))
  · obtain ⟨output, hmem, hroot⟩ := List.mem_filterMap.mp hslot
    exact Or.inr ⟨output, by simp [hmem], id, hroot, .refl⟩

end Layout

end Graph

end Wiring
