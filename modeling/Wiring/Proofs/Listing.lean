import Wiring.Graph.Tree
import Wiring.Proofs.Structure

/-!
The lines that show what a graph uses. A use of a node is shown on a line of its own, with lines for
the uses of that node one step deeper, unless these were listed before. What is listed and what is
shown is related by counting: each line that stands for its node in full brings in one line for each
edge of the node.
-/

namespace Wiring

/-- A use of a node: the type that its consumer declares, and the type that this comes to. -/
structure Usage where
  node : NodeId
  requested : TypeRef
  resolved : TypeRef
deriving DecidableEq

def Edge.usage (e : Edge) : Usage :=
  ⟨e.node, e.requested, e.resolved⟩

def Output.usage? : Output → Option Usage
  | .value node requested resolved => some ⟨node, requested, resolved⟩
  | .error _ => none

/-- A remark at the end of a line. -/
inductive Tag where
  /-- The provider can fail. -/
  | fallible
  /-- What the node consumes is listed further up. -/
  | shared
deriving DecidableEq

def Tag.text : Tag → String
  | fallible => " (fallible)"
  | shared => " (shared)"

namespace TreeEntry

def usage? : TreeEntry → Option Usage
  | .node id _ requested resolved _ => some ⟨id, requested, resolved⟩
  | .header .. | .propagatedError | .nilError => none

def tags : TreeEntry → List Tag
  | .node _ (.provider _ p _) _ _ shared =>
    (if p.fallible then [.fallible] else []) ++ if shared then [.shared] else []
  | _ => []

/-- The text of an entry up to its tags. -/
def label : TreeEntry → String
  | header name target => name ++ " in \"" ++ target ++ "\""
  | node _ used requested resolved _ =>
    requested.display ++ (if requested = resolved then "" else " => " ++ resolved.display) ++
      match used with
      | .external .. => " (external)"
      | .zeroError => " <- nil"
      | .provider _ p _ => " <- " ++ p.display
  | propagatedError => "error (propagated)"
  | nilError => "error <- nil"

theorem render_eq (entry : TreeEntry) :
    entry.render = entry.label ++ String.join (entry.tags.map Tag.text) := by
  cases entry with
  | header => simp [render, label, tags, String.join]
  | propagatedError => simp [render, label, tags, String.join]
  | nilError => simp [render, label, tags, String.join]
  | node id used requested resolved shared =>
      cases used with
      | external => simp [render, label, tags, String.join]
      | zeroError => simp [render, label, tags, String.join]
      | provider t p edges =>
          cases hfallible : p.fallible <;> cases shared <;>
            simp [render, label, tags, Tag.text, hfallible, String.join, String.append_assoc]

end TreeEntry

namespace TreeLine

/-- The use that a line shows. -/
def usage? (line : TreeLine) : Option Usage :=
  line.entry.usage?

def shows (id : NodeId) (line : TreeLine) : Bool :=
  line.usage?.any fun u => u.node == id

def isTagged (tag : Tag) (line : TreeLine) : Bool :=
  line.entry.tags.contains tag

/-- The node that a line stands for in full. -/
def opened? (line : TreeLine) : Option NodeId :=
  if line.isTagged .shared then none else line.usage?.map Usage.node

end TreeLine

/-- The line for a use of a node. -/
def Usage.line (u : Usage) (depth : Nat) (node : Node) (shared : Bool) : TreeLine :=
  ⟨depth, .node u.node node u.requested u.resolved shared⟩

/-- The nodes that lines stand for in full, in order. -/
def openings (lines : List TreeLine) : List NodeId :=
  lines.filterMap TreeLine.opened?

/-- For each line that shows a node, whether it is tagged as shared. -/
def sharings (id : NodeId) (lines : List TreeLine) : List Bool :=
  (lines.filter (TreeLine.shows id)).map (TreeLine.isTagged .shared)

/-- The lines that show a node. -/
def shown (lines : List TreeLine) : List TreeLine :=
  lines.filter fun line => line.usage?.isSome

section Line

variable {u : Usage} {depth : Nat} {node : Node} {shared : Bool} {id : NodeId}

@[simp] theorem usage?_line : (u.line depth node shared).usage? = some u :=
  rfl

@[simp] theorem shows_line : (u.line depth node shared).shows id = (u.node == id) :=
  rfl

@[simp] theorem isTagged_shared_line :
    (u.line depth node shared).isTagged .shared = (node.isProvider && shared) := by
  cases node with
  | external | zeroError => rfl
  | provider t p edges =>
      cases hfallible : p.fallible <;> cases shared <;>
        simp [TreeLine.isTagged, Usage.line, TreeEntry.tags, Node.isProvider, Node.provider?,
          hfallible]

@[simp] theorem isTagged_fallible_line :
    (u.line depth node shared).isTagged .fallible = node.isFallible := by
  cases node with
  | external | zeroError => rfl
  | provider t p edges =>
      cases hfallible : p.fallible <;> cases shared <;>
        simp [TreeLine.isTagged, Usage.line, TreeEntry.tags, Node.isFallible, Node.provider?,
          hfallible]

end Line

theorem sharings_append (id : NodeId) (lines lines' : List TreeLine) :
    sharings id (lines ++ lines') = sharings id lines ++ sharings id lines' := by
  simp [sharings]

/-- A node is opened once for each of its lines that is not tagged as shared. -/
theorem count_openings (id : NodeId) (lines : List TreeLine) :
    (openings lines).count id = (sharings id lines).count false := by
  simp only [openings, sharings, List.count, List.countP_filterMap, List.countP_map,
    List.countP_filter]
  refine List.countP_congr fun line _ => ?_
  cases hshared : line.isTagged .shared with
  | true => simp [TreeLine.opened?, hshared]
  | false => cases hline : line.usage? <;> simp [TreeLine.opened?, TreeLine.shows, hshared, hline]

theorem length_sharings (id : NodeId) (lines : List TreeLine) :
    (sharings id lines).length = lines.countP (TreeLine.shows id) := by
  rw [sharings, List.length_map, List.countP_eq_length_filter]

theorem isTagged_of_usage?_eq_none {line : TreeLine} (h : line.usage? = none) (tag : Tag) :
    line.isTagged tag = false := by
  obtain ⟨depth, entry⟩ := line
  cases entry with
  | node => cases h
  | header | propagatedError | nilError => rfl

section Shown

variable {lines : List TreeLine} {line : TreeLine}

theorem filterMap_usage?_shown (lines : List TreeLine) :
    (shown lines).filterMap TreeLine.usage? = lines.filterMap TreeLine.usage? := by
  rw [shown, List.filterMap_filter]
  refine List.filterMap_congr fun line _ => ?_
  cases line.usage? <;> simp

theorem filter_shows_shown (id : NodeId) (lines : List TreeLine) :
    (shown lines).filter (TreeLine.shows id) = lines.filter (TreeLine.shows id) := by
  rw [shown, List.filter_filter]
  refine List.filter_congr fun line _ => ?_
  cases hline : line.usage? <;> simp [TreeLine.shows, hline]

theorem mem_shown_or (h : line ∈ lines) : line ∈ shown lines ∨ line.usage? = none := by
  cases husage : line.usage? with
  | none => exact Or.inr rfl
  | some u => exact Or.inl (List.mem_filter.mpr ⟨h, by simp [husage]⟩)

end Shown

/-- The tags of a node that was opened before, or was not: only the first line of all is not
tagged. -/
inductive Sharing : Bool → List Bool → Bool → Prop where
  | nil (opened : Bool) : Sharing opened [] opened
  | cons {opened last : Bool} {rest : List Bool} (h : Sharing true rest last) :
      Sharing opened (opened :: rest) last

namespace Sharing

variable {first mid last : Bool} {tags more : List Bool}

theorem append (h : Sharing first tags mid) (h' : Sharing mid more last) :
    Sharing first (tags ++ more) last := by
  induction h with
  | nil => exact h'
  | cons _ ih => exact .cons (ih h')

theorem eq_replicate (h : Sharing true tags last) : tags = List.replicate tags.length true := by
  generalize hopened : true = opened at h
  induction h with
  | nil => rfl
  | cons _ ih =>
      subst hopened
      rw [List.length_cons, List.replicate_succ, ← ih rfl]

theorem eq_cons (h : Sharing false tags last) (hpos : 0 < tags.length) :
    tags = false :: List.replicate (tags.length - 1) true := by
  cases h with
  | nil => simp at hpos
  | cons hrest => rw [List.length_cons, Nat.add_sub_cancel, ← hrest.eq_replicate]

end Sharing

namespace Graph

variable {g : Graph} {depth : Nat} {listed mid last : List NodeId} {us us' : List Usage}
  {lines lines' : List TreeLine} {id : NodeId}

/-- The lines that show some uses in order. Each use has a line of its own. Below it, one step
deeper, stand the lines of what the node consumes, unless the line is tagged as shared. -/
inductive Lists (g : Graph) : Nat → List Usage → List TreeLine → Prop where
  | nil {depth : Nat} : Lists g depth [] []
  | again {depth : Nat} {u : Usage} {us : List Usage} {lines : List TreeLine} {node : Node}
      (hnode : g.nodes[u.node]? = some node) (hprovider : node.isProvider = true)
      (hrest : Lists g depth us lines) : Lists g depth (u :: us) (u.line depth node true :: lines)
  | whole {depth : Nat} {u : Usage} {us : List Usage} {below lines : List TreeLine} {node : Node}
      (hnode : g.nodes[u.node]? = some node)
      (hbelow : Lists g (depth + 1) ((g.children u.node).map Edge.usage) below)
      (hrest : Lists g depth us lines) :
      Lists g depth (u :: us) (u.line depth node false :: (below ++ lines))

/-- The same with the provider nodes that are listed before and after. When hoisting, a provider
node is listed once. -/
inductive Prints (g : Graph) : Nat → List NodeId → List Usage → List TreeLine → List NodeId →
    Prop where
  | nil {depth : Nat} {listed : List NodeId} : Prints g depth listed [] [] listed
  | again {depth : Nat} {listed last : List NodeId} {u : Usage} {us : List Usage}
      {lines : List TreeLine} {node : Node} (hhoist : g.hoist = true)
      (hnode : g.nodes[u.node]? = some node) (hprovider : node.isProvider = true)
      (hlisted : u.node ∈ listed) (hrest : Prints g depth listed us lines last) :
      Prints g depth listed (u :: us) (u.line depth node true :: lines) last
  | whole {depth : Nat} {listed mid last : List NodeId} {u : Usage} {us : List Usage}
      {below lines : List TreeLine} {node : Node} (hnode : g.nodes[u.node]? = some node)
      (hnew : g.hoist = true → node.isProvider = true → u.node ∉ listed)
      (hbelow : Prints g (depth + 1) (if node.isProvider then u.node :: listed else listed)
        ((g.children u.node).map Edge.usage) below mid)
      (hrest : Prints g depth mid us lines last) :
      Prints g depth listed (u :: us) (u.line depth node false :: (below ++ lines)) last

namespace Prints

theorem append (h : g.Prints depth listed us lines mid) (h' : g.Prints depth mid us' lines' last) :
    g.Prints depth listed (us ++ us') (lines ++ lines') last := by
  induction h with
  | nil => exact h'
  | again hhoist hnode hprovider hlisted _ ih => exact .again hhoist hnode hprovider hlisted (ih h')
  | whole hnode hnew hbelow _ _ ih =>
      rw [List.cons_append, List.cons_append, List.append_assoc]
      exact .whole hnode hnew hbelow (ih h')

theorem lists (h : g.Prints depth listed us lines last) : g.Lists depth us lines := by
  induction h with
  | nil => exact .nil
  | again _ hnode hprovider _ _ ih => exact .again hnode hprovider ih
  | whole hnode _ _ _ ihbelow ih => exact .whole hnode ihbelow ih

/-- Without hoisting nothing is tagged as shared. -/
theorem not_shared (h : g.Prints depth listed us lines last) (hhoist : g.hoist = false) :
    ∀ line ∈ lines, line.isTagged .shared = false := by
  induction h with
  | nil => simp
  | again hhoist' _ _ _ _ _ => simp [hhoist] at hhoist'
  | whole _ _ _ _ ihbelow ih =>
      intro line hmem
      simp only [List.mem_cons, List.mem_append] at hmem
      rcases hmem with rfl | hbelow | hrest
      · simp
      · exact ihbelow line hbelow
      · exact ih line hrest

/-- When hoisting, the lines of a provider node are tagged once it is listed. -/
theorem sharing (h : g.Prints depth listed us lines last) (hhoist : g.hoist = true) {node : Node}
    (hnode : g.nodes[id]? = some node) (hprovider : node.isProvider = true) :
    Sharing (decide (id ∈ listed)) (sharings id lines) (decide (id ∈ last)) := by
  induction h with
  | nil => exact .nil _
  | @again depth listed last u us lines other _ hother hisProvider hlisted _ ih =>
      by_cases hid : u.node = id
      · subst hid
        simp only [hlisted, decide_true] at ih ⊢
        simpa [sharings, hisProvider] using Sharing.cons ih
      · simpa [sharings, hid] using ih
  | @whole depth listed mid last u us below lines other hother hnew _ _ ihbelow ih =>
      by_cases hid : u.node = id
      · subst hid
        rw [hnode] at hother
        cases hother
        have hopens : Sharing true (sharings u.node (below ++ lines)) (decide (u.node ∈ last)) := by
          rw [sharings_append]
          exact Sharing.append (by simpa [hprovider] using ihbelow) ih
        simp only [hnew hhoist hprovider, decide_false]
        simpa [sharings] using Sharing.cons hopens
      · have hlisted :
            (id ∈ if other.isProvider then u.node :: listed else listed) ↔ id ∈ listed := by
          split <;> simp [Ne.symm hid]
        simp only [hlisted] at ihbelow
        simpa [sharings, hid] using ihbelow.append ih

end Prints

namespace Lists

/-- What is shown is what was asked for, and the edges of the nodes that are opened. -/
theorem perm_usages (h : g.Lists depth us lines) : (lines.filterMap TreeLine.usage?).Perm
    (us ++ (openings lines).flatMap fun id => (g.children id).map Edge.usage) := by
  rw [List.perm_iff_count]
  intro a
  induction h with
  | nil => simp [openings]
  | again hnode hprovider _ ih =>
      simp [openings, TreeLine.opened?, hprovider, List.count_cons] at ih ⊢
      omega
  | @whole depth u us below lines node hnode _ _ ihbelow ih =>
      simp [openings, TreeLine.opened?, List.count_cons] at ihbelow ih ⊢
      omega

/-- Every line shows a use of a node of the graph. -/
theorem exists_usage (h : g.Lists depth us lines) : ∀ line ∈ lines, ∃ u node, line.usage? = some u ∧
    g.nodes[u.node]? = some node ∧ line.isTagged .fallible = node.isFallible := by
  induction h with
  | nil => simp
  | again hnode _ _ ih => exact List.forall_mem_cons.mpr ⟨⟨_, _, rfl, hnode, by simp⟩, ih⟩
  | whole hnode _ _ ihbelow ih =>
      exact List.forall_mem_cons.mpr
        ⟨⟨_, _, rfl, hnode, by simp⟩, List.forall_mem_append.mpr ⟨ihbelow, ih⟩⟩

theorem shown_eq (h : g.Lists depth us lines) :
    shown lines = lines := by
  refine List.filter_eq_self.mpr fun line hmem => ?_
  obtain ⟨u, node, husage, -⟩ := h.exists_usage line hmem
  simp [husage]

end Lists

/-- Uses are printed one after the other, each with the nodes that those before it have listed. -/
theorem exists_prints_foldl {edges : List Edge}
    {add : List TreeLine × List NodeId → Edge → List TreeLine × List NodeId}
    (hadd : ∀ e ∈ edges, ∀ lines listed, ∃ below last,
      add (lines, listed) e = (lines ++ below, last) ∧ g.Prints depth listed [e.usage] below last)
    (lines : List TreeLine) (listed : List NodeId) :
    ∃ below last, edges.foldl add (lines, listed) = (lines ++ below, last) ∧
      g.Prints depth listed (edges.map Edge.usage) below last := by
  induction edges generalizing lines listed with
  | nil => exact ⟨[], listed, by simp, .nil⟩
  | cons e rest ih =>
      obtain ⟨hfirst, hrest⟩ := List.forall_mem_cons.mp hadd
      obtain ⟨first, mid, heq, hprints⟩ := hfirst lines listed
      obtain ⟨below, last, heqs, hprintsRest⟩ := ih hrest (lines ++ first) mid
      refine ⟨first ++ below, last, ?_, hprints.append hprintsRest⟩
      rw [List.foldl_cons, heq, heqs, List.append_assoc]

theorem prints_foldl {u : Usage} {node : Node}
    {add : List TreeLine × List NodeId → Edge → List TreeLine × List NodeId}
    (hnode : g.nodes[u.node]? = some node)
    (hnew : g.hoist = true → node.isProvider = true → u.node ∉ listed)
    (hadd : ∀ e ∈ g.children u.node, ∀ lines listed, ∃ below last,
      add (lines, listed) e = (lines ++ below, last) ∧
        g.Prints (depth + 1) listed [e.usage] below last) :
    g.Prints depth listed [u]
      ((g.children u.node).foldl add
        ([u.line depth node false], if node.isProvider then u.node :: listed else listed)).1
      ((g.children u.node).foldl add
        ([u.line depth node false], if node.isProvider then u.node :: listed else listed)).2 := by
  obtain ⟨below, last, heq, hprints⟩ := exists_prints_foldl hadd [u.line depth node false]
    (if node.isProvider then u.node :: listed else listed)
  have hwhole := Prints.whole hnode hnew hprints .nil
  rw [List.append_nil] at hwhole
  rwa [heq]

/-- The lines of a node in a graph whose edges lead to earlier nodes. No edge is left out. -/
theorem prints_nodeLines (hless : ∀ id child, g.Consumes id child → child < id) (id : NodeId)
    (hsize : id < g.nodes.size) (depth : Nat) (listed : List NodeId) (r t : TypeRef) :
    g.Prints depth listed [⟨id, r, t⟩] (g.nodeLines depth listed id r t).1
      (g.nodeLines depth listed id r t).2 := by
  induction id using Nat.strongRecOn generalizing depth listed r t with
  | _ id ih =>
      obtain ⟨node, hnode⟩ : ∃ node, g.nodes[id]? = some node :=
        ⟨_, Array.getElem?_eq_getElem hsize⟩
      unfold nodeLines
      simp only [hnode]
      split
      case isTrue hshared =>
        simp only [Bool.and_eq_true, List.contains_iff_mem] at hshared
        obtain ⟨⟨hhoist, hprovider⟩, hlisted⟩ := hshared
        rw [hhoist, hprovider, List.contains_iff_mem.mpr hlisted]
        exact .again hhoist hnode hprovider hlisted .nil
      case isFalse hwhole =>
        have hunshared : (g.hoist && node.isProvider && listed.contains id) = false :=
          Bool.not_eq_true _ ▸ hwhole
        have hnew : g.hoist = true → node.isProvider = true → id ∉ listed := by
          intro hhoist hprovider hlisted
          simp [hhoist, hprovider, hlisted] at hunshared
        -- The printout follows an edge only to an earlier node, which is where all of them lead.
        have hedge : ∀ e ∈ g.children id, e.node < id := fun e he => hless id e.node ⟨e, he, rfl⟩
        rw [hunshared]
        refine prints_foldl (u := ⟨id, r, t⟩) hnode hnew fun e he lines listed => ?_
        exact ⟨_, _, if_pos (hedge e he), ih e.node (hedge e he)
          (Nat.lt_trans (hedge e he) hsize) (depth + 1) listed e.requested e.resolved⟩

end Graph

end Wiring
