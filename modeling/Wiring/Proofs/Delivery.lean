import Wiring.Proofs.Expansion
import Wiring.Proofs.Run

/-!
What a run that ends well delivers. A node that is marked as resolved stands for the expansion of
its type, and the parameters and failures below it are accounted for; that is why it can be used
again. Every run keeps this, whether nodes are used again or not.
-/

namespace Wiring

open Scope

namespace Resolution

variable {scope : Scope} {path path' : List TypeRef}

/-- A node is what its type expands to, and the state accounts for all that it is built from. -/
structure Settled (s : Resolution scope path) (t : TypeRef) (id : NodeId) : Prop where
  comesTo : scope.aliases.resolve t = .ok t
  ext : scope.external? t = none
  resolvable : scope.Resolvable t
  bound : id < s.nodes.size
  tree : scope.expand [] t = .ok (t, unfold s.nodes id)
  used : ∀ i, scope.Feeds i t → i ∈ s.used
  fallible : scope.Fails t → s.fallible = true

/-- What holds of every state that a resolution reaches: the nodes of the parameters come first, and
every node marked as resolved is settled. -/
structure Sound (s : Resolution scope path) : Prop where
  params : (start scope).nodes.toList <+: s.nodes.toList
  settled : ∀ b id, s.marks[b]? = some (.resolved id) → ∃ t, t.base = b ∧ s.Settled t id

/-- A later state has all nodes of an earlier one, and accounts for all that it accounts for. -/
structure Grows (s : Resolution scope path) (s' : Resolution scope path') : Prop where
  nodes : s.nodes.toList <+: s'.nodes.toList
  used : ∀ i ∈ s.used, i ∈ s'.used
  fallible : s.fallible = true → s'.fallible = true

theorem Grows.size_le {s : Resolution scope path} {s' : Resolution scope path'} (h : Grows s s') :
    s.nodes.size ≤ s'.nodes.size := by
  simpa using h.nodes.length_le

theorem Settled.grows {s : Resolution scope path} {s' : Resolution scope path'} {t : TypeRef}
    {id : NodeId} (h : s.Settled t id) (hgrows : Grows s s') : s'.Settled t id where
  comesTo := h.comesTo
  ext := h.ext
  resolvable := h.resolvable
  bound := Nat.lt_of_lt_of_le h.bound hgrows.size_le
  tree := by rw [unfold_of_grown hgrows.nodes h.bound, h.tree]
  used i hfeeds := hgrows.used i (h.used i hfeeds)
  fallible hfails := hgrows.fallible (h.fallible hfails)

theorem sound_start (scope : Scope) : (start scope).Sound where
  params := List.prefix_refl _
  settled := by
    intro b id hmark
    simp [start] at hmark

theorem mem_used_use {s : Resolution scope path} {id i : NodeId} :
    i ∈ (s.use id).used ↔ i = id ∨ i ∈ s.used := by
  rw [use, Std.ExtTreeSet.mem_insert, Std.LawfulEqOrd.compare_eq_iff_eq, eq_comm]

theorem Sound.use {s : Resolution scope path} (h : s.Sound) (id : NodeId) : (s.use id).Sound where
  params := h.params
  settled := by
    intro b node hmark
    obtain ⟨t, hbase, hsettled⟩ := h.settled b node hmark
    have hgrows : Grows s (s.use id) :=
      ⟨List.prefix_refl _, fun i hi => mem_used_use.mpr (Or.inr hi), fun hf => hf⟩
    exact ⟨t, hbase, hsettled.grows hgrows⟩

theorem Sound.enter {s : Resolution scope path} (h : s.Sound) (t : TypeRef)
    (lookup : Lookup scope.registry) : (s.enter t lookup).Sound where
  params := h.params
  settled := by
    intro b id hmark
    rw [Resolution.enter, Std.ExtTreeMap.getElem?_insert] at hmark
    split at hmark
    · cases hmark
    · obtain ⟨u, hbase, hsettled⟩ := h.settled b id hmark
      have hgrows : Grows s (s.enter t lookup) := ⟨List.prefix_refl _, fun _ hi => hi, fun hf => hf⟩
      exact ⟨u, hbase, hsettled.grows hgrows⟩

theorem grows_leave {t : TypeRef} {s : Resolution scope (path ++ [t])}
    (hnew : t.base ∉ path.map TypeRef.base) (p : Provider) (edges : List Edge) :
    Grows s (s.leave hnew p edges) where
  nodes := by simp [leave]
  used _ hi := hi
  fallible hf := by simp [leave, hf]

theorem Sound.leave {t : TypeRef} {s : Resolution scope (path ++ [t])} (h : s.Sound)
    (hnew : t.base ∉ path.map TypeRef.base) (p : Provider) (edges : List Edge)
    (hsettled : (s.leave hnew p edges).Settled t s.nodes.size) :
    (s.leave hnew p edges).Sound where
  params := h.params.trans (grows_leave hnew p edges).nodes
  settled := by
    intro b id hmark
    rw [Resolution.leave, Std.ExtTreeMap.getElem?_insert] at hmark
    split at hmark
    · rename_i heq
      cases hmark
      exact ⟨t, Std.LawfulEqOrd.compare_eq_iff_eq.mp heq, hsettled⟩
    · obtain ⟨u, hbase, hold⟩ := h.settled b id hmark
      exact ⟨u, hbase, hold.grows (grows_leave hnew p edges)⟩

/-- A parameter that supplies a type has a node of its own, from the start on. -/
theorem start_getElem? {t : TypeRef} {id : NodeId} (hext : scope.external? t = some id) :
    ∃ u, (start scope).nodes[id]? = some (.external u id) := by
  obtain ⟨u, hu, -⟩ := exists_param_of_external hext
  exact ⟨u, by simp [start, hu]⟩

theorem reusable?_eq_some {s : Resolution scope path} {hoist : Bool} {t : TypeRef} {id : NodeId}
    (h : s.reusable? hoist t = some id) : s.marks[t.base]? = some (.resolved id) := by
  unfold reusable? at h
  split at h
  case h_1 id' hmark =>
    cases h
    exact hmark
  case h_2 => cases h

end Resolution

namespace Scope

variable {scope : Scope} {path : List TypeRef}

open Resolution

/-- What a run delivers for a requested type. -/
structure Delivers (s : Resolution scope path) (r : TypeRef) (supply : Supply)
    (s' : Resolution scope path) : Prop where
  nodes : s.nodes.toList <+: s'.nodes.toList
  sound : s'.Sound
  comesTo : scope.aliases.resolve r = .ok supply.type
  resolvable : scope.Resolvable r
  bound : supply.node < s'.nodes.size
  tree : scope.expand [] r = .ok (supply.type, unfold s'.nodes supply.node)
  used : ∀ i, i ∈ s'.used ↔ i ∈ s.used ∨ scope.Feeds i r
  fallible : s'.fallible = true ↔ s.fallible = true ∨ scope.Fails r

/-- What a run delivers for the inputs of a provider. -/
structure DeliversAll (s : Resolution scope path) (inputs : List Input) (position : Nat)
    (edges : List Edge) (s' : Resolution scope path) : Prop where
  nodes : s.nodes.toList <+: s'.nodes.toList
  sound : s'.Sound
  resolvable : ∀ input ∈ inputs, scope.Resolvable input.type
  bound : ∀ e ∈ edges, e.node < s'.nodes.size
  trees : expandInputs (scope.expand []) inputs position =
    .ok (edges.map fun e => (⟨e.position, e.requested, e.resolved⟩, unfold s'.nodes e.node))
  used : ∀ i, i ∈ s'.used ↔ i ∈ s.used ∨ ∃ input ∈ inputs, scope.Feeds i input.type
  fallible : s'.fallible = true ↔ s.fallible = true ∨ ∃ input ∈ inputs, scope.Fails input.type

theorem delivers_external {s : Resolution scope path} {r t : TypeRef} {id : NodeId}
    (hsound : s.Sound) (halias : scope.aliases.resolve r = .ok t)
    (hext : scope.external? t = some id) : Delivers s r ⟨id, t⟩ (s.use id) := by
  obtain ⟨u, hstart⟩ := start_getElem? hext
  have hbound : id < (start scope).nodes.size := by
    obtain ⟨hlt, -⟩ := Array.getElem?_eq_some_iff.mp hstart
    exact hlt
  have hnode : s.nodes[id]? = some (.external u id) := by
    rw [getElem?_eq_of_grown hsound.params hbound, hstart]
  obtain ⟨v, hv, hbase⟩ := exists_param_of_external hext
  refine
    { nodes := List.prefix_refl _
      sound := hsound.use id
      comesTo := halias
      resolvable := .param halias (List.mem_of_getElem? hv) hbase
      bound := ?_
      tree := ?_
      used := ?_
      fallible := ?_ }
  · have hle : (start scope).nodes.size ≤ s.nodes.size := by simpa using hsound.params.length_le
    exact Nat.lt_of_lt_of_le hbound hle
  · rw [expand_of_external halias hext]
    simp only [use, unfold_external hnode]
  · intro i
    rw [mem_used_use, feeds_iff_of_external halias hext, or_comm]
  · simp [use, not_fails_of_external halias hext]

theorem delivers_reused {hoist : Bool} {s : Resolution scope path} {r t : TypeRef} {id : NodeId}
    (hsound : s.Sound) (halias : scope.aliases.resolve r = .ok t)
    (hreuse : s.reusable? hoist t = some id) : Delivers s r ⟨id, t⟩ s := by
  obtain ⟨u, hbase, hsettled⟩ := hsound.settled _ _ (reusable?_eq_some hreuse)
  obtain ⟨hres, htree⟩ :=
    hsettled.resolvable.expand_congr hsettled.comesTo halias hbase hsettled.ext hsettled.tree
  obtain ⟨p, hfind⟩ : ∃ p, scope.registry.find u = .ok p := by
    cases hsettled.resolvable with
    | @param _ v w hv hparam hw =>
        rw [hsettled.comesTo] at hv
        cases hv
        exact absurd hw (external?_eq_none_iff.mp hsettled.ext w hparam)
    | @provider _ v p hv hfind hinputs =>
        rw [hsettled.comesTo] at hv
        cases hv
        exact ⟨p, hfind⟩
  refine
    { nodes := List.prefix_refl _
      sound := hsound
      comesTo := halias
      resolvable := hres
      bound := hsettled.bound
      tree := htree
      used := ?_
      fallible := ?_ }
  · intro i
    have hfeeds : scope.Feeds i r → i ∈ s.used := fun h =>
      hsettled.used i ((feeds_congr hsettled.comesTo halias hbase hsettled.ext hfind).mpr h)
    exact ⟨Or.inl, fun h => h.elim (fun hi => hi) hfeeds⟩
  · have hfails : scope.Fails r → s.fallible = true := fun h =>
      hsettled.fallible ((fails_congr hsettled.comesTo halias hbase hsettled.ext hfind).mpr h)
    exact ⟨Or.inl, fun h => h.elim (fun hf => hf) hfails⟩

/-- Inputs that are each delivered are delivered together. -/
theorem deliversAll_of_gathered {s s' : Resolution scope path} {inputs : List Input}
    {position : Nat} {edges : List Edge}
    (h : Gathered (fun s r supply s' => s.Sound → Delivers s r supply s') inputs position s edges s')
    (hsound : s.Sound) : DeliversAll s inputs position edges s' := by
  induction h with
  | nil => exact ⟨List.prefix_refl _, hsound, by simp, by simp, rfl, by simp, by simp⟩
  | @cons input inputs position s mid s' supply edges hfirst _ ih =>
      have hone := hfirst hsound
      have hall := ih hone.sound
      refine
        { nodes := hone.nodes.trans hall.nodes
          sound := hall.sound
          resolvable := ?_
          bound := ?_
          trees := ?_
          used := ?_
          fallible := ?_ }
      · intro i hi
        rcases List.mem_cons.mp hi with rfl | hi
        · exact hone.resolvable
        · exact hall.resolvable i hi
      · intro e he
        rcases List.mem_cons.mp he with rfl | he
        · exact Nat.lt_of_lt_of_le hone.bound (by simpa using hall.nodes.length_le)
        · exact hall.bound e he
      · simp only [expandInputs, hone.tree, hall.trees, bind, Except.bind, List.map_cons,
          unfold_of_grown hall.nodes hone.bound]
      · intro i
        rw [hall.used, hone.used]
        simp [or_assoc]
      · rw [hall.fallible, hone.fallible]
        simp [or_assoc]

theorem delivers_built {hoist : Bool} {s : Resolution scope path} {r t : TypeRef} {p : Provider}
    {lookup : Lookup scope.registry} {edges : List Edge} {inner : Resolution scope (path ++ [t])}
    (hopens : Opens hoist s r t p)
    (hall : DeliversAll (s.enter t lookup) p.inputs 0 edges inner) :
    Delivers s r ⟨inner.nodes.size, t⟩ (inner.leave hopens.new p edges) := by
  have hfixed := Aliases.resolve_resolve hopens.comesTo
  have hgrows := grows_leave (s := inner) hopens.new p edges
  have hnode : (inner.leave hopens.new p edges).nodes[inner.nodes.size]? =
      some (.provider t p edges) := by simp [leave]
  have htrees : (edges.map fun e => ((⟨e.position, e.requested, e.resolved⟩ : Use),
      unfold (inner.leave hopens.new p edges).nodes e.node)) =
      edges.map fun e => (⟨e.position, e.requested, e.resolved⟩, unfold inner.nodes e.node) :=
    List.map_congr_left fun e he => by rw [unfold_of_grown hgrows.nodes (hall.bound e he)]
  have hres : ∀ r, scope.aliases.resolve r = .ok t → scope.Resolvable r := fun r halias =>
    .provider halias hopens.found hall.resolvable
  have htree : ∀ r, scope.aliases.resolve r = .ok t →
      scope.expand [] r =
        .ok (t, unfold (inner.leave hopens.new p edges).nodes inner.nodes.size) := by
    intro r halias
    rw [(hres r halias).expand_inputs halias hopens.ext hopens.found, hall.trees,
      unfold_provider hnode hall.bound, htrees]
    rfl
  have hused : ∀ i, i ∈ inner.used ↔ i ∈ s.used ∨ ∃ input ∈ p.inputs, scope.Feeds i input.type :=
    hall.used
  have hfallible : inner.fallible = true ↔
      s.fallible = true ∨ ∃ input ∈ p.inputs, scope.Fails input.type := hall.fallible
  have hsettled : (inner.leave hopens.new p edges).Settled t inner.nodes.size :=
    { comesTo := hfixed
      ext := hopens.ext
      resolvable := hres t hfixed
      bound := by simp [leave]
      tree := htree t hfixed
      used := fun i hfeeds => (hused i).mpr (Or.inr
        ((feeds_iff_of_provider hfixed hopens.ext hopens.found).mp hfeeds))
      fallible := by
        rw [fails_iff_of_provider hfixed hopens.ext hopens.found]
        rintro (hp | hinput)
        · simp [leave, hp]
        · simp [leave, hfallible.mpr (Or.inr hinput)] }
  exact
    { nodes := hall.nodes.trans hgrows.nodes
      sound := hall.sound.leave hopens.new p edges hsettled
      comesTo := hopens.comesTo
      resolvable := hres r hopens.comesTo
      bound := hsettled.bound
      tree := htree r hopens.comesTo
      used := fun i => by
        rw [feeds_iff_of_provider hopens.comesTo hopens.ext hopens.found]
        exact hused i
      fallible := by
        rw [fails_iff_of_provider hopens.comesTo hopens.ext hopens.found]
        simp [leave, hfallible, or_comm, or_left_comm] }

/-- A run that ends well delivers what was requested: a node that stands for its expansion. -/
theorem delivers_of_resolve {hoist : Bool} {s s' : Resolution scope path} {r : TypeRef}
    {supply : Supply} (h : scope.resolve hoist s r = .ok (supply, s')) :
    s.Sound → Delivers s r supply s' := by
  refine resolve_induction (motive := fun _ s r supply s' => s.Sound → Delivers s r supply s')
    ?_ ?_ ?_ h
  · intro path s r t id halias hext hsound
    exact delivers_external hsound halias hext
  · intro path s r t id halias _ _ hreuse hsound
    exact delivers_reused hsound halias hreuse
  · intro path s r t p lookup edges inner hopens hgathered hsound
    exact delivers_built hopens (deliversAll_of_gathered hgathered (hsound.enter t lookup))

/-- What a run delivers for the results of a function. -/
structure DeliversResults (s : Resolution scope path) (results : List Dependency)
    (outputs : List Output) (s' : Resolution scope path) : Prop where
  nodes : s.nodes.toList <+: s'.nodes.toList
  sound : s'.Sound
  resolvable : ∀ r ∈ results.filterMap Dependency.type?, scope.Resolvable r
  bound : ∀ output ∈ outputs, ∀ node, output.value? = some node → node < s'.nodes.size
  used : ∀ i, i ∈ s'.used ↔
    i ∈ s.used ∨ ∃ r ∈ results.filterMap Dependency.type?, scope.Feeds i r
  fallible : s'.fallible = true ↔
    s.fallible = true ∨ ∃ r ∈ results.filterMap Dependency.type?, scope.Fails r

theorem deliversResults_of_answered {s s' : Resolution scope path} {results : List Dependency}
    {outputs : List Output}
    (h : Answered (fun s r supply s' => s.Sound → Delivers s r supply s') results s outputs s')
    (hsound : s.Sound) : DeliversResults s results outputs s' := by
  induction h with
  | nil => exact ⟨List.prefix_refl _, hsound, by simp, by simp, by simp, by simp⟩
  | @error dependency rest s s' outputs htype _ ih =>
      have hall := ih hsound
      have hrequests : (dependency :: rest).filterMap Dependency.type? =
          rest.filterMap Dependency.type? := List.filterMap_cons_none htype
      refine
        { nodes := hall.nodes
          sound := hall.sound
          resolvable := hrequests ▸ hall.resolvable
          bound := ?_
          used := hrequests ▸ hall.used
          fallible := hrequests ▸ hall.fallible }
      intro output hmem node hvalue
      rcases List.mem_cons.mp hmem with rfl | hmem
      · cases hvalue
      · exact hall.bound output hmem node hvalue
  | @value dependency rest s mid s' r supply outputs htype hfirst _ ih =>
      have hone := hfirst hsound
      have hall := ih hone.sound
      have hrequests : (dependency :: rest).filterMap Dependency.type? =
          r :: rest.filterMap Dependency.type? := List.filterMap_cons_some htype
      refine
        { nodes := hone.nodes.trans hall.nodes
          sound := hall.sound
          resolvable := ?_
          bound := ?_
          used := ?_
          fallible := ?_ }
      · rw [hrequests]
        intro u hu
        rcases List.mem_cons.mp hu with rfl | hu
        · exact hone.resolvable
        · exact hall.resolvable u hu
      · intro output hmem node hvalue
        rcases List.mem_cons.mp hmem with rfl | hmem
        · cases hvalue
          exact Nat.lt_of_lt_of_le hone.bound (by simpa using hall.nodes.length_le)
        · exact hall.bound output hmem node hvalue
      · intro i
        rw [hall.used, hone.used, hrequests]
        simp [or_assoc]
      · rw [hall.fallible, hone.fallible, hrequests]
        simp [or_assoc]

theorem delivers_of_resolveResults {hoist hasError : Bool} {s s' : Resolution scope []}
    {results : List Dependency} {outputs : List Output}
    (h : scope.resolveResults hoist results hasError s = .ok (outputs, s')) (hsound : s.Sound) :
    DeliversResults s results outputs s' :=
  deliversResults_of_answered
    ((answered_of_ok h).mono fun _ _ _ _ hrun => delivers_of_resolve hrun) hsound

end Scope

end Wiring
