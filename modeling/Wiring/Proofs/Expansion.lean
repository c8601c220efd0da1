import Wiring.Proofs.Demand
import Wiring.Resolution.Load

/-!
The tree that a type is built from, with every use of a provider written out. It is defined twice:
by unfolding a node of a graph, and by expanding a requested type without any graph, marks or
memory. Expanding ends well for resolvable types only, and then a path that is clear of what is met
makes no difference.
-/

namespace Wiring

/-- How a provider uses what feeds one of its inputs. -/
structure Use where
  position : Nat
  requested : TypeRef
  resolved : TypeRef
deriving DecidableEq, Repr

/-- What stands below a node. Pointers that may differ between two uses of one provider are left
out: the one of the type it stands for, and the one of a composite literal. -/
inductive BuildTree where
  | external (position : Nat)
  | provider (base : TypeRef) (constructor : Provider) (inputs : List (Use × BuildTree))
  | nilError

/-- Writes out everything below a node. An edge to a later node is not followed; the graph of a
request has none. -/
def unfold (nodes : Array Node) (id : Nat) : BuildTree :=
  match nodes[id]? with
  | some (.external _ position) => .external position
  | some (.provider t p edges) =>
    .provider t.base p.erased (edges.map fun e =>
      (⟨e.position, e.requested, e.resolved⟩,
        if _h : e.node < id then unfold nodes e.node else .nilError))
  | some .zeroError | none => .nilError
termination_by id

theorem unfold_external {nodes : Array Node} {id position : Nat} {t : TypeRef}
    (h : nodes[id]? = some (.external t position)) : unfold nodes id = .external position := by
  rw [unfold, h]

theorem unfold_provider {nodes : Array Node} {id : Nat} {t : TypeRef} {p : Provider}
    {edges : List Edge} (h : nodes[id]? = some (.provider t p edges))
    (hbelow : ∀ e ∈ edges, e.node < id) :
    unfold nodes id = .provider t.base p.erased
      (edges.map fun e => (⟨e.position, e.requested, e.resolved⟩, unfold nodes e.node)) := by
  rw [unfold, h]
  simp only [BuildTree.provider.injEq, true_and]
  refine List.map_congr_left fun e he => ?_
  rw [dif_pos (hbelow e he)]

theorem getElem?_eq_of_grown {before after : Array Node} {id : Nat}
    (hgrown : before.toList <+: after.toList) (hid : id < before.size) :
    after[id]? = before[id]? := by
  obtain ⟨more, hmore⟩ := hgrown
  rw [← Array.getElem?_toList, ← Array.getElem?_toList, ← hmore]
  exact List.getElem?_append_left (by simpa using hid)

/-- Nodes that are made later do not change what stands below a node. -/
theorem unfold_of_grown {before after : Array Node} {id : Nat}
    (hgrown : before.toList <+: after.toList) (hid : id < before.size) :
    unfold after id = unfold before id := by
  induction id using Nat.strongRecOn with
  | _ id ih =>
      have hnode := getElem?_eq_of_grown hgrown hid
      rw [unfold, unfold, hnode]
      cases before[id]? with
      | none => rfl
      | some node =>
          cases node with
          | external t position => rfl
          | zeroError => rfl
          | provider t p edges =>
              simp only [BuildTree.provider.injEq, true_and]
              refine List.map_congr_left fun e _ => ?_
              by_cases hlt : e.node < id
              · rw [dif_pos hlt, dif_pos hlt, ih e.node hlt (Nat.lt_trans hlt hid)]
              · rw [dif_neg hlt, dif_neg hlt]

namespace Scope

/-- Expands the inputs of a provider in order. -/
def expandInputs (expand : TypeRef → Except ResolveError (TypeRef × BuildTree)) :
    List Input → Nat → Except ResolveError (List (Use × BuildTree))
  | [], _ => .ok []
  | input :: inputs, position => do
    let (resolved, tree) ← expand input.type
    let trees ← expandInputs expand inputs (position + 1)
    .ok ((⟨position, input.type, resolved⟩, tree) :: trees)

/-- The type that a requested one comes to, and the tree that it is built from. -/
def expand (scope : Scope) (path : List TypeRef) (r : TypeRef) :
    Except ResolveError (TypeRef × BuildTree) :=
  match scope.aliases.resolve r with
  | .error cycle => .error (.aliasCycle cycle)
  | .ok t =>
    match scope.external? t with
    | some id => .ok (t, .external id)
    | none =>
      if hpath : t.base ∈ path.map TypeRef.base then
        .error (.cycle (cycleOf path t))
      else
        match hfind : scope.registry.find t with
        | .error cause => .error (.lookup cause t path)
        | .ok p => do
          have := Registry.unopened_append_lt hfind hpath
          let trees ← expandInputs (fun input => scope.expand (path ++ [t]) input) p.inputs 0
          .ok (t, .provider t.base p.erased trees)
termination_by scope.registry.unopened path

section

variable {scope : Scope} {path : List TypeRef} {r t : TypeRef}

theorem expand_of_aliasCycle {cycle : List TypeRef}
    (halias : scope.aliases.resolve r = .error cycle) :
    scope.expand path r = .error (.aliasCycle cycle) := by
  rw [expand, halias]

theorem expand_of_external {id : NodeId} (halias : scope.aliases.resolve r = .ok t)
    (hext : scope.external? t = some id) : scope.expand path r = .ok (t, .external id) := by
  rw [expand, halias]
  simp only [hext]

theorem expand_of_mem_path (halias : scope.aliases.resolve r = .ok t)
    (hext : scope.external? t = none) (hpath : t.base ∈ path.map TypeRef.base) :
    scope.expand path r = .error (.cycle (cycleOf path t)) := by
  rw [expand, halias]
  simp only [hext, dif_pos hpath]

theorem expand_of_lookup {cause : LookupError} (halias : scope.aliases.resolve r = .ok t)
    (hext : scope.external? t = none) (hpath : t.base ∉ path.map TypeRef.base)
    (hfind : scope.registry.find t = .error cause) :
    scope.expand path r = .error (.lookup cause t path) := by
  rw [expand, halias]
  simp only [hext, dif_neg hpath]
  split
  case h_1 other hother =>
    rw [hfind] at hother
    cases hother
    rfl
  case h_2 p hp =>
    rw [hfind] at hp
    cases hp

theorem expand_of_provider {p : Provider} (halias : scope.aliases.resolve r = .ok t)
    (hext : scope.external? t = none) (hpath : t.base ∉ path.map TypeRef.base)
    (hfind : scope.registry.find t = .ok p) :
    scope.expand path r = (do
      let trees ← expandInputs (scope.expand (path ++ [t])) p.inputs 0
      .ok (t, .provider t.base p.erased trees)) := by
  rw [expand, halias]
  simp only [hext, dif_neg hpath]
  split
  case h_1 cause hcause =>
    rw [hfind] at hcause
    cases hcause
  case h_2 q hq =>
    rw [hfind] at hq
    cases hq
    rfl

end

/-- If each input has one expansion whatever the path, as long as the path is clear of it, so has
the list of them. -/
theorem expandInputs_of_forall {scope : Scope} {inputs : List Input}
    (h : ∀ input ∈ inputs, ∃ x, ∀ path, scope.Clear path input.type →
      scope.expand path input.type = .ok x) (position : Nat) :
    ∃ trees, ∀ path, (∀ input ∈ inputs, scope.Clear path input.type) →
      expandInputs (scope.expand path) inputs position = .ok trees := by
  induction inputs generalizing position with
  | nil => exact ⟨[], fun _ _ => rfl⟩
  | cons input inputs ih =>
      obtain ⟨⟨resolved, tree⟩, hfirst⟩ := h input (by simp)
      obtain ⟨trees, hrest⟩ := ih (fun i hi => h i (by simp [hi])) (position + 1)
      refine ⟨(⟨position, input.type, resolved⟩, tree) :: trees, fun path hclear => ?_⟩
      simp only [expandInputs, hfirst path (hclear input (by simp)),
        hrest path fun i hi => hclear i (by simp [hi]), bind, Except.bind]

/-- A resolvable type has one expansion, on every path that is clear of what it asks for. -/
theorem Resolvable.expand {scope : Scope} {r : TypeRef} (h : scope.Resolvable r) :
    ∃ x, ∀ path, scope.Clear path r → scope.expand path r = .ok x := by
  have hres := h
  induction h with
  | @param r t u halias hparam hbase =>
      have hsome : scope.external? t ≠ none := fun hnone =>
        external?_eq_none_iff.mp hnone u hparam hbase
      obtain ⟨id, hid⟩ := Option.ne_none_iff_exists'.mp hsome
      exact ⟨_, fun path _ => expand_of_external halias hid⟩
  | @provider r t p halias hfind hinputs ih =>
      cases hext : scope.external? t with
      | some id => exact ⟨_, fun path _ => expand_of_external halias hext⟩
      | none =>
          obtain ⟨trees, htrees⟩ :=
            expandInputs_of_forall (fun input hmem => ih input hmem (hinputs input hmem)) 0
          refine ⟨(t, .provider t.base p.erased trees), fun path hclear => ?_⟩
          have hpath := hclear r t .refl halias hext
          have hbelow := htrees (path ++ [t]) fun input hmem =>
            hclear.append hres halias hext hfind hmem
          simp only [expand_of_provider halias hext hpath hfind, hbelow, bind, Except.bind]

theorem Resolvable.expand_eq {scope : Scope} {path : List TypeRef} {r : TypeRef}
    (h : scope.Resolvable r) (hclear : scope.Clear path r) :
    scope.expand path r = scope.expand [] r := by
  obtain ⟨x, hx⟩ := h.expand
  rw [hx path hclear, hx [] (clear_nil r)]

theorem expandInputs_congr {f g : TypeRef → Except ResolveError (TypeRef × BuildTree)}
    {inputs : List Input} (h : ∀ input ∈ inputs, f input.type = g input.type) (position : Nat) :
    expandInputs f inputs position = expandInputs g inputs position := by
  induction inputs generalizing position with
  | nil => rfl
  | cons input inputs ih =>
      rw [expandInputs, expandInputs, h input (by simp),
        ih (fun i hi => h i (by simp [hi])) (position + 1)]

/-- The expansion of a resolvable type is put together from the expansions of what it needs. -/
theorem Resolvable.expand_inputs {scope : Scope} {r t : TypeRef} {p : Provider}
    (h : scope.Resolvable r) (halias : scope.aliases.resolve r = .ok t)
    (hext : scope.external? t = none) (hfind : scope.registry.find t = .ok p) :
    scope.expand [] r = (do
      let trees ← expandInputs (scope.expand []) p.inputs 0
      .ok (t, .provider t.base p.erased trees)) := by
  have hbelow : expandInputs (scope.expand [t]) p.inputs 0 =
      expandInputs (scope.expand []) p.inputs 0 := by
    refine expandInputs_congr (fun input hmem => ?_) 0
    have hneeds : scope.Needs r input.type := ⟨t, p, halias, hext, hfind, input, hmem, rfl⟩
    exact (h.needs hneeds).expand_eq ((clear_nil r).append h halias hext hfind hmem)
  rw [Scope.expand_of_provider halias hext (by simp) hfind, List.nil_append, hbelow]

/-- Resolvable types of one base are built alike, unless a parameter supplies them. -/
theorem Resolvable.expand_congr {scope : Scope} {r₁ r₂ t₁ t₂ : TypeRef} {tree : BuildTree}
    (h : scope.Resolvable r₁) (h₁ : scope.aliases.resolve r₁ = .ok t₁)
    (h₂ : scope.aliases.resolve r₂ = .ok t₂) (hbase : t₁.base = t₂.base)
    (hext : scope.external? t₁ = none) (hexpand : scope.expand [] r₁ = .ok (t₁, tree)) :
    scope.Resolvable r₂ ∧ scope.expand [] r₂ = .ok (t₂, tree) := by
  have hext₂ := (external?_none_congr hbase).mp hext
  cases h with
  | @param _ t u halias hparam hu =>
      rw [h₁] at halias
      cases halias
      exact absurd hu (external?_eq_none_iff.mp hext u hparam)
  | @provider _ t p halias hfind hinputs =>
      rw [h₁] at halias
      cases halias
      obtain ⟨q, hq, herased⟩ := Registry.find_ok_congr hbase hfind
      have hsame := Provider.inputs_of_erased herased
      have hres₂ : scope.Resolvable r₂ := .provider h₂ hq fun input hmem =>
        hinputs input (hsame ▸ hmem)
      refine ⟨hres₂, ?_⟩
      rw [(Resolvable.provider h₁ hfind hinputs).expand_inputs h₁ hext hfind] at hexpand
      rw [hres₂.expand_inputs h₂ hext₂ hq, hsame, herased, ← hbase]
      cases htrees : expandInputs (scope.expand []) p.inputs 0 with
      | error e => simp [htrees, bind, Except.bind] at hexpand
      | ok trees =>
          simp only [htrees, bind, Except.bind, Except.ok.injEq, Prod.mk.injEq, true_and]
            at hexpand ⊢
          exact hexpand

end Scope

end Wiring
