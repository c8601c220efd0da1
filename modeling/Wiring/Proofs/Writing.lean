import Wiring.Proofs.Drafting
import Wiring.Proofs.Requirement

/-!
The graph of a request always has a function, whatever is known of the packages when it is written.
What a graph needs for this is named first; the resolution takes care of it.
-/

namespace Wiring

open Resolution

/-- What it takes to write the function of a graph: the parameters have types, what is used was
bound before, and where a constructor can fail there is an error result. -/
structure Graph.Writable (g : Graph) : Prop where
  params : ∀ id ∈ g.params, ∃ t position, g.nodes[id]? = some (.external t position)
  arguments : ∀ before id after, g.order = before ++ id :: after → ∀ e ∈ g.children id,
    e.node ∈ g.params ∨ e.node ∈ before ∧ ∃ t, g.Builds e.node t
  results : ∀ id r t, .value id r t ∈ g.outputs →
    id ∈ g.params ∨ id ∈ g.order ∧ ∃ t, g.Builds id t
  failures : ∀ (id : NodeId) t p edges, g.nodes[id]? = some (.provider t p edges) →
    p.fallible = true → g.outputs.any Output.isError = true

namespace Draft

variable {catalog : Catalog} {g : Graph} {draft draft' : Draft} {id : NodeId}

theorem exists_param {node : NodeId} {t : TypeRef} (h : g.nodes[node]? >>= Node.type? = some t)
    (draft : Draft) : ∃ result, param catalog g node draft = .ok result := by
  unfold param
  rw [h]
  exact ⟨_, rfl⟩

theorem exists_resultType (output : Output) (draft : Draft) :
    ∃ result, resultType catalog output draft = .ok result := by
  cases output with
  | error source => exact ⟨_, rfl⟩
  | value id requested resolved => exact ⟨_, rfl⟩

theorem exists_skipped (output : Output) (draft : Draft) :
    ∃ result, skipped catalog output draft = .ok result := by
  cases output with
  | error source => exact ⟨_, rfl⟩
  | value id requested resolved => exact ⟨_, rfl⟩

theorem exists_argument {p : Provider} {edge : Edge} (h : draft.Knows edge.node) :
    ∃ made, draft.argument g p edge = .ok made := by
  obtain ⟨name, hname⟩ := h
  unfold argument
  rw [hname]
  exact ⟨_, rfl⟩

theorem exists_binding (node : NodeId) (t : TypeRef) {p : Provider} {edges : List Edge}
    (hargs : ∀ e ∈ edges, draft.Knows e.node)
    (hfails : p.fallible = true → g.outputs.any Output.isError = true) :
    ∃ result, draft.binding g node t p edges = .ok result := by
  have hmade : ∀ e ∈ edges, ∃ made, draft.argument g p e = .ok made := fun e he =>
    exists_argument (hargs e he)
  obtain ⟨args, hargs⟩ := List.exists_mapM_ok hmade
  have hsafe : (p.fallible && !g.outputs.any Output.isError) = false := by
    cases hp : p.fallible with
    | false => rfl
    | true => rw [hfails hp]; rfl
  unfold binding
  simp only [hargs, hsafe, Bool.false_eq_true, if_false]
  exact ⟨_, rfl⟩

/-- Nodes are ready to be bound in order: what each of them consumes is known, or it is a provider
among those before. -/
def Ready (g : Graph) (draft : Draft) (nodes : List NodeId) : Prop :=
  ∀ before id after, nodes = before ++ id :: after → ∀ e ∈ g.children id,
    draft.Knows e.node ∨ e.node ∈ before ∧ ∃ t, g.Builds e.node t

section Ready

variable {node : NodeId} {nodes : List NodeId} {name : String}

theorem Ready.head (h : Ready g draft (node :: nodes)) :
    ∀ e ∈ g.children node, draft.Knows e.node := by
  intro e he
  rcases h [] node nodes rfl e he with hknown | ⟨hnone, -⟩
  · exact hknown
  · cases hnone

theorem Ready.gives (h : Ready g draft (node :: nodes)) (hgives : draft.Gives node name draft') :
    Ready g draft' nodes := by
  intro before id after hsplit e he
  rw [hgives.knows_iff]
  rcases h (node :: before) id after (by rw [hsplit]; rfl) e he with hknown | ⟨hmem, hbuilds⟩
  · exact Or.inl (Or.inr hknown)
  · rcases List.mem_cons.mp hmem with heq | hmem
    · exact Or.inl (Or.inl heq)
    · exact Or.inr ⟨hmem, hbuilds⟩

theorem Ready.skip (h : Ready g draft (node :: nodes)) (hother : ¬ ∃ t, g.Builds node t) :
    Ready g draft nodes := by
  intro before id after hsplit e he
  rcases h (node :: before) id after (by rw [hsplit]; rfl) e he with hknown | ⟨hmem, hbuilds⟩
  · exact Or.inl hknown
  · rcases List.mem_cons.mp hmem with heq | hmem
    · exact absurd (heq ▸ hbuilds) hother
    · exact Or.inr ⟨hmem, hbuilds⟩

end Ready

/-- All providers among nodes that are ready can be bound. -/
theorem exists_bindings {nodes : List NodeId} (hready : Ready g draft nodes)
    (hfails : ∀ (id : NodeId) t p edges, g.nodes[id]? = some (.provider t p edges) →
      p.fallible = true → g.outputs.any Output.isError = true) :
    ∃ result, bindings g nodes draft = .ok result := by
  induction nodes generalizing draft with
  | nil => exact ⟨_, rfl⟩
  | cons node nodes ih =>
      by_cases hprovider : ∃ t, g.Builds node t
      · obtain ⟨t, p, edges, hnode⟩ := hprovider
        obtain ⟨⟨made, mid⟩, hfirst⟩ :=
          exists_binding node t hready.head (hfails node t p edges hnode)
        obtain ⟨⟨more, last⟩, hrest⟩ := ih (hready.gives (writes_of_binding hfirst).gives)
        refine ⟨(made :: more, last), ?_⟩
        rw [bindings_of_provider hnode]
        exact Except.bind_eq_ok_iff.mpr ⟨_, hfirst, Except.bind_eq_ok_iff.mpr ⟨_, hrest, rfl⟩⟩
      · have hnode : ∀ t p edges, g.nodes[node]? ≠ some (.provider t p edges) :=
          fun t p edges heq => hprovider ⟨t, p, edges, heq⟩
        rw [bindings_of_other hnode]
        exact ih (hready.skip hprovider)

/-- A parameter is known once it was declared. -/
theorem Each.knows_iff {nodes : List NodeId} {params : List Go.Param}
    (h : Each (fun node draft made draft' => draft.Gives node made.name draft') nodes draft params
      draft') : draft'.Knows id ↔ draft.Knows id ∨ id ∈ nodes := by
  induction h with
  | nil => simp
  | cons hfirst _ ih =>
      rw [ih, hfirst.knows_iff, List.mem_cons, or_comm (a := _ = _), or_assoc]

theorem exists_returned {output : Output}
    (hknown : ∀ node requested resolved, output = .value node requested resolved →
      draft.Knows node) : ∃ made, draft.returned g output = .ok made := by
  cases output with
  | error source => exact ⟨_, rfl⟩
  | value node requested resolved =>
      obtain ⟨name, hname⟩ := hknown node requested resolved rfl
      simp only [returned, hname]
      exact ⟨_, rfl⟩

/-- The signature and the early return of a writable graph are written, and from then on the
parameters are known. -/
theorem exists_signature (hwritable : g.Writable) (catalog : Catalog) (draft : Draft) :
    ∃ params signed results typed skips zeroed,
      each (param catalog g) g.params draft = .ok (params, signed) ∧
      each (resultType catalog) g.outputs signed = .ok (results, typed) ∧
      each (skipped catalog) g.outputs typed = .ok (skips, zeroed) ∧
      ∀ id ∈ g.params, zeroed.Knows id := by
  have htyped : ∀ node ∈ g.params, ∀ draft, ∃ result, param catalog g node draft = .ok result := by
    intro node hnode draft
    obtain ⟨t, position, ht⟩ := hwritable.params node hnode
    exact exists_param (by rw [ht]; rfl) draft
  obtain ⟨⟨params, signed⟩, hparams⟩ := exists_each htyped draft
  have hresults : ∃ result, each (resultType catalog) g.outputs signed = .ok result :=
    exists_each (fun output _ => exists_resultType output) signed
  obtain ⟨⟨results, typed⟩, hresults⟩ := hresults
  have hskips : ∃ result, each (skipped catalog) g.outputs typed = .ok result :=
    exists_each (fun output _ => exists_skipped output) typed
  obtain ⟨⟨skips, zeroed⟩, hskips⟩ := hskips
  refine ⟨params, signed, results, typed, skips, zeroed, hparams, hresults, hskips, ?_⟩
  intro id hid
  have hkeeps : signed.Keeps zeroed :=
    (keeps_of_resultTypes (each_of_ok hresults)).trans (keeps_of_skips (each_of_ok hskips))
  rw [hkeeps.knows_iff, ((each_of_ok hparams).mono fun _ _ _ _ => gives_of_param).knows_iff]
  exact Or.inr hid

/-- The function of a writable graph is written, whatever the catalog and the draft are. -/
theorem exists_function (hwritable : g.Writable) (catalog : Catalog) (draft : Draft) :
    ∃ result, function catalog g draft = .ok result := by
  obtain ⟨params, signed, results, typed, skips, zeroed, hparams, hresults, hskips, hdeclared⟩ :=
    exists_signature hwritable catalog draft
  have hready : Ready g zeroed g.order := by
    intro before id after hsplit e he
    exact (hwritable.arguments before id after hsplit e he).imp_left (hdeclared e.node)
  obtain ⟨⟨body, last⟩, hbody⟩ := exists_bindings hready hwritable.failures
  have hreturned : ∀ output ∈ g.outputs, ∃ made, last.returned g output = .ok made := by
    intro output hmem
    refine exists_returned fun node requested resolved heq => ?_
    rw [(binds_of_ok hbody).knows_iff]
    rcases hwritable.results node requested resolved (heq ▸ hmem) with hparam | hbuilt
    · exact Or.inl (hdeclared node hparam)
    · exact Or.inr hbuilt
  obtain ⟨returned, hreturned⟩ := List.exists_mapM_ok hreturned
  refine ⟨(⟨g.name, params, results, skips, body, returned⟩, last), ?_⟩
  refine Except.bind_eq_ok_iff.mpr ⟨_, hparams, ?_⟩
  refine Except.bind_eq_ok_iff.mpr ⟨_, hresults, ?_⟩
  refine Except.bind_eq_ok_iff.mpr ⟨_, hskips, ?_⟩
  refine Except.bind_eq_ok_iff.mpr ⟨_, hbody, ?_⟩
  exact Except.bind_eq_ok_iff.mpr ⟨_, hreturned, rfl⟩

end Draft

theorem Generator.exists_generate {g : Graph} (hwritable : g.Writable) (generator : Generator) :
    ∃ artifact after, generator.generate g = .ok (artifact, after) := by
  obtain ⟨⟨f, draft⟩, hfunction⟩ :=
    Draft.exists_function hwritable generator.catalog (.init g.target)
  exact ⟨_, _, Except.bind_eq_ok_iff.mpr ⟨_, hfunction, rfl⟩⟩

namespace Graph

/-- In an order without repetition, what precedes a node stands in the part before it. -/
theorem Precedes.mem_left {g : Graph} {child id : NodeId} {before after : List NodeId}
    (h : g.Precedes child id) (hnodup : g.order.Nodup) (hsplit : g.order = before ++ id :: after) :
    child ∈ before := by
  rw [hsplit] at hnodup
  rw [Precedes, hsplit, List.sublist_append_iff] at h
  have hlater : id ∉ after := (List.nodup_cons.mp (List.nodup_append.mp hnodup).2.1).1
  obtain ⟨first, second, heq, hfirst, hsecond⟩ := h
  cases first with
  | cons a rest =>
      obtain ⟨rfl, -⟩ := List.cons.inj heq
      exact hfirst.subset List.mem_cons_self
  | nil =>
      -- The pair cannot stand in the part from the node on: the node would come twice.
      rw [List.nil_append] at heq
      rw [← heq] at hsecond
      cases hsecond with
      | cons _ hrest => exact absurd (hrest.subset (by simp)) hlater
      | cons_cons _ hrest => exact absurd (hrest.subset (by simp)) hlater

end Graph

namespace Scope

variable {scope : Scope} {path : List TypeRef}

theorem any_isFallible_start (scope : Scope) : (start scope).nodes.any Node.isFallible = false := by
  rw [Array.any_eq_false]
  intro id hid
  obtain ⟨t, ht⟩ := external_of_lt_start hid
  rw [Array.getElem?_eq_getElem hid, Option.some.injEq] at ht
  rw [ht]
  simp [Node.isFallible, Node.provider?]

/-- A run knows whether something can fail among what it has built. -/
theorem fallible_of_answered {hoist : Bool} {s : Resolution scope []} {results : List Dependency}
    {outputs : List Output}
    (h : Answered (fun s r supply s' => scope.resolve hoist s r = .ok (supply, s')) results
      (start scope) outputs s) : s.fallible = s.nodes.any Node.isFallible := by
  refine invariant_of_answered (P := fun _ s => s.fallible = s.nodes.any Node.isFallible) ?_ ?_ ?_ h
    (any_isFallible_start scope).symm
  · intro path s id hs
    exact hs
  · intro path s r t p lookup _ hs
    exact hs
  · intro path t s hnew p edges hs
    simp only [leave, Array.any_push, hs]
    rfl

end Scope

namespace Registry

variable {registry : Registry} {request : Request} {g : Graph} {id : NodeId}

/-- If something can fail and a value is returned, there is an error result. -/
theorem any_isError_settleError {outputs : List Output} {nodes : Array Node}
    (hvalue : outputs.any (!Output.isError ·) = true) :
    (settleError outputs true nodes).1.any Output.isError = true := by
  unfold settleError
  cases hdeclared : outputs.any Output.isError with
  | true =>
      simp only [if_true, Bool.not_true, Bool.false_and, Bool.false_eq_true, if_false, hdeclared]
  | false =>
      simp only [if_true, Bool.not_false, Bool.true_and, hvalue, List.any_append]
      exact Bool.or_true _

theorem any_isError_of_load (h : registry.load request = .ok g) {t : TypeRef} {p : Provider}
    {edges : List Edge} (hnode : g.nodes[id]? = some (.provider t p edges))
    (hfails : p.fallible = true) : g.outputs.any Output.isError = true := by
  obtain ⟨position, root, r, u, hposition, -⟩ := exists_below h ⟨p, edges, hnode⟩
  obtain ⟨-, outputs, s, hresults, -, rfl⟩ := exists_of_load_ok h
  have hmade : s.nodes[id]? = some (.provider t p edges) := provider_of_settleError hnode
  have hfallible : s.fallible = true := by
    rw [Scope.fallible_of_answered (Scope.answered_of_ok hresults), Array.any_eq_true]
    obtain ⟨hid, heq⟩ := Array.getElem?_eq_some_iff.mp hmade
    exact ⟨id, hid, by rw [heq]; exact hfails⟩
  have hvalue : outputs.any (!Output.isError ·) = true := by
    have hmem := mem_settleError rfl (List.mem_of_getElem? hposition)
    exact List.any_eq_true.mpr ⟨_, hmem, rfl⟩
  simp only [graph, hfallible]
  exact any_isError_settleError hvalue

/-- What supplies a type is a parameter or was built. -/
theorem param_or_builds (hparams : g.params = List.range request.paramTypes.length) {t : TypeRef}
    (h : (registry.scope request).Supplies g.nodes t id) :
    id ∈ g.params ∨ ∃ u, g.Builds id u := by
  cases h with
  | external _ hparam _ =>
      rw [hparams, List.mem_range]
      exact Or.inl (List.getElem?_eq_some_iff.mp hparam).1
  | provider _ hnode _ => exact Or.inr ⟨_, _, _, hnode⟩

/-- The graph of every request has what it takes to be written. -/
theorem writable_of_load (h : registry.load request = .ok g) : g.Writable := by
  obtain ⟨m, built, before, slot, after, hlayout⟩ := exists_layout h
  refine
    { params := ?_
      arguments := ?_
      results := ?_
      failures := fun id t p edges hnode hfails => any_isError_of_load h hnode hfails }
  · intro id hid
    rw [hlayout.params, List.mem_range] at hid
    obtain ⟨t, ht⟩ := param_of_load h hid
    exact ⟨t, id, ht⟩
  · intro before id after hsplit e he
    have hconsumes : g.Consumes id e.node := ⟨e, he, rfl⟩
    have hprecedes := hlayout.children (lt_of_consumes h hconsumes) hconsumes
    have hnodup : g.order.Nodup := hlayout.complete.nodup_iff.mpr List.nodup_range
    obtain ⟨t, p, edges, hnode⟩ := Graph.builds_of_consumes hconsumes
    rw [children_of_load h hnode] at he
    obtain ⟨q, input, -, -, -, hsupplies⟩ := (wired_of_load h hnode).exists_input he
    exact (param_or_builds hlayout.params hsupplies).imp_right fun hbuilds =>
      ⟨hprecedes.mem_left hnodup hsplit, hbuilds⟩
  · intro id r t hmem
    obtain ⟨-, hsupplies⟩ := returned_of_load h hmem
    refine (param_or_builds hlayout.params hsupplies).imp_right fun hbuilds => ⟨?_, hbuilds⟩
    rw [hlayout.complete.mem_iff]
    exact List.mem_range.mpr hsupplies.lt_size

/-- Every graph that a resolution makes has a function, whichever packages the generator knows and
whatever it has written before. -/
theorem generate_of_load (h : registry.load request = .ok g) :
    g.Writable ∧ ∀ generator : Generator, ∃ artifact after,
      generator.generate g = .ok (artifact, after) :=
  ⟨writable_of_load h, fun generator => generator.exists_generate (writable_of_load h)⟩

end Registry

namespace Sample

/-- The shop with a store that has to be opened, which can fail. -/
def guarded : Registry :=
  .ofList
    [{ importPath := "shop"
       name := none
       types :=
         [⟨"Store", .struct, [⟨"Clock", type "Clock"⟩]⟩,
          ⟨"Cart", .struct, [⟨"Store", (type "Store").withPointer true⟩, ⟨"Clock", type "Clock"⟩]⟩,
          ⟨"Ledger", .struct, [⟨"Store", type "Store"⟩]⟩]
       functions := [⟨"OpenStore", [type "Clock"], [(type "Store").withPointer true, .error]⟩] }]

/-- The function that opens the store. -/
def opening : Provider where
  importPath := "shop"
  package := "shop"
  name := "OpenStore"
  kind := .function
  inputs := [⟨none, type "Clock"⟩]
  result := (type "Store").withPointer true
  fallible := true

def guardedGraph : Graph where
  name := "Open"
  target := "main"
  hoist := true
  nodes :=
    let clock := type "Clock"
    let store := type "Store"
    let shared := store.withPointer true
    #[.external clock 0,
      .provider shared opening [⟨0, 0, clock, clock⟩],
      .provider (type "Cart")
        (literal (type "Cart") [⟨some "Store", shared⟩, ⟨some "Clock", clock⟩])
        [⟨1, 0, shared, shared⟩, ⟨0, 1, clock, clock⟩],
      .provider (type "Ledger") (literal (type "Ledger") [⟨some "Store", store⟩])
        [⟨1, 0, store, store⟩]]
  params := [0]
  outputs :=
    [.value 2 (type "Cart") (type "Cart"), .error .propagated,
      .value 3 (type "Journal") (type "Ledger")]

theorem load_guarded : guarded.load request = .ok guardedGraph := by
  with_unfolding_all rfl

theorem generate_guarded : guarded.load request = .ok guardedGraph ∧ guardedGraph.Writable ∧
    ∀ generator : Generator, ∃ artifact after,
      generator.generate guardedGraph = .ok (artifact, after) :=
  ⟨load_guarded, Registry.generate_of_load load_guarded⟩

end Sample

end Wiring
