import Wiring.Proofs.Capture
import Wiring.Proofs.Recording

/-!
Generators that write one function after another. A generator keeps one import table, which is
cleared for each function and then has the packages that the function mentions. What a function
mentions is up to its graph and the catalog, so nothing that was written before makes a difference.
-/

namespace List

/-- Where one list is what a function makes of another, so is each of its items. -/
theorem getElem?_of_forall₂ {ε α β : Type} {f : α → Except ε β} {items : List α} {made : List β}
    (h : Forall₂ (fun a b => f a = .ok b) items made) (i : Nat) :
    made[i]? = items[i]?.bind fun a => (f a).toOption := by
  induction h generalizing i with
  | nil => rfl
  | cons hfirst _ ih =>
      cases i with
      | zero => simp [hfirst, Except.toOption]
      | succ i => simpa using ih i

end List

namespace Wiring

/-- A type is mentioned by the name that the catalog has for its package. -/
def Catalog.mention (catalog : Catalog) (t : TypeRef) : Imports.Mention :=
  ⟨t.importPath, catalog.packageName t.importPath, some t.name⟩

/-- The call of a constructor mentions its package. -/
def Provider.mention (p : Provider) : Imports.Mention :=
  ⟨p.importPath, p.package, none⟩

namespace Graph

def provider? (g : Graph) (id : NodeId) : Option Provider :=
  g.nodes[id]? >>= Node.provider?

/-- The types that the function of a graph mentions: those of its parameters, of its results and of
the zero values that its early returns have for these. -/
def usedTypes (g : Graph) (catalog : Catalog) : List TypeRef :=
  g.params.filterMap g.type? ++ g.outputs.filterMap Output.requested? ++
    g.outputs.filterMap fun output => output.requested? >>= catalog.zeroType?

def uses (g : Graph) (catalog : Catalog) : List Imports.Mention :=
  (g.usedTypes catalog).map catalog.mention ++
    (g.order.filterMap g.provider?).map Provider.mention

/-- What happens to the import table of a generator that writes the function of a graph. -/
def calls (g : Graph) (catalog : Catalog) : List Imports.Step :=
  .reset g.target :: (g.uses catalog).map .use

/-- A request was resolved to the graph. -/
def IsResolved (g : Graph) : Prop :=
  ∃ (registry : Registry) (request : Request), registry.load request = .ok g

end Graph

theorem Imports.foldl_step_use (imports : Imports) (mentions : List Imports.Mention) :
    (mentions.map Step.use).foldl step imports = imports.useAll mentions := by
  rw [List.foldl_map]
  rfl

namespace Draft

variable {catalog : Catalog} {g : Graph} {draft mid draft' : Draft} {node : NodeId}
  {used more : List Imports.Mention}

/-- All that was done to the imports from one draft to the next is to mention certain packages. -/
def Uses (draft : Draft) (used : List Imports.Mention) (draft' : Draft) : Prop :=
  draft'.imports = draft.imports.useAll used

theorem uses_nil (draft : Draft) : draft.Uses [] draft :=
  rfl

theorem Uses.trans (h : draft.Uses used mid) (h' : mid.Uses more draft') :
    draft.Uses (used ++ more) draft' := by
  rw [Uses, Imports.useAll, List.foldl_append]
  exact Eq.trans h' (congrArg (Imports.useAll · more) h)

theorem uses_typeExpr (catalog : Catalog) (t : TypeRef) (draft : Draft) :
    draft.Uses [catalog.mention t] (typeExpr catalog t draft).2 :=
  rfl

theorem uses_zero (catalog : Catalog) (t : TypeRef) (draft : Draft) :
    draft.Uses ((catalog.zeroType? t).toList.map catalog.mention) (zero catalog t draft).2 := by
  rw [snd_zero]
  cases catalog.zeroType? t with
  | none => exact uses_nil draft
  | some u => exact uses_typeExpr catalog u draft

theorem uses_of_param {made : Go.Param} (h : param catalog g node draft = .ok (made, draft')) :
    draft.Uses ((g.type? node).toList.map catalog.mention) draft' := by
  unfold param at h
  split at h
  case h_1 => cases h
  case h_2 t ht =>
    cases h
    rw [Graph.type?, ht]
    exact uses_typeExpr catalog t draft

theorem uses_of_resultType {output : Output} {made : Go.ResultType}
    (h : resultType catalog output draft = .ok (made, draft')) :
    draft.Uses (output.requested?.toList.map catalog.mention) draft' := by
  cases output with
  | error source =>
      cases h
      exact uses_nil draft
  | value node requested resolved =>
      cases h
      exact uses_typeExpr catalog requested draft

theorem uses_of_skipped {output : Output} {made : Go.Skipped}
    (h : skipped catalog output draft = .ok (made, draft')) :
    draft.Uses ((output.requested? >>= catalog.zeroType?).toList.map catalog.mention)
      draft' := by
  cases output with
  | error source =>
      cases h
      exact uses_nil draft
  | value node requested resolved =>
      cases h
      exact uses_zero catalog requested draft

/-- Steps that mention at most one type each mention these types in order. -/
theorem Each.uses {α β : Type} {ref : α → Option TypeRef} {items : List α} {made : List β}
    (h : Each (fun item draft _ draft' =>
      draft.Uses ((ref item).toList.map catalog.mention) draft') items draft made draft') :
    draft.Uses ((items.filterMap ref).map catalog.mention) draft' := by
  induction h with
  | nil => exact uses_nil _
  | @cons item items draft mid draft' made more hfirst _ ih =>
      have hall := hfirst.trans ih
      cases href : ref item with
      | none =>
          rw [List.filterMap_cons_none href]
          rwa [href] at hall
      | some t =>
          rw [List.filterMap_cons_some href]
          rwa [href] at hall

theorem Binds.uses {nodes : List NodeId} {body : List Go.Binding}
    (h : Binds g nodes draft body draft') :
    draft.Uses ((nodes.filterMap g.provider?).map Provider.mention) draft' := by
  induction h with
  | nil => exact uses_nil _
  | @provider node nodes draft mid draft' made more t p edges hnode hfirst _ ih =>
      have hprovider : g.provider? node = some p := by rw [Graph.provider?, hnode]; rfl
      have hcall : draft.Uses [p.mention] mid := hfirst.imports
      rw [List.filterMap_cons_some hprovider]
      exact hcall.trans ih
  | @other node nodes draft draft' body hnode _ ih =>
      have hnone : g.provider? node = none := by
        rw [Graph.provider?]
        cases hget : g.nodes[node]? with
        | none => rfl
        | some made =>
            cases made with
            | provider t p edges => exact absurd hget (hnode t p edges)
            | external t position => rfl
            | zeroError => rfl
      rwa [List.filterMap_cons_none hnone]

/-- A function is written by mentioning what its graph says, in order. -/
theorem Written.uses {f : Go.Function} {signed typed zeroed : Draft}
    (h : Written catalog g draft f signed typed zeroed draft') :
    draft.Uses (g.uses catalog) draft' := by
  have hparams := (h.params.mono fun _ _ _ _ => uses_of_param).uses
  have hresults := (h.results.mono fun _ _ _ _ => uses_of_resultType).uses
  have hskipped := (h.skipped.mono fun _ _ _ _ => uses_of_skipped).uses
  rw [Graph.uses, Graph.usedTypes, List.map_append, List.map_append]
  exact ((hparams.trans hresults).trans hskipped).trans h.body.uses

end Draft

/-- What is told of the imports of a function: how many there are, how many of them go by another
name than their own, and how many of their types are used. -/
structure ImportFigures where
  imports : Nat
  renamed : Nat
  types : Nat
deriving DecidableEq, Repr

def Imports.figures (imports : Imports) : ImportFigures :=
  ⟨imports.size, imports.renamed, imports.typeCount⟩

/-- The function of a graph as a generator of its own writes it, and the figures of its imports. -/
def Catalog.generateAlone (catalog : Catalog) (g : Graph) :
    Except GenerationError (Artifact × ImportFigures) := do
  let (artifact, generator) ← (Generator.init catalog).generate g
  .ok (artifact, generator.imports.figures)

namespace Generator

variable {generator other mid after : Generator} {g : Graph} {graphs : List Graph}
  {artifact : Artifact} {made : List (Artifact × ImportFigures)}

/-- The functions of some graphs, one after the other, and what is told of the imports of each when
it is written. -/
def generateAll : Generator → List Graph →
    Except GenerationError (List (Artifact × ImportFigures) × Generator)
  | generator, [] => .ok ([], generator)
  | generator, g :: graphs => do
    let (artifact, generator) ← generator.generate g
    let (more, last) ← generateAll generator graphs
    .ok ((artifact, generator.imports.figures) :: more, last)

/-- What a generator has written before makes no difference. -/
theorem generate_congr (hcatalog : generator.catalog = other.catalog) (g : Graph) :
    generator.generate g = other.generate g := by
  rw [generate_eq, generate_eq, hcatalog]

theorem generateAlone_of_generate (h : generator.generate g = .ok (artifact, after)) :
    generator.catalog.generateAlone g = .ok (artifact, after.imports.figures) := by
  have halone : (init generator.catalog).generate g = .ok (artifact, after) :=
    (generate_congr rfl g).trans h
  exact Except.bind_eq_ok_iff.mpr ⟨_, halone, rfl⟩

/-- The import table of a generator is the one it had, cleared and used for what was written. -/
theorem after_of_generate (h : generator.generate g = .ok (artifact, after)) :
    after.catalog = generator.catalog ∧
      after.imports = (g.calls generator.catalog).foldl Imports.step generator.imports := by
  rw [generate_eq] at h
  obtain ⟨⟨f, last⟩, hfunction, heq⟩ := Except.bind_eq_ok_iff.mp h
  cases heq
  obtain ⟨signed, typed, zeroed, hwritten⟩ := Draft.exists_written hfunction
  refine ⟨rfl, ?_⟩
  rw [Graph.calls, List.foldl_cons, Imports.foldl_step_use, Imports.step, Imports.reset_eq]
  exact hwritten.uses

/-- A generator wrote the functions of some graphs, each as a generator of its own writes it. -/
structure Wrote (generator : Generator) (graphs : List Graph)
    (made : List (Artifact × ImportFigures)) (after : Generator) : Prop where
  run : generator.generateAll graphs = .ok (made, after)
  alone : List.Forall₂ (fun g one => generator.catalog.generateAlone g = .ok one) graphs made
  catalog : after.catalog = generator.catalog
  /-- One import table went through all of them. -/
  imports : after.imports =
    (graphs.flatMap (Graph.calls · generator.catalog)).foldl Imports.step generator.imports

theorem wrote_nil (generator : Generator) : generator.Wrote [] [] generator :=
  ⟨rfl, .nil, rfl, rfl⟩

theorem Wrote.cons (hfirst : generator.generate g = .ok (artifact, mid))
    (h : mid.Wrote graphs made after) :
    generator.Wrote (g :: graphs) ((artifact, mid.imports.figures) :: made) after := by
  obtain ⟨hcatalog, himports⟩ := after_of_generate hfirst
  obtain ⟨hrun, halone, hcatalog', himports'⟩ := h
  rw [hcatalog] at halone hcatalog' himports'
  refine ⟨?_, .cons (generateAlone_of_generate hfirst) halone, hcatalog', ?_⟩
  · exact Except.bind_eq_ok_iff.mpr ⟨_, hfirst, Except.bind_eq_ok_iff.mpr ⟨_, hrun, rfl⟩⟩
  · rw [List.flatMap_cons, List.foldl_append, ← himports, himports']

theorem exists_wrote (h : ∀ g ∈ graphs, g.IsResolved) (generator : Generator) :
    ∃ made after, generator.Wrote graphs made after := by
  induction graphs generalizing generator with
  | nil => exact ⟨[], generator, wrote_nil generator⟩
  | cons g graphs ih =>
      obtain ⟨⟨registry, request, hload⟩, hrest⟩ := List.forall_mem_cons.mp h
      obtain ⟨artifact, mid, hfirst⟩ := generator.exists_generate (Registry.writable_of_load hload)
      obtain ⟨made, after, hwrote⟩ := ih hrest mid
      exact ⟨_, after, hwrote.cons hfirst⟩

/-- A generator writes any graphs that requests are resolved to as generators of their own do,
whatever it has written before. So a graph that comes again gives the same again. -/
theorem wrote_of_isResolved (h : ∀ g ∈ graphs, g.IsResolved) (generator : Generator) :
    ∃ made after, generator.Wrote graphs made after ∧
      ∀ i j : Nat, graphs[i]? = graphs[j]? → made[i]? = made[j]? := by
  obtain ⟨made, after, hwrote⟩ := exists_wrote h generator
  refine ⟨made, after, hwrote, fun i j hsame => ?_⟩
  rw [List.getElem?_of_forall₂ hwrote.alone, List.getElem?_of_forall₂ hwrote.alone, hsame]

end Generator

namespace Sample

/-- A graph is written again after one of another registry. -/
theorem wrote_guarded : guarded.load request = .ok guardedGraph ∧
    servers.load serverRequest = .ok serverGraph ∧
    ∃ made after, (Generator.init guarded.catalog).Wrote
      [guardedGraph, serverGraph, guardedGraph] made after ∧ made[0]? = made[2]? := by
  have hresolved : ∀ g ∈ [guardedGraph, serverGraph, guardedGraph], g.IsResolved := by
    simp only [List.forall_mem_cons]
    exact ⟨⟨_, _, load_guarded⟩, ⟨_, _, load_servers⟩, ⟨_, _, load_guarded⟩, by simp⟩
  obtain ⟨made, after, hwrote, hagain⟩ :=
    Generator.wrote_of_isResolved hresolved (.init guarded.catalog)
  exact ⟨load_guarded, load_servers, made, after, hwrote, hagain 0 2 rfl⟩

end Sample

end Wiring
