import Wiring.Proofs.Importing
import Wiring.Proofs.Scoping

/-!
How a generated function spells types and constructors. Writing a name imports its package where
that is needed, and the name goes on meaning the same while the file grows. So in the end the import
block has the packages of the names that were written and no others.
-/

namespace Wiring

namespace Go

def ResultType.type? : ResultType → Option TypeExpr
  | value type => some type
  | error => none

/-- The type that a zero value names. -/
def Zero.type? : Zero → Option TypeExpr
  | literal type | fresh type => some type
  | nil | emptyString | falsehood | number => none

def Skipped.type? : Skipped → Option TypeExpr
  | zero value => value.type?
  | failure => none

/-- The names of packages that the text of a function has in its signature and its calls. -/
def Function.written (f : Function) : List Name :=
  f.params.map (fun param => param.type.name) ++
    f.results.filterMap (fun result => result.type?.map TypeExpr.name) ++
    f.body.map Binding.constructor

end Go

/-- A type expression means a type in a file with some imports. -/
structure Denotes (target : String) (specs : List (String × String)) (t : TypeRef)
    (e : Go.TypeExpr) : Prop where
  pointer : e.pointer = t.pointer
  name : e.name.name = t.name
  qualifier : Qualifies target specs t.importPath e.name.qualifier

/-- What was written for a type, if there was one, means it. -/
abbrev Spelled (target : String) (specs : List (String × String)) :
    Option TypeRef → Option Go.TypeExpr → Prop :=
  Option.Rel (Denotes target specs)

section Spelled

variable {target : String} {specs more : List (String × String)} {mid imports' : Imports}
  {used : List String} {t : TypeRef} {u : Option TypeRef} {d : Go.TypeExpr}
  {e : Option Go.TypeExpr}

theorem Spelled.imp {target' : String} (h : Spelled target specs u e)
    (himp : ∀ t d, Denotes target specs t d → Denotes target' more t d) :
    Spelled target' more u e := by
  cases h with
  | some hdenotes => exact .some (himp _ _ hdenotes)
  | none => exact .none

theorem Spelled.exists_of_type (h : Spelled target specs (some t) e) :
    ∃ d, e = some d ∧ Denotes target specs t d := by
  cases h with
  | some hdenotes => exact ⟨_, rfl, hdenotes⟩

theorem Spelled.exists_of_expr (h : Spelled target specs u (some d)) :
    ∃ t, u = some t ∧ Denotes target specs t d := by
  cases h with
  | some hdenotes => exact ⟨_, rfl, hdenotes⟩

theorem Denotes.mono (h : Denotes target specs t d) (hsub : specs ⊆ more) :
    Denotes target more t d :=
  ⟨h.pointer, h.name, h.qualifier.mono hsub⟩

theorem Imports.Covers.denotes (h : mid.Covers used imports')
    (hdenotes : Denotes mid.target mid.specs t d) : Denotes imports'.target imports'.specs t d :=
  ⟨hdenotes.pointer, hdenotes.name, h.qualifies hdenotes.qualifier⟩

end Spelled

/-- The type of a result as the request has it; an error result has none. -/
def Output.requested? : Output → Option TypeRef
  | value _ requested _ => some requested
  | error _ => none

/-- The type that the zero value of a type names: its own, unless there is a literal for it. -/
def Catalog.zeroType? (catalog : Catalog) (t : TypeRef) : Option TypeRef :=
  if t.pointer || t.isBuiltin then none
  else match (catalog.typeDecl? t).map TypeDecl.kind with
    | some .struct | none => some t
    | some .interface | some .map | some .slice | some .func | some .chan => none
    | some .string | some .bool | some .number => none

theorem Catalog.zeroType?_eq_some {catalog : Catalog} {t u : TypeRef}
    (h : catalog.zeroType? t = some u) : u = t := by
  unfold zeroType? at h
  split at h
  · cases h
  · split at h <;> cases h <;> rfl

namespace Graph

/-- The type that a node stands for. -/
def type? (g : Graph) (id : NodeId) : Option TypeRef :=
  g.nodes[id]? >>= Node.type?

/-- The packages of some types. -/
def typePaths (types : List TypeRef) : List String :=
  types.map TypeRef.importPath

def paramPaths (g : Graph) : List String :=
  typePaths (g.params.filterMap g.type?)

def resultPaths (g : Graph) : List String :=
  typePaths (g.outputs.filterMap Output.requested?)

/-- The function of a graph needs a package: for the type of a parameter or of a result, or for a
constructor. -/
inductive Mentions (g : Graph) : String → Prop where
  | param {id : NodeId} {t : TypeRef} (hid : id ∈ g.params) (ht : g.type? id = some t) :
      Mentions g t.importPath
  | result {node : NodeId} {requested resolved : TypeRef}
      (hmem : .value node requested resolved ∈ g.outputs) : Mentions g requested.importPath
  | provider {id : NodeId} {t : TypeRef} {p : Provider} {edges : List Edge}
      (hnode : g.nodes[id]? = some (.provider t p edges)) : Mentions g p.importPath

theorem mem_paramPaths {g : Graph} {path : String} :
    path ∈ g.paramPaths ↔ ∃ id ∈ g.params, ∃ t, g.type? id = some t ∧ t.importPath = path := by
  simp only [paramPaths, typePaths, List.mem_map, List.mem_filterMap]
  constructor
  · rintro ⟨t, ⟨id, hid, ht⟩, hpath⟩
    exact ⟨id, hid, t, ht, hpath⟩
  · rintro ⟨id, hid, t, ht, hpath⟩
    exact ⟨t, ⟨id, hid, ht⟩, hpath⟩

theorem mem_resultPaths {g : Graph} {path : String} :
    path ∈ g.resultPaths ↔
      ∃ node requested resolved, .value node requested resolved ∈ g.outputs ∧
        requested.importPath = path := by
  simp only [resultPaths, typePaths, List.mem_map, List.mem_filterMap]
  constructor
  · rintro ⟨t, ⟨output, hmem, ht⟩, hpath⟩
    cases output with
    | error source => cases ht
    | value node requested resolved =>
        cases ht
        exact ⟨node, _, resolved, hmem, hpath⟩
  · rintro ⟨node, requested, resolved, hmem, hpath⟩
    exact ⟨requested, ⟨_, hmem, rfl⟩, hpath⟩

end Graph

namespace Draft

variable {catalog : Catalog} {g : Graph} {draft mid draft' : Draft}

/-- A step wrote an expression for a type, if there was one, and imported its package. -/
structure Spells (draft : Draft) (t : Option TypeRef) (e : Option Go.TypeExpr) (draft' : Draft) :
    Prop where
  covers : draft.imports.Covers (Graph.typePaths t.toList) draft'.imports
  spelled : Spelled draft'.imports.target draft'.imports.specs t e

theorem spells_none (draft : Draft) : draft.Spells none none draft :=
  ⟨.refl draft.imports, .none⟩

theorem spells_typeExpr (catalog : Catalog) (t : TypeRef) (draft : Draft) :
    draft.Spells (some t) (some (typeExpr catalog t draft).1) (typeExpr catalog t draft).2 where
  covers := Imports.covers_addType draft.imports t.importPath _ t.name
  spelled := .some ⟨rfl, rfl, Imports.qualifies_addType draft.imports t.importPath _ t.name⟩

theorem spells_zero (catalog : Catalog) (t : TypeRef) (draft : Draft) :
    draft.Spells (catalog.zeroType? t) (zero catalog t draft).1.type? (zero catalog t draft).2 := by
  unfold zero Catalog.zeroType?
  by_cases hpointer : t.pointer = true
  · simp only [hpointer, Bool.true_or, if_true]
    exact spells_none draft
  by_cases hbuiltin : t.isBuiltin = true
  · simp only [hpointer, hbuiltin, Bool.or_true, if_true, Bool.false_eq_true, if_false]
    have hplain : (builtinZero t.name).type? = none := by
      unfold builtinZero
      split
      · rfl
      split
      · rfl
      split <;> rfl
    rw [hplain]
    exact spells_none draft
  simp only [hpointer, hbuiltin, Bool.or_self, Bool.false_eq_true, if_false]
  rcases (catalog.typeDecl? t).map TypeDecl.kind with _ | kind
  · exact spells_typeExpr catalog t draft
  · cases kind <;> first | exact spells_none draft | exact spells_typeExpr catalog t draft

theorem spells_of_param {node : NodeId} {made : Go.Param}
    (h : param catalog g node draft = .ok (made, draft')) :
    draft.Spells (g.type? node) (some made.type) draft' := by
  unfold param at h
  split at h
  case h_1 => cases h
  case h_2 t ht =>
    cases h
    rw [Graph.type?, ht]
    have hspells := spells_typeExpr catalog t draft
    exact ⟨hspells.covers, hspells.spelled⟩

theorem spells_of_resultType {output : Output} {made : Go.ResultType}
    (h : resultType catalog output draft = .ok (made, draft')) :
    draft.Spells output.requested? made.type? draft' := by
  cases output with
  | error source =>
      cases h
      exact spells_none draft
  | value node requested resolved =>
      cases h
      exact spells_typeExpr catalog requested draft

theorem spells_of_skipped {output : Output} {made : Go.Skipped}
    (h : skipped catalog output draft = .ok (made, draft')) :
    draft.Spells (output.requested? >>= catalog.zeroType?) made.type? draft' := by
  cases output with
  | error source =>
      cases h
      exact spells_none draft
  | value node requested resolved =>
      cases h
      exact spells_zero catalog requested draft

/-- Steps that spell types one after the other import their packages, and each of the types means
the same in the end. -/
theorem Each.spells {α β : Type} {ref : α → Option TypeRef} {expr : β → Option Go.TypeExpr}
    {items : List α} {made : List β}
    (h : Each (fun item draft made draft' => draft.Spells (ref item) (expr made) draft')
      items draft made draft') :
    draft.imports.Covers (Graph.typePaths (items.filterMap ref)) draft'.imports ∧
      List.Forall₂ (fun item made =>
        Spelled draft'.imports.target draft'.imports.specs (ref item) (expr made)) items made := by
  induction h with
  | nil => exact ⟨.refl _, .nil⟩
  | @cons item items draft mid draft' made more hfirst _ ih =>
      obtain ⟨hcovers, hspelled⟩ := ih
      constructor
      · have hall := hfirst.covers.trans hcovers
        rw [Graph.typePaths, Graph.typePaths, ← List.map_append] at hall
        cases href : ref item with
        | none =>
            rw [List.filterMap_cons_none href]
            rwa [href] at hall
        | some t =>
            rw [List.filterMap_cons_some href]
            rwa [href] at hall
      · exact .cons (hfirst.spelled.imp fun _ _ hone => hcovers.denotes hone) hspelled

/-- Bindings import the packages of their providers, and each constructor means the same in the
end. -/
theorem Binds.spells {nodes : List NodeId} {body : List Go.Binding}
    (h : Binds g nodes draft body draft') :
    draft.imports.Covers (body.map fun b => b.provider.importPath) draft'.imports ∧
      ∀ b ∈ body, b.constructor.name = b.provider.name ∧
        Qualifies draft'.imports.target draft'.imports.specs b.provider.importPath
          b.constructor.qualifier := by
  induction h with
  | nil => exact ⟨.refl _, fun b hb => absurd hb List.not_mem_nil⟩
  | @provider node nodes draft mid draft' made more t p edges hnode hfirst _ ih =>
      obtain ⟨hcovers, hqualifies⟩ := ih
      have hadd := Imports.covers_add draft.imports p.importPath p.package
      have hname := Imports.qualifies_add draft.imports p.importPath p.package
      rw [← hfirst.imports] at hadd hname
      rw [← hfirst.provider] at hadd hname
      constructor
      · exact hadd.trans hcovers
      · intro b hb
        rcases List.mem_cons.mp hb with rfl | hb
        · refine ⟨?_, hcovers.qualifies ?_⟩
          · rw [hfirst.constructor, hfirst.provider]
          · rw [hfirst.constructor, ← hfirst.provider]
            exact hname
        · exact hqualifies b hb
  | other _ _ ih => exact ih

namespace Written

variable {f : Go.Function} {target : String} {signed typed zeroed : Draft}

/-- The packages used until some bindings are made: those of the signature and of the calls so
far. The zero values use none besides. -/
theorem covers (h : Written catalog g (.init target) f signed typed zeroed draft')
    {nodes : List NodeId} {made : List Go.Binding} (hbinds : Binds g nodes zeroed made mid) :
    (Imports.empty target).Covers
      (g.paramPaths ++ g.resultPaths ++ made.map fun b => b.provider.importPath) mid.imports := by
  have hparams := (h.params.mono fun _ _ _ _ => spells_of_param).spells.1
  have hresults := (h.results.mono fun _ _ _ _ => spells_of_resultType).spells.1
  have hskipped := (h.skipped.mono fun _ _ _ _ => spells_of_skipped).spells.1
  refine (((hparams.trans hresults).trans hskipped).absorb ?_).trans hbinds.spells.1
  -- A zero value names the type of its result, which the signature has named before.
  intro path hpath
  obtain ⟨t, ht, hpath⟩ := List.mem_map.mp hpath
  obtain ⟨output, hmem, hzero⟩ := List.mem_filterMap.mp ht
  obtain ⟨requested, hrequested, hzero⟩ := Option.bind_eq_some_iff.mp hzero
  obtain rfl := Catalog.zeroType?_eq_some hzero
  exact List.mem_append_right _
    (List.mem_map.mpr ⟨t, List.mem_filterMap.mpr ⟨output, hmem, hrequested⟩, hpath⟩)

theorem sound (h : Written catalog g (.init target) f signed typed zeroed draft') :
    draft'.imports.Sound :=
  (h.covers h.body).sound (Imports.sound_empty target)

/-- What a result type or a parameter was written with is kept to the end. -/
theorem covers_typed (h : Written catalog g (.init target) f signed typed zeroed draft') :
    ∃ used, typed.imports.Covers used draft'.imports := by
  have hskipped := (h.skipped.mono fun _ _ _ _ => spells_of_skipped).spells.1
  exact ⟨_, hskipped.trans h.body.spells.1⟩

theorem covers_signed (h : Written catalog g (.init target) f signed typed zeroed draft') :
    ∃ used, signed.imports.Covers used draft'.imports := by
  have hresults := (h.results.mono fun _ _ _ _ => spells_of_resultType).spells.1
  obtain ⟨used, hlater⟩ := h.covers_typed
  exact ⟨_, hresults.trans hlater⟩

theorem spelled_params (h : Written catalog g (.init target) f signed typed zeroed draft') :
    List.Forall₂ (fun id (param : Go.Param) =>
      Spelled draft'.imports.target draft'.imports.specs (g.type? id) (some param.type))
      g.params f.params := by
  have hparams := (h.params.mono fun _ _ _ _ => spells_of_param).spells.2
  obtain ⟨used, hlater⟩ := h.covers_signed
  exact hparams.imp fun _ _ hone => hone.imp fun _ _ => hlater.denotes

theorem spelled_results (h : Written catalog g (.init target) f signed typed zeroed draft') :
    List.Forall₂ (fun (output : Output) (made : Go.ResultType) =>
      Spelled draft'.imports.target draft'.imports.specs output.requested? made.type?)
      g.outputs f.results := by
  have hresults := (h.results.mono fun _ _ _ _ => spells_of_resultType).spells.2
  obtain ⟨used, hlater⟩ := h.covers_typed
  exact hresults.imp fun _ _ hone => hone.imp fun _ _ => hlater.denotes

theorem spelled_skipped (h : Written catalog g (.init target) f signed typed zeroed draft') :
    List.Forall₂ (fun (output : Output) (made : Go.Skipped) =>
      Spelled draft'.imports.target draft'.imports.specs (output.requested? >>= catalog.zeroType?)
        made.type?) g.outputs f.skipped := by
  have hskipped := (h.skipped.mono fun _ _ _ _ => spells_of_skipped).spells.2
  have hlater := h.body.spells.1
  exact hskipped.imp fun _ _ hone => hone.imp fun _ _ => hlater.denotes

/-- Each package that is used stands before a name of the signature or of the calls. -/
theorem exists_name (h : Written catalog g (.init target) f signed typed zeroed draft')
    {path : String}
    (hpath : path ∈ g.paramPaths ++ g.resultPaths ++ f.body.map fun b => b.provider.importPath) :
    ∃ name ∈ f.written,
      Qualifies draft'.imports.target draft'.imports.specs path name.qualifier := by
  simp only [List.mem_append, or_assoc] at hpath
  rcases hpath with hparam | hresult | hcall
  · obtain ⟨id, hid, t, ht, rfl⟩ := Graph.mem_paramPaths.mp hparam
    obtain ⟨param, hmem, hspelled⟩ := List.exists_mem_of_forall₂ h.spelled_params hid
    rw [ht] at hspelled
    obtain ⟨type, heq, hdenotes⟩ := hspelled.exists_of_type
    cases heq
    refine ⟨param.type.name, ?_, hdenotes.qualifier⟩
    exact List.mem_append_left _ (List.mem_append_left _ (List.mem_map.mpr ⟨param, hmem, rfl⟩))
  · obtain ⟨node, requested, resolved, houtput, rfl⟩ := Graph.mem_resultPaths.mp hresult
    obtain ⟨made, hmem, hspelled⟩ := List.exists_mem_of_forall₂ h.spelled_results houtput
    obtain ⟨type, htype, hdenotes⟩ := hspelled.exists_of_type
    refine ⟨type.name, List.mem_append_left _ (List.mem_append_right _ ?_), hdenotes.qualifier⟩
    exact List.mem_filterMap.mpr ⟨made, hmem, by rw [htype, Option.map_some]⟩
  · obtain ⟨b, hb, rfl⟩ := List.mem_map.mp hcall
    refine ⟨b.constructor, List.mem_append_right _ (List.mem_map.mpr ⟨b, hb, rfl⟩), ?_⟩
    exact (h.body.spells.2 b hb).2

/-- An import is made for a name of the signature or of the calls. -/
theorem mem_qualifiers_written (h : Written catalog g (.init target) f signed typed zeroed draft')
    {path qualifier : String} (hspec : (path, qualifier) ∈ draft'.imports.specs) :
    some qualifier ∈ f.written.map Go.Name.qualifier := by
  have hused := ((h.covers h.body).paths path).mp (Imports.mem_paths_of_spec hspec)
  rw [or_iff_right (Imports.not_mem_paths_empty target path)] at hused
  obtain ⟨name, hname, hqualifies⟩ := h.exists_name hused.1
  rw [← h.sound.eq_some_of_qualifies hqualifies hspec]
  exact List.mem_map_of_mem hname

end Written

end Draft

namespace Artifact

def specs (artifact : Artifact) : List (String × String) :=
  artifact.imports.map Import.spec

/-- A file imports what its function needs, and its function spells types and constructors by these
imports. -/
structure WellSpelled (artifact : Artifact) (g : Graph) : Prop where
  /-- The text has a line for each import, and the names of the function with what stands for their
  packages. -/
  text : artifact.PrintsAs artifact.file
  paths : ∀ path, path ∈ artifact.imports.map Import.path ↔ Foreign g.target path ∧ g.Mentions path
  ascending : (artifact.imports.map Import.path).Pairwise (· < ·)
  qualifiers : (artifact.imports.map Import.qualifier).Nodup
  params : List.Forall₂ (fun id (param : Go.Param) =>
    ∃ t, g.type? id = some t ∧ Denotes g.target artifact.specs t param.type)
    g.params artifact.function.params
  results : List.Forall₂ (fun (output : Output) (made : Go.ResultType) =>
    Spelled g.target artifact.specs output.requested? made.type?)
    g.outputs artifact.function.results
  skipped : List.Forall₂ (fun (output : Output) (made : Go.Skipped) =>
    ∀ type, made.type? = some type →
      ∃ t, output.requested? = some t ∧ Denotes g.target artifact.specs t type)
    g.outputs artifact.function.skipped
  calls : ∀ b ∈ artifact.function.body, b.constructor.name = b.provider.name ∧
    (∃ t edges, g.nodes[b.node]? = some (.provider t b.provider edges)) ∧
    Qualifies g.target artifact.specs b.provider.importPath b.constructor.qualifier
  /-- No import is in vain. -/
  used : ∀ entry ∈ artifact.imports,
    some entry.qualifier ∈ artifact.function.written.map Go.Name.qualifier

end Artifact

namespace Registry

variable {registry : Registry} {request : Request} {g : Graph}

/-- The packages that a graph needs are those of its signature and of its bindings. -/
theorem mentions_iff (h : registry.load request = .ok g) {catalog : Catalog} {target : String}
    {f : Go.Function} {signed typed zeroed last : Draft}
    (hwritten : Draft.Written catalog g (.init target) f signed typed zeroed last) {path : String} :
    g.Mentions path ↔
      path ∈ g.paramPaths ++ g.resultPaths ++ f.body.map fun b => b.provider.importPath := by
  have hscoped := scoped_of_written h hwritten
  simp only [List.mem_append, or_assoc]
  constructor
  · rintro (⟨hid, ht⟩ | ⟨hmem⟩ | @⟨id, t, p, edges, hnode⟩)
    · exact Or.inl (Graph.mem_paramPaths.mpr ⟨_, hid, _, ht, rfl⟩)
    · exact Or.inr (Or.inl (Graph.mem_resultPaths.mpr ⟨_, _, _, hmem, rfl⟩))
    · obtain ⟨b, hb, rfl⟩ := List.mem_map.mp (hscoped.bound id t p edges hnode)
      obtain ⟨u, hcall⟩ := hscoped.calls b hb
      rw [hnode] at hcall
      cases hcall
      exact Or.inr (Or.inr (List.mem_map.mpr ⟨b, hb, rfl⟩))
  · rintro (hparam | hresult | hcall)
    · obtain ⟨id, hid, t, ht, rfl⟩ := Graph.mem_paramPaths.mp hparam
      exact .param hid ht
    · obtain ⟨node, requested, resolved, hmem, rfl⟩ := Graph.mem_resultPaths.mp hresult
      exact .result hmem
    · obtain ⟨b, hb, rfl⟩ := List.mem_map.mp hcall
      obtain ⟨t, hnode⟩ := hscoped.calls b hb
      exact .provider hnode

theorem wellSpelled_of_written (h : registry.load request = .ok g) {catalog : Catalog}
    {signed typed zeroed last : Draft} {artifact : Artifact}
    (hwritten : Draft.Written catalog g (.init g.target) artifact.function signed typed zeroed last)
    (himports : artifact.imports = last.imports.sorted) : artifact.WellSpelled g := by
  have hcovers := hwritten.covers hwritten.body
  have htarget : last.imports.target = g.target := hcovers.target
  have hlinked := hwritten.sound.linked
  have hspecs : ∀ spec, spec ∈ last.imports.specs ↔ spec ∈ artifact.specs := by
    rw [Artifact.specs, himports]
    exact fun spec => hlinked.mem_specs_iff
  have hdenotes : ∀ t d, Denotes last.imports.target last.imports.specs t d →
      Denotes g.target artifact.specs t d := by
    rw [htarget]
    exact fun t d hone => hone.mono fun spec hspec => (hspecs spec).mp hspec
  refine
    { text := artifact.printsAs_file
      paths := ?_
      ascending := ?_
      qualifiers := himports ▸ hlinked.nodup_qualifiers
      params := ?_
      results := hwritten.spelled_results.imp fun _ _ hone => hone.imp hdenotes
      skipped := ?_
      calls := ?_
      used := ?_ }
  · intro path
    rw [mentions_iff h hwritten, himports, ← hlinked.mem_paths_iff, hcovers.paths, and_comm,
      or_iff_right (Imports.not_mem_paths_empty g.target path)]
    rfl
  · rw [himports]
    exact hlinked.pairwise_sorted
  · refine hwritten.spelled_params.imp fun id param hone => ?_
    exact (hone.imp hdenotes).exists_of_expr
  · refine hwritten.spelled_skipped.imp fun output made hone type htype => ?_
    rw [htype] at hone
    obtain ⟨t, hzero, hmeans⟩ := (hone.imp hdenotes).exists_of_expr
    obtain ⟨requested, hrequested, hzero⟩ := Option.bind_eq_some_iff.mp hzero
    obtain rfl := Catalog.zeroType?_eq_some hzero
    exact ⟨t, hrequested, hmeans⟩
  · intro b hb
    obtain ⟨hname, hqualifies⟩ := hwritten.body.spells.2 b hb
    obtain ⟨t, hnode⟩ := (scoped_of_written h hwritten).calls b hb
    rw [htarget] at hqualifies
    exact ⟨hname, ⟨t, _, hnode⟩, hqualifies.mono fun spec hspec => (hspecs spec).mp hspec⟩
  · intro entry hentry
    exact hwritten.mem_qualifiers_written ((hspecs _).mpr (List.mem_map_of_mem hentry))

/-- Every graph of a request has a file that imports each package its signature and its calls need,
once and under a name of its own, and no other package; the types and constructors that it writes are
qualified by these imports, and those of the target and the builtin types are not. -/
theorem wellSpelled_of_load (h : registry.load request = .ok g) (generator : Generator) :
    ∃ artifact after, generator.generate g = .ok (artifact, after) ∧ artifact.WellSpelled g := by
  obtain ⟨artifact, after, signed, typed, zeroed, last, hgenerate, hwritten, himports⟩ :=
    written_of_load h generator
  exact ⟨artifact, after, hgenerate, wellSpelled_of_written h hwritten himports⟩

end Registry

namespace Sample

theorem wellSpelled_guarded : guarded.load request = .ok guardedGraph ∧
    ∃ artifact after, (Generator.init guarded.catalog).generate guardedGraph =
      .ok (artifact, after) ∧ artifact.WellSpelled guardedGraph :=
  ⟨load_guarded, Registry.wellSpelled_of_load load_guarded (.init guarded.catalog)⟩

end Sample

end Wiring
