import Wiring.Proofs.ErrorResult
import Wiring.Proofs.Indexing
import Wiring.Proofs.References
import Wiring.Proofs.Rejection

/-!
From a command to the signature of its function. What a command lists are types of packages, never
the builtin error, so that a function which returns anything returns exactly one error, at the end.
-/

namespace Wiring

theorem TypeRef.isBuiltin_of_parseQualified {text : String} {t : TypeRef}
    (h : parseQualified text = .ok t) : t.isBuiltin = false :=
  beq_eq_false_iff_ne.mpr (parseQualified_eq_ok_iff.mp h).2

theorem Dependency.ofType_of_package {t : TypeRef} (h : t.isBuiltin = false) :
    ofType t = .type t := by
  simp [ofType, TypeRef.isError, h]

/-- A function with results besides the error has them in parentheses. -/
theorem Go.Function.resultText_of_values {f : Go.Function} {types : List Go.TypeExpr}
    (hne : types ≠ []) (h : f.results = types.map .value ++ [.error]) :
    f.resultText = " (" ++ ", ".intercalate (types.map Go.TypeExpr.render ++ ["error"]) ++ ")" := by
  have htexts : f.results.map Go.ResultType.render = types.map Go.TypeExpr.render ++ ["error"] := by
    rw [h, List.map_append, List.map_map]
    rfl
  rw [← htexts]
  cases types with
  | nil => exact absurd rfl hne
  | cons first rest =>
      cases rest with
      | nil => simp only [resultText, h, Go.commaSeparated, List.map_cons, List.map_nil,
          List.cons_append, List.nil_append]
      | cons second rest => simp only [resultText, h, Go.commaSeparated, List.map_cons,
          List.cons_append]

namespace Registry

variable {registry : Registry} {request : Request} {g : Graph}

/-- A graph has the name and the target of its request, and its parameters are its first nodes. -/
theorem head_of_load (h : registry.load request = .ok g) : g.name = request.name ∧
    g.target = request.target ∧ g.params = List.range request.paramTypes.length := by
  obtain ⟨-, outputs, s, -, -, rfl⟩ := exists_of_load_ok h
  exact ⟨rfl, rfl, rfl⟩

/-- The parameters of a graph have the types that were declared, in order. -/
theorem map_type?_of_load (h : registry.load request = .ok g) :
    g.params.map g.type? = request.paramTypes.map some := by
  rw [(head_of_load h).2.2]
  refine List.ext_getElem (by simp) fun id hid _ => ?_
  have hlt : id < request.paramTypes.length := by simpa using hid
  rw [List.getElem_map, List.getElem_map, List.getElem_range, Graph.type?, external_of_load h hlt]
  rfl

/-- A graph returns what was asked for and no more if an error was asked for, or nothing. -/
theorem map_requested?_of_load (h : registry.load request = .ok g)
    (hsettled : request.hasErrorResult = true ∨ request.results = []) :
    g.outputs.map Output.requested? = request.results.map Dependency.type? := by
  have hresults := (errorSettled_of_load h).results
  have hnone : (g.isFallible && !request.hasErrorResult) = false := by
    rcases hsettled with hdeclared | hempty
    · rw [hdeclared, Bool.not_true, Bool.and_false]
    -- A provider that fails would stand below a value, and nothing is returned.
    · rw [Bool.and_eq_false_iff, ← Bool.not_eq_true]
      refine Or.inl fun hfails => ?_
      obtain ⟨id, t, p, edges, hnode, -⟩ := Graph.isFallible_iff.mp hfails
      obtain ⟨position, root, r, u, hposition, -⟩ := exists_below h ⟨p, edges, hnode⟩
      have hmem := List.mem_map_of_mem (f := Output.requested?) (List.mem_of_getElem? hposition)
      rw [hresults, hempty] at hmem
      split at hmem <;> simp [Output.requested?] at hmem
  rw [hresults, hnone, if_neg Bool.false_ne_true, List.append_nil]

end Registry

namespace Command

variable {w : Workspace} {command : Command} {module : Module} {config : Config}
  {request made : Request} {registry : Registry} {g : Graph} {text : String} {t : TypeRef}

/-- What a reference is read as is a type of a package, however it is written. -/
theorem isBuiltin_of_reference (h : w.eval (reference module text) = .ok t) :
    t.isBuiltin = false := by
  unfold reference at h
  split at h
  case h_1 star importPart name hsplit =>
    rw [Workspace.eval_bind] at h
    obtain ⟨path, -, h⟩ := Except.bind_eq_ok_iff.mp h
    split at h
    case h_1 u hparse =>
      have hu := TypeRef.isBuiltin_of_parseQualified hparse
      cases h
      cases star with
      | true => exact hu
      | false => exact hu
    case h_2 => cases h
  case h_2 => cases h

theorem name_of_addSubstitution {pair : String × String}
    (h : w.eval (addSubstitution module request pair) = .ok made) : made.name = request.name := by
  rw [addSubstitution, Workspace.eval_bind] at h
  obtain ⟨source, -, h⟩ := Except.bind_eq_ok_iff.mp h
  rw [Workspace.eval_bind] at h
  obtain ⟨target, -, h⟩ := Except.bind_eq_ok_iff.mp h
  obtain ⟨aliases, -, rfl⟩ := Request.addAlias_eq_ok_iff.mp (Except.mapError_eq_ok_iff.mp h)
  rfl

theorem name_of_addSubstitutions {pairs : List (String × String)}
    (h : w.eval (pairs.foldlM (addSubstitution module) request) = .ok made) :
    made.name = request.name := by
  induction pairs generalizing request with
  | nil =>
      cases h
      rfl
  | cons pair pairs ih =>
      rw [List.foldlM_cons, Workspace.eval_bind] at h
      obtain ⟨next, hnext, h⟩ := Except.bind_eq_ok_iff.mp h
      exact (ih h).trans (name_of_addSubstitution hnext)

/-- A request accepts and returns values of some types, and an error if there is anything to
return. -/
structure Asks (w : Workspace) (command : Command) (module : Module) (request : Request)
    (params results : List TypeRef) : Prop where
  name : request.name = command.name
  externals : List.Forall₂ (fun text t => w.eval (reference module text) = .ok t)
    command.externals params
  dependencies : List.Forall₂ (fun text t => w.eval (reference module text) = .ok t)
    command.dependencies results
  params : request.params = params.map .param
  results : request.results = results.map .type ++ if results = [] then [] else [.error]

theorem exists_asks (h : w.eval (command.request module config) = .ok request) :
    ∃ params results, Asks w command module request params results := by
  unfold Command.request at h
  simp only [Workspace.eval_bind] at h
  obtain ⟨target, -, h⟩ := Except.bind_eq_ok_iff.mp h
  obtain ⟨made, hmade, h⟩ := Except.bind_eq_ok_iff.mp h
  obtain ⟨params, hparams, h⟩ := Except.bind_eq_ok_iff.mp h
  obtain ⟨results, hresults, h⟩ := Except.bind_eq_ok_iff.mp h
  rw [Workspace.eval_mapM] at hparams hresults
  have hdependencies := List.mapM_eq_ok_iff.mp hresults
  cases h
  refine ⟨params, results, name_of_addSubstitutions hmade, List.mapM_eq_ok_iff.mp hparams,
    hdependencies, rfl, ?_⟩
  have hvalues : results.map Dependency.ofType = results.map .type := by
    refine List.map_congr_left fun t ht => ?_
    obtain ⟨text, -, hread⟩ := List.exists_mem_of_forall₂ hdependencies.flip ht
    exact Dependency.ofType_of_package (isBuiltin_of_reference hread)
  have hempty : command.dependencies.isEmpty = true ↔ results = [] :=
    List.isEmpty_iff.trans (List.eq_nil_iff_of_forall₂ hdependencies)
  simp only [hvalues, hempty]

namespace Asks

variable {params results : List TypeRef}

theorem isError_params (h : Asks w command module request params results) :
    ∀ param ∈ request.params, param.isError = false := by
  rw [h.params]
  intro param hmem
  obtain ⟨t, -, rfl⟩ := List.mem_map.mp hmem
  rfl

theorem countP_isError (h : Asks w command module request params results) :
    request.results.countP Dependency.isError ≤ 1 := by
  have hvalues : (results.map Dependency.type).countP Dependency.isError = 0 := by
    rw [List.countP_map]
    exact List.countP_eq_zero.mpr fun _ _ => Bool.false_ne_true
  rw [h.results, List.countP_append, hvalues, Nat.zero_add]
  split
  · exact Nat.zero_le 1
  · exact Nat.le_refl 1

theorem settled (h : Asks w command module request params results) :
    request.hasErrorResult = true ∨ request.results = [] := by
  rw [Request.hasErrorResult, h.results]
  by_cases hempty : results = []
  · simp [hempty]
  · simp [hempty, Dependency.isError]

theorem paramTypes_eq (h : Asks w command module request params results) :
    request.paramTypes = params := by
  rw [Request.paramTypes, h.params, List.filterMap_map]
  exact List.filterMap_some

theorem map_type? (h : Asks w command module request params results) :
    request.results.map Dependency.type? =
      results.map some ++ if results = [] then [] else [none] := by
  rw [h.results, List.map_append, List.map_map]
  congr 1
  split <;> rfl

end Asks

/-- A type is spelled in a file for what a reference is read as. -/
def Spells (w : Workspace) (module : Module) (target : String) (specs : List (String × String))
    (text : String) (type : Go.TypeExpr) : Prop :=
  ∃ t, w.eval (reference module text) = .ok t ∧ Denotes target specs t type

/-- A file has the function that a command lists: a parameter for each external and a result for
each dependency, in order. The error comes last, and only if there is a dependency. -/
structure Signs (w : Workspace) (command : Command) (module : Module) (target : String)
    (artifact : Artifact) : Prop where
  params : List.Forall₂ (fun text (param : Go.Param) =>
    Spells w module target artifact.specs text param.type)
    command.externals artifact.function.params
  results : command.dependencies ≠ [] → ∃ types : List Go.TypeExpr,
    List.Forall₂ (Spells w module target artifact.specs) command.dependencies types ∧
    artifact.function.results = types.map .value ++ [.error] ∧
    artifact.function.signature = "func " ++ command.name ++ "(" ++
      ", ".intercalate (artifact.function.params.map Go.Param.render) ++ ")" ++
      (" (" ++ ", ".intercalate (types.map Go.TypeExpr.render ++ ["error"]) ++ ")")
  silent : command.dependencies = [] → artifact.function.results = [] ∧
    artifact.function.signature = "func " ++ command.name ++ "(" ++
      ", ".intercalate (artifact.function.params.map Go.Param.render) ++ ")"

end Command

namespace Artifact.WellSpelled

variable {artifact : Artifact} {g : Graph} {params results : List TypeRef}

theorem forall₂_params (h : artifact.WellSpelled g)
    (hparams : g.params.map g.type? = params.map some) :
    List.Forall₂ (fun t (param : Go.Param) => Denotes g.target artifact.specs t param.type)
      params artifact.function.params := by
  have hspelled : List.Forall₂ (fun u (param : Go.Param) =>
      ∃ t, u = some t ∧ Denotes g.target artifact.specs t param.type)
      (g.params.map g.type?) artifact.function.params := List.forall₂_map_left_iff.mpr h.params
  rw [hparams, List.forall₂_map_left_iff] at hspelled
  refine hspelled.imp fun t param hone => ?_
  obtain ⟨u, hu, hdenotes⟩ := hone
  cases hu
  exact hdenotes

/-- Where the error stands at the end only, all results before it are types. -/
theorem exists_types (h : artifact.WellSpelled g)
    (houtputs : g.outputs.map Output.requested? = results.map some ++ [none]) :
    ∃ types : List Go.TypeExpr,
      List.Forall₂ (Denotes g.target artifact.specs) results types ∧
      artifact.function.results = types.map .value ++ [.error] := by
  have hspelled : List.Forall₂ (fun u (made : Go.ResultType) =>
      Spelled g.target artifact.specs u made.type?)
      (g.outputs.map Output.requested?) artifact.function.results :=
    List.forall₂_map_left_iff.mpr h.results
  rw [houtputs] at hspelled
  obtain ⟨values, last, heq, hvalues, hlast⟩ := List.exists_of_forall₂_append hspelled
  have hmade : List.Forall₂ (fun t made =>
      ∃ type, made = .value type ∧ Denotes g.target artifact.specs t type) results values := by
    refine (List.forall₂_map_left_iff.mp hvalues).imp fun t made hone => ?_
    obtain ⟨type, htype, hdenotes⟩ := hone.exists_of_type
    cases made with
    | error => cases htype
    | value type' =>
        cases htype
        exact ⟨type, rfl, hdenotes⟩
  obtain ⟨types, rfl, htypes⟩ := List.exists_map_of_forall₂ hmade
  refine ⟨types, htypes, ?_⟩
  cases hlast with
  | @cons _ made _ _ hone hnil =>
      cases hnil
      cases made with
      | value type => cases hone
      | error => exact heq

end Artifact.WellSpelled

namespace Command.Asks

variable {w : Workspace} {command : Command} {module : Module} {request : Request}
  {params results : List TypeRef} {registry : Registry} {g : Graph}

/-- The function that is generated for a graph has the signature that was asked for. -/
theorem signs_of_load (h : Asks w command module request params results)
    (hload : registry.load request = .ok g) (generator : Generator) :
    ∃ artifact after, generator.generate g = .ok (artifact, after) ∧
      Signs w command module request.target artifact := by
  obtain ⟨artifact, after, signed, typed, zeroed, last, hgenerate, hwritten, himports⟩ :=
    Registry.written_of_load hload generator
  have hspelled := Registry.wellSpelled_of_written hload hwritten himports
  obtain ⟨hgraph, htarget, -⟩ := Registry.head_of_load hload
  have hname : artifact.function.name = command.name :=
    (hwritten.name.trans hgraph).trans h.name
  have houtputs := (Registry.map_requested?_of_load hload h.settled).trans h.map_type?
  refine ⟨artifact, after, hgenerate, ?_⟩
  rw [← htarget]
  refine
    { params := ?_
      results := ?_
      silent := ?_ }
  · have htypes := Registry.map_type?_of_load hload
    rw [h.paramTypes_eq] at htypes
    exact List.forall₂_comp h.externals (hspelled.forall₂_params htypes)
  · intro hsome
    have hne : results ≠ [] := mt (List.eq_nil_iff_of_forall₂ h.dependencies).mpr hsome
    rw [if_neg hne] at houtputs
    obtain ⟨types, htypes, hresults⟩ := hspelled.exists_types houtputs
    have htypesne : types ≠ [] := mt (List.eq_nil_iff_of_forall₂ htypes).mpr hne
    refine ⟨types, List.forall₂_comp h.dependencies htypes, hresults, ?_⟩
    rw [Go.Function.signature, Go.Function.resultText_of_values htypesne hresults, hname]
    rfl
  · intro hnone
    have hempty : results = [] := (List.eq_nil_iff_of_forall₂ h.dependencies).mp hnone
    rw [hempty, if_pos rfl] at houtputs
    have hresults : artifact.function.results = [] :=
      (List.eq_nil_iff_of_forall₂ hspelled.results).mp (List.map_eq_nil_iff.mp houtputs)
    refine ⟨hresults, ?_⟩
    rw [Go.Function.signature, Go.Function.resultText, hresults, hname, String.append_empty]
    rfl

end Command.Asks

/-- What a command comes to has the signature that the command asks for. -/
theorem Command.signs_of_run {w : Workspace} {command : Command} {generated : Generated}
    (h : w.eval command.run = .ok generated) :
    ∃ module target, w.eval (Module.find command.directory) = .ok module ∧
      command.Signs w module target generated.artifact := by
  unfold run at h
  simp only [Workspace.eval_bind] at h
  obtain ⟨module, hmodule, h⟩ := Except.bind_eq_ok_iff.mp h
  obtain ⟨config, -, h⟩ := Except.bind_eq_ok_iff.mp h
  obtain ⟨request, hrequest, h⟩ := Except.bind_eq_ok_iff.mp h
  obtain ⟨registry, -, h⟩ := Except.bind_eq_ok_iff.mp h
  obtain ⟨g, hload, h⟩ := Except.bind_eq_ok_iff.mp h
  obtain ⟨artifact, hgenerated, h⟩ := Except.bind_eq_ok_iff.mp h
  cases h
  obtain ⟨params, results, hasks⟩ := exists_asks hrequest
  obtain ⟨made, after, hgenerate, hsigns⟩ :=
    hasks.signs_of_load (Except.mapError_eq_ok_iff.mp hload) (.init registry.catalog)
  have hartifact : registry.catalog.generate g = .ok artifact :=
    Except.mapError_eq_ok_iff.mp hgenerated
  rw [Catalog.generate, hgenerate] at hartifact
  cases hartifact
  exact ⟨module, request.target, Except.mapError_eq_ok_iff.mp hmodule, hsigns⟩

/-- The request of a command is never rejected for its error, whatever the registry knows. If it has
a graph, then this has a function, with a parameter for each external, and a result for each
dependency and one error after them, or no result at all. -/
theorem Command.signs_of_request {w : Workspace} {command : Command} {module : Module}
    {config : Config} {request : Request} (h : w.eval (command.request module config) = .ok request)
    (registry : Registry) :
    registry.load request ≠ .error .errorParam ∧
    registry.load request ≠ .error .duplicateErrorResult ∧
    ∀ g, registry.load request = .ok g → ∀ generator : Generator,
      ∃ artifact after, generator.generate g = .ok (artifact, after) ∧
        command.Signs w module request.target artifact := by
  obtain ⟨params, results, hasks⟩ := exists_asks h
  exact ⟨Registry.load_ne_errorParam hasks.isError_params,
    Registry.load_ne_duplicateErrorResult hasks.countP_isError,
    fun g hload generator => hasks.signs_of_load hload generator⟩

namespace Sample

/-- A cart is asked for by the path of its package, and the clock by the directory of it. -/
def cartCommand : Command :=
  { stockCommand with name := "Open", externals := ["..Clock"], dependencies := ["*shop.Cart"] }

def cartRequest : Request where
  name := "Open"
  target := "shop"
  params := [.param (type "Clock")]
  results := [.type ((type "Cart").withPointer true), .error]
  aliases := ∅
  hoist := false

def cartGraph : Graph where
  name := "Open"
  target := "shop"
  hoist := false
  nodes :=
    let clock := type "Clock"
    let store := (type "Store").withPointer true
    let cart := (type "Cart").withPointer true
    #[.external clock 0,
      .provider store (literal store [⟨some "Clock", clock⟩]) [⟨0, 0, clock, clock⟩],
      .provider cart (literal cart [⟨some "Store", store⟩, ⟨some "Clock", clock⟩])
        [⟨1, 0, store, store⟩, ⟨0, 1, clock, clock⟩],
      .zeroError]
  params := [0]
  outputs :=
    let cart := (type "Cart").withPointer true
    [.value 2 cart cart, .error (.zero 3)]

theorem request_cart :
    stockroom.eval (cartCommand.request stockModule .default) = .ok cartRequest := by
  have htarget : stockroom.eval (Command.importPath stockModule cartCommand.target) =
      .ok "shop" := by
    decide +kernel
  have hparams : cartCommand.externals.mapM (fun text =>
      stockroom.eval (Command.reference stockModule text)) = .ok [type "Clock"] := by
    decide +kernel
  have hresults : cartCommand.dependencies.mapM (fun text =>
      stockroom.eval (Command.reference stockModule text)) =
        .ok [(type "Cart").withPointer true] := by
    decide +kernel
  simp only [Command.request, Workspace.eval_bind, Workspace.eval_mapM]
  rw [htarget, hparams, hresults]
  rfl

theorem load_cart : registry.load cartRequest = .ok cartGraph := by
  with_unfolding_all rfl

theorem signs_cart :
    stockroom.eval (cartCommand.request stockModule .default) = .ok cartRequest ∧
    registry.load cartRequest ≠ .error .errorParam ∧
    registry.load cartRequest ≠ .error .duplicateErrorResult ∧
    registry.load cartRequest = .ok cartGraph ∧
    ∃ artifact after, (Generator.init registry.catalog).generate cartGraph = .ok (artifact, after) ∧
      cartCommand.Signs stockroom stockModule "shop" artifact := by
  obtain ⟨hparam, hresult, hsigns⟩ := Command.signs_of_request request_cart registry
  exact ⟨request_cart, hparam, hresult, load_cart, hsigns cartGraph load_cart _⟩

end Sample

end Wiring
