import Wiring.Proofs.Consultation
import Wiring.Proofs.Walk

/-!
All that a substitution does for a request is to supply the last type of a chain. So a result can
be asked for by the type that is supplied for it, and a chain can be cut short, without a change to
what is built.
-/

namespace Wiring

open Resolution

/-- The type that is supplied for a dependency, asked for directly. Where substitutions come to a
loop nothing is supplied, and the dependency stays what it is. -/
def Dependency.direct (aliases : Aliases) (d : Dependency) : Dependency :=
  match d.type?.map aliases.resolve with
  | some (.ok t) => .type t
  | some (.error _) | none => d

/-- The same request, with each result asked for by the type that is supplied for it. -/
def Request.direct (request : Request) : Request :=
  { request with results := request.results.map (Dependency.direct request.aliases) }

/-- The same output, as the answer to a request for just the type it has. -/
def Output.direct : Output → Output
  | value node _ resolved => value node resolved resolved
  | error source => error source

def Graph.direct (g : Graph) : Graph :=
  { g with outputs := g.outputs.map Output.direct }

section Direct

variable {aliases : Aliases} {d : Dependency} {r t : TypeRef}

theorem Dependency.direct_of_error (h : d.type? = none) : d.direct aliases = d := by
  rw [direct, h, Option.map_none]

theorem Dependency.direct_of_ok (h : d.type? = some r) (hresolve : aliases.resolve r = .ok t) :
    d.direct aliases = .type t := by
  rw [direct, h, Option.map_some, hresolve]

theorem Dependency.direct_of_cycle {cycle : List TypeRef} (h : d.type? = some r)
    (hresolve : aliases.resolve r = .error cycle) : d.direct aliases = d := by
  rw [direct, h, Option.map_some, hresolve]

theorem Output.isError_direct (output : Output) : output.direct.isError = output.isError := by
  cases output <;> rfl

theorem Output.root?_direct (output : Output) : output.direct.root? = output.root? := by
  cases output <;> rfl

theorem Graph.order_direct (g : Graph) : g.direct.order = g.order := by
  have hroots : g.direct.outputs.filterMap Output.root? = g.outputs.filterMap Output.root? := by
    rw [direct, List.filterMap_map]
    exact List.filterMap_congr fun output _ => output.root?_direct
  have hnodes : g.direct.nodes = g.nodes := rfl
  have hwork : g.direct.work = g.work :=
    funext fun w => funext fun stack => work_congr hnodes w stack
  rw [order, order, hroots, hwork]
  rfl

end Direct

namespace Scope

variable {scope : Scope} {hoist : Bool}

/-- Types for which one type is supplied are resolved alike. -/
theorem resolve_congr {path : List TypeRef} {r r' : TypeRef} (s : Resolution scope path)
    (h : scope.aliases.resolve r' = scope.aliases.resolve r) :
    scope.resolve hoist s r' = scope.resolve hoist s r := by
  rw [resolve, resolve, h]

theorem type_of_resolve {path : List TypeRef} {s s' : Resolution scope path} {r : TypeRef}
    {supply : Supply} (h : scope.resolve hoist s r = .ok (supply, s')) :
    scope.aliases.resolve r = .ok supply.type := by
  cases resolved_of_ok h with
  | external halias _ => exact halias
  | reused halias _ _ _ => exact halias
  | built hopens _ => exact hopens.comesTo

/-- Results that are asked for directly are resolved to the same nodes, and the run ends in the same
state. -/
theorem resolveResults_direct (scope : Scope) (hoist : Bool) (s : Resolution scope [])
    (results : List Dependency) (hasError : Bool) :
    scope.resolveResults hoist (results.map (Dependency.direct scope.aliases)) hasError s =
      (scope.resolveResults hoist results hasError s).map
        fun answer => (answer.1.map Output.direct, answer.2) := by
  induction results generalizing s hasError with
  | nil => rfl
  | cons d rest ih =>
      cases htype : d.type? with
      | none =>
          rw [List.map_cons, Dependency.direct_of_error htype, resolveResults_of_error htype,
            resolveResults_of_error htype]
          cases hasError with
          | true => rfl
          | false =>
              simp only [Bool.false_eq_true, if_false, ih]
              cases scope.resolveResults hoist rest true s with
              | error e => rfl
              | ok answer => rfl
      | some r =>
          rw [List.map_cons, resolveResults_of_type htype]
          cases halias : scope.aliases.resolve r with
          | error cycle =>
              rw [Dependency.direct_of_cycle htype halias, resolveResults_of_type htype,
                resolve_of_aliasCycle hoist s halias]
              rfl
          | ok t =>
              have hdirect : (Dependency.type t).type? = some t := rfl
              have hsame : scope.resolve hoist s t = scope.resolve hoist s r :=
                resolve_congr s ((Aliases.resolve_resolve halias).trans halias.symm)
              rw [Dependency.direct_of_ok htype halias, resolveResults_of_type hdirect, hsame]
              cases hrun : scope.resolve hoist s r with
              | error e => rfl
              | ok made =>
                  obtain ⟨supply, mid⟩ := made
                  have hsupplied : t = supply.type :=
                    Except.ok.inj (halias.symm.trans (type_of_resolve hrun))
                  simp only [bind, Except.bind, ih]
                  cases scope.resolveResults hoist rest hasError mid with
                  | error e => rfl
                  | ok answer => simp [Except.map, Output.direct, hsupplied]

end Scope

namespace Registry

theorem settleError_direct (outputs : List Output) (fallible : Bool) (nodes : Array Node) :
    settleError (outputs.map Output.direct) fallible nodes =
      ((settleError outputs fallible nodes).1.map Output.direct,
        (settleError outputs fallible nodes).2) := by
  have hsettled : (fun output : Output =>
      if output.direct.isError then Output.error (.zero nodes.size) else output.direct) =
      fun output =>
        (if output.isError then Output.error (.zero nodes.size) else output).direct := by
    funext output
    cases output <;> rfl
  simp only [settleError, List.any_map, Function.comp_def, Output.isError_direct]
  cases fallible with
  | true =>
      simp only [if_true]
      split <;> simp [Output.direct]
  | false =>
      simp only [Bool.false_eq_true, if_false]
      split
      · simp only [List.map_map, Function.comp_def, hsettled]
      · rfl

variable {registry : Registry} {request : Request}

/-- What is concluded from results that were asked for directly. -/
theorem conclude_direct (outputs : List Output) (s : Resolution (registry.scope request) []) :
    registry.conclude request.direct (outputs.map Output.direct, s) =
      (registry.conclude request (outputs, s)).map Graph.direct := by
  have hgraph : registry.graph request.direct (outputs.map Output.direct) s =
      (registry.graph request outputs s).direct := by
    have hsettled := settleError_direct outputs s.fallible s.nodes
    have hput := congrArg (fun made : List Output × Array Node =>
      ({ registry.graph request outputs s with outputs := made.1, nodes := made.2 } : Graph))
      hsettled
    exact hput
  cases hunused : s.unused? with
  | some t =>
      have hdirect : registry.conclude request.direct (outputs.map Output.direct, s) =
          .error (.unusedParam t) := conclude_of_unused hunused
      rw [hdirect, conclude_of_unused hunused]
      rfl
  | none =>
      have hdirect : registry.conclude request.direct (outputs.map Output.direct, s) =
          .ok (registry.graph request.direct (outputs.map Output.direct) s) :=
        conclude_of_used hunused
      rw [hdirect, conclude_of_used hunused, hgraph]
      rfl

theorem load_direct (registry : Registry) (request : Request) :
    registry.load request.direct = (registry.load request).map Graph.direct := by
  cases hparams : paramTypes [] request.params with
  | error e =>
      have hparams' : paramTypes [] request.direct.params = .error e := hparams
      rw [load_of_paramTypes_error hparams, load_of_paramTypes_error hparams']
      rfl
  | ok types =>
      have hdeclares := (paramTypes_eq_ok.mp hparams).1
      have hdeclares' : request.direct.Declares := ⟨hdeclares.types, hdeclares.differ⟩
      -- The scope is the one of the request, since only its results are asked for otherwise.
      have hresults := Scope.resolveResults_direct (registry.scope request) request.hoist (start _)
        request.results false
      rw [load_of_declares hdeclares, load_of_declares hdeclares']
      refine (congrArg (· >>= registry.conclude request.direct) hresults).trans ?_
      cases (registry.scope request).resolveResults request.hoist request.results false
          (start _) with
      | error e => rfl
      | ok answer => exact conclude_direct answer.1 answer.2

/-- Substitutions act through what they supply: a request whose results are asked for directly has
the same graph but for the types that were asked for, or the same error, and a request is resolved
alike if a type is sent to the end of its chain at once. -/
theorem load_substituted (registry : Registry) (request : Request) :
    registry.load request.direct = (registry.load request).map Graph.direct ∧
      (∀ g : Graph, g.direct.order = g.order) ∧
      ∀ source target last, request.aliases.get? source = some target →
        request.aliases.resolve target = .ok last →
        registry.load { request with aliases := request.aliases.redirect source last } =
          registry.load request := by
  refine ⟨load_direct registry request, Graph.order_direct, ?_⟩
  intro source target last hget hlast
  exact load_congr_aliases registry request (Aliases.resolve_redirect hget hlast)

end Registry

namespace Sample

/-- A cart, and a diary for which the ledger stands by way of a journal. -/
def diaryRequest : Request :=
  { request with
    results := [.type (type "Cart"), .error, .type (type "Diary")]
    aliases := ⟨.ofList [(type "Diary", type "Journal"), (type "Journal", type "Ledger")]⟩ }

def diaryGraph : Graph :=
  { graph with
    outputs :=
      [.value 2 (type "Cart") (type "Cart"), .error (.zero 4),
        .value 3 (type "Diary") (type "Ledger")] }

/-- The ledger may be asked for directly, and the diary may be sent to it at once. -/
theorem load_diary :
    registry.load diaryRequest = .ok diaryGraph ∧
      registry.load diaryRequest.direct = .ok diaryGraph.direct ∧
      diaryRequest.aliases.get? (type "Diary") = some (type "Journal") ∧
      diaryRequest.aliases.resolve (type "Journal") = .ok (type "Ledger") ∧
      registry.load { diaryRequest with
        aliases := diaryRequest.aliases.redirect (type "Diary") (type "Ledger") } =
          .ok diaryGraph := by
  have hload : registry.load diaryRequest = .ok diaryGraph := by with_unfolding_all rfl
  have hget : diaryRequest.aliases.get? (type "Diary") = some (type "Journal") := by
    with_unfolding_all rfl
  have hlast : diaryRequest.aliases.resolve (type "Journal") = .ok (type "Ledger") := by
    with_unfolding_all rfl
  obtain ⟨hdirect, -, hredirect⟩ := Registry.load_substituted registry diaryRequest
  refine ⟨hload, ?_, hget, hlast, ?_⟩
  · rw [hdirect, hload]
    rfl
  · rw [hredirect _ _ _ hget hlast, hload]

end Sample

end Wiring
