import Wiring.Proofs.Request
import Wiring.Proofs.Verdict

/-!
Using nodes again changes how much of a graph is shared and nothing else: what a request comes to,
an error or a graph with everything written out, is the same with and without it.
-/

namespace Wiring

open Resolution

namespace Answer

def isError : Answer → Bool
  | value .. => false
  | propagated | nilError => true

theorem isError_ofOutput (nodes : Array Node) (output : Output) :
    (ofOutput nodes output).isError = output.isError := by
  cases output with
  | value node requested resolved => rfl
  | error source => cases source <;> rfl

/-- Decides where the error comes from, as it is decided for the outputs of a graph. -/
def settle (answers : List Answer) (fallible : Bool) : List Answer :=
  let declared := answers.any isError
  if fallible then
    if !declared && answers.any (!isError ·) then answers ++ [.propagated] else answers
  else if declared then
    answers.map fun answer => if answer.isError then .nilError else answer
  else
    answers

/-- What stands below the outputs does not change when the error is settled. -/
theorem ofOutput_settleError {outputs : List Output} {nodes : Array Node} {fallible : Bool}
    (hbound : ∀ output ∈ outputs, ∀ node, output.value? = some node → node < nodes.size) :
    (Registry.settleError outputs fallible nodes).1.map
        (ofOutput (Registry.settleError outputs fallible nodes).2) =
      settle (outputs.map (ofOutput nodes)) fallible := by
  have herror : (outputs.map (ofOutput nodes)).any isError = outputs.any Output.isError := by
    simp [List.any_map, Function.comp_def, isError_ofOutput]
  have hvalue : (outputs.map (ofOutput nodes)).any (!isError ·) =
      outputs.any (!Output.isError ·) := by
    simp [List.any_map, Function.comp_def, isError_ofOutput]
  unfold Registry.settleError settle
  rw [herror, hvalue]
  cases fallible with
  | true =>
      simp only [if_true]
      split
      · rw [List.map_append]
        rfl
      · rfl
  | false =>
      simp only [Bool.false_eq_true, if_false]
      cases outputs.any Output.isError with
      | false => rfl
      | true =>
          simp only [if_true, List.map_map]
          refine List.map_congr_left fun output hmem => ?_
          simp only [Function.comp_apply, isError_ofOutput]
          split
          · rfl
          · exact ofOutput_of_grown (by simp) (hbound output hmem)

end Answer

/-- A graph with everything written out that stands below its outputs. -/
structure Blueprint where
  name : String
  target : String
  params : List NodeId
  answers : List Answer

/-- What a graph says when every use of a node is written out on its own. -/
def Graph.blueprint (g : Graph) : Blueprint where
  name := g.name
  target := g.target
  params := g.params
  answers := g.outputs.map (Answer.ofOutput g.nodes)

namespace Scope

variable {scope : Scope} {results : List Dependency} {hasError hoist hoist' : Bool}
  {outputs outputs' : List Output} {s s' : Resolution scope []}

/-- Two runs that end well use the same parameters, whichever nodes they used again. -/
theorem unused?_eq_of_resolveResults
    (h : scope.resolveResults hoist results hasError (start scope) = .ok (outputs, s))
    (h' : scope.resolveResults hoist' results hasError (start scope) = .ok (outputs', s')) :
    s.unused? = s'.unused? := by
  have hd := delivers_of_resolveResults h (sound_start scope)
  have hd' := delivers_of_resolveResults h' (sound_start scope)
  have hused : ∀ i, i ∈ s.used ↔ i ∈ s'.used := fun i => by rw [hd.used, hd'.used]
  simp only [unused?, hused]

theorem fallible_eq_of_resolveResults
    (h : scope.resolveResults hoist results hasError (start scope) = .ok (outputs, s))
    (h' : scope.resolveResults hoist' results hasError (start scope) = .ok (outputs', s')) :
    s.fallible = s'.fallible := by
  have hd := delivers_of_resolveResults h (sound_start scope)
  have hd' := delivers_of_resolveResults h' (sound_start scope)
  rw [Bool.eq_iff_iff, hd.fallible, hd'.fallible]

end Scope

namespace Registry

variable {registry : Registry} {request : Request}

/-- What a request comes to after a run, when everything is written out. -/
def outcome (registry : Registry) (request : Request)
    (run : Except ResolveError (List Output × Resolution (registry.scope request) [])) :
    Except ResolveError Blueprint := do
  let (outputs, s) ← run
  match s.unused? with
  | some t => .error (.unusedParam t)
  | none =>
    .ok
      { name := request.name
        target := request.target
        params := List.range request.paramTypes.length
        answers := Answer.settle (outputs.map (Answer.ofOutput s.nodes)) s.fallible }

theorem blueprint_load (hdeclares : request.Declares) :
    (registry.load request).map Graph.blueprint =
      registry.outcome request ((registry.scope request).resolveResults request.hoist
        request.results false (start _)) := by
  rw [load_of_declares hdeclares]
  cases hresults : (registry.scope request).resolveResults request.hoist request.results false
      (start _) with
  | error e => rfl
  | ok answer =>
      obtain ⟨outputs, s⟩ := answer
      have hbound := (Scope.delivers_of_resolveResults hresults (sound_start _)).bound
      simp only [outcome, conclude, bind, Except.bind]
      cases s.unused? with
      | some t => rfl
      | none => simp only [Except.map, Graph.blueprint, graph, Answer.ofOutput_settleError hbound]

/-- Runs come to the same, whether they use nodes again or not. -/
theorem outcome_resolveResults (registry : Registry) (request : Request) (hoist hoist' : Bool) :
    registry.outcome request
        ((registry.scope request).resolveResults hoist request.results false (start _)) =
      registry.outcome request
        ((registry.scope request).resolveResults hoist' request.results false (start _)) := by
  have hexpand := Scope.resolveResults_eq_expandResults hoist request.results false
    (sound_start (registry.scope request))
  have hexpand' := Scope.resolveResults_eq_expandResults hoist' request.results false
    (sound_start (registry.scope request))
  cases hrun : (registry.scope request).resolveResults hoist request.results false (start _) with
  | error e =>
      rw [← hexpand, hrun] at hexpand'
      cases hrun' : (registry.scope request).resolveResults hoist' request.results false
          (start _) with
      | error e' =>
          simp only [hrun', Except.map, Except.error.injEq] at hexpand'
          rw [hexpand']
      | ok answer => simp [hrun', Except.map] at hexpand'
  | ok answer =>
      rw [← hexpand, hrun] at hexpand'
      cases hrun' : (registry.scope request).resolveResults hoist' request.results false
          (start _) with
      | error e' => simp [hrun', Except.map] at hexpand'
      | ok answer' =>
          simp only [hrun', Except.map, Except.ok.injEq] at hexpand'
          simp only [outcome, bind, Except.bind, hexpand',
            Scope.unused?_eq_of_resolveResults hrun hrun',
            Scope.fallible_eq_of_resolveResults hrun hrun']

/-- A request with and without hoisting either fails with the same error or succeeds with graphs
that are the same when everything is written out. -/
theorem load_hoist (registry : Registry) (request : Request) :
    (registry.load { request with hoist := true }).map Graph.blueprint =
      (registry.load { request with hoist := false }).map Graph.blueprint := by
  cases hparams : paramTypes [] request.params with
  | error e =>
      have hshared : paramTypes [] { request with hoist := true }.params = .error e := hparams
      have hcopied : paramTypes [] { request with hoist := false }.params = .error e := hparams
      rw [load_of_paramTypes_error hshared, load_of_paramTypes_error hcopied]
  | ok types =>
      obtain ⟨⟨htypes, hdiffer⟩, -⟩ := paramTypes_eq_ok.mp hparams
      have hshared : Request.Declares { request with hoist := true } := ⟨htypes, hdiffer⟩
      have hcopied : Request.Declares { request with hoist := false } := ⟨htypes, hdiffer⟩
      rw [blueprint_load hshared, blueprint_load hcopied]
      exact outcome_resolveResults registry request true false

end Registry

end Wiring
