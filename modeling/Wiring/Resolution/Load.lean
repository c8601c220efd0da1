import Wiring.Resolution.State

/-!
Resolution of a request into a graph. A requested type is replaced by its substitute; a parameter of
that type is used if there is one, else the type's provider is found and its inputs are resolved in
turn. A type that is asked for while its own inputs are being resolved closes a cycle. When hoisting,
the node that was built for a type before is used again.
-/

namespace Wiring

namespace Scope

/-- Resolves the inputs of a provider in order, each from the state the one before has left. -/
def gather {σ : Type} (resolve : σ → TypeRef → Except ResolveError (Supply × σ)) :
    List Input → Nat → σ → Except ResolveError (List Edge × σ)
  | [], _, s => .ok ([], s)
  | input :: inputs, position, s => do
    let (supply, s) ← resolve s input.type
    let (edges, s) ← gather resolve inputs (position + 1) s
    .ok (⟨supply.node, position, input.type, supply.type⟩ :: edges, s)

/-- The part of a path that a type closes to a cycle. -/
def cycleOf (path : List TypeRef) (t : TypeRef) : List TypeRef :=
  path.drop ((path.findIdx? t.sameBase).getD 0) ++ [t]

/-- Resolves a requested type to a node. Each type on the path has a provider and no two of them
have the same base, so the path cannot grow for ever. -/
def resolve (scope : Scope) (hoist : Bool) {path : List TypeRef} (s : Resolution scope path)
    (requested : TypeRef) : Except ResolveError (Supply × Resolution scope path) :=
  match scope.aliases.resolve requested with
  | .error cycle => .error (.aliasCycle cycle)
  | .ok t =>
    match scope.external? t with
    | some id => .ok (⟨id, t⟩, s.use id)
    | none =>
      if hvisiting : s.marks[t.base]? = some .visiting then
        .error (.cycle (cycleOf path t))
      else
        match s.reusable? hoist t with
        | some id => .ok (⟨id, t⟩, s)
        | none =>
          match hfind : s.lookup.find t path with
          | .error e => .error e
          | .ok (provider, lookup) => do
            have hnew : t.base ∉ path.map TypeRef.base := by rwa [← s.visiting_iff]
            have := Registry.unopened_append_lt (Lookup.find_ok hfind) hnew
            let (edges, inner) ← gather (fun s input => scope.resolve hoist s input)
              provider.inputs 0 (s.enter t lookup)
            .ok (⟨inner.nodes.size, t⟩, inner.leave hnew provider edges)
termination_by scope.registry.unopened path

/-- Resolves the results in order; only one of them may be the error. -/
def resolveResults (scope : Scope) (hoist : Bool) :
    List Dependency → Bool → Resolution scope [] →
      Except ResolveError (List Output × Resolution scope [])
  | [], _, s => .ok ([], s)
  | .error :: _, true, _ => .error .duplicateErrorResult
  | .error :: rest, false, s => do
    let (outputs, s) ← scope.resolveResults hoist rest true s
    .ok (.error .propagated :: outputs, s)
  | .type requested :: rest, hasError, s
  | .param requested :: rest, hasError, s => do
    let (supply, s) ← scope.resolve hoist s requested
    let (outputs, s) ← scope.resolveResults hoist rest hasError s
    .ok (.value supply.node requested supply.type :: outputs, s)

end Scope

namespace Registry

/-- The types of the parameters. None is the error and no two are equal. -/
def paramTypes (seen : List TypeRef) : List Dependency → Except ResolveError (List TypeRef)
  | [] => .ok seen
  | param :: rest =>
    match param.type? with
    | none => .error .errorParam
    | some t => if t ∈ seen then .error (.duplicateParam t) else paramTypes (seen ++ [t]) rest

/-- Decides where the error result comes from. If something can fail there is always one, the last
one unless it was declared; if nothing can, a declared one is a nil node. -/
def settleError (outputs : List Output) (fallible : Bool) (nodes : Array Node) :
    List Output × Array Node :=
  let declared := outputs.any Output.isError
  if fallible then
    (if !declared && outputs.any (!Output.isError ·) then outputs ++ [.error .propagated]
      else outputs, nodes)
  else if declared then
    (outputs.map fun output => if output.isError then .error (.zero nodes.size) else output,
      nodes.push .zeroError)
  else
    (outputs, nodes)

def load (registry : Registry) (request : Request) : Except ResolveError Graph := do
  let params ← paramTypes [] request.params
  let scope : Scope := ⟨registry, request.aliases, params⟩
  let (outputs, s) ← scope.resolveResults request.hoist request.results false (.start scope)
  match s.unused? with
  | some t => .error (.unusedParam t)
  | none =>
    let (outputs, nodes) := settleError outputs s.fallible s.nodes
    .ok
      { name := request.name
        target := request.target
        hoist := request.hoist
        nodes := nodes
        params := List.range params.length
        outputs := outputs }

end Registry

end Wiring
