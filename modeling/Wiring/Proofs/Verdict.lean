import Wiring.Proofs.Delivery

/-!
Resolving with marks, with memory and with nodes used again has the same outcome as expanding
without any of them, be it an error or a value. So the outcome does not depend on whether nodes are
used again.
-/

namespace Wiring

open Scope Resolution

/-- A result of a function, with all that it is built from written out. -/
inductive Answer where
  | value (requested resolved : TypeRef) (tree : BuildTree)
  | propagated
  | nilError

/-- Writes out what stands below an output. -/
def Answer.ofOutput (nodes : Array Node) : Output → Answer
  | .value node requested resolved => .value requested resolved (unfold nodes node)
  | .error .propagated => .propagated
  | .error (.zero _) => .nilError

theorem Answer.ofOutput_of_grown {before after : Array Node} {output : Output}
    (hgrown : before.toList <+: after.toList)
    (hbound : ∀ node, output.value? = some node → node < before.size) :
    Answer.ofOutput after output = Answer.ofOutput before output := by
  cases output with
  | error source => cases source <;> rfl
  | value node requested resolved =>
      simp only [Answer.ofOutput, unfold_of_grown hgrown (hbound node rfl)]

namespace Scope

variable {scope : Scope} {hoist : Bool} {path : List TypeRef}

/-- Expands the results of a function in order; only one of them may be the error. -/
def expandResults (scope : Scope) : List Dependency → Bool → Except ResolveError (List Answer)
  | [], _ => .ok []
  | dependency :: rest, hasError =>
    match dependency.type? with
    | some r => do
      let (resolved, tree) ← scope.expand [] r
      let answers ← scope.expandResults rest hasError
      .ok (.value r resolved tree :: answers)
    | none =>
      if hasError then .error .duplicateErrorResult
      else do
        let answers ← scope.expandResults rest true
        .ok (.propagated :: answers)

/-- What a resolved type comes to: the type after substitution, and what it is built from. -/
def reading (result : Supply × Resolution scope path) : TypeRef × BuildTree :=
  (result.1.type, unfold result.2.nodes result.1.node)

theorem expandInputs_of_gather_error {inputs : List Input} {position : Nat}
    {s : Resolution scope path} {e : ResolveError}
    (hagree : ∀ input ∈ inputs, ∀ s : Resolution scope path, s.Sound →
      (scope.resolve hoist s input.type).map reading = scope.expand path input.type)
    (hsound : s.Sound)
    (h : gather (fun s input => scope.resolve hoist s input) inputs position s = .error e) :
    expandInputs (scope.expand path) inputs position = .error e := by
  induction inputs generalizing position s with
  | nil => cases h
  | cons input inputs ih =>
      have hfirst := hagree input (by simp) s hsound
      rw [gather] at h
      rw [expandInputs, ← hfirst]
      cases hrun : scope.resolve hoist s input.type with
      | error other =>
          simp only [hrun, bind, Except.bind] at h
          cases h
          rfl
      | ok result =>
          obtain ⟨supply, mid⟩ := result
          have hmid := (delivers_of_resolve hrun hsound).sound
          cases hrest : gather (fun s input => scope.resolve hoist s input) inputs (position + 1)
              mid with
          | ok more => simp [hrun, hrest, bind, Except.bind] at h
          | error other =>
              simp only [hrun, hrest, bind, Except.bind] at h
              cases h
              have hrec := ih (fun i hi => hagree i (by simp [hi])) hmid hrest
              simp only [Except.map, bind, Except.bind, hrec]

/-- Resolving a requested type comes to what expanding it comes to, the errors included, from any
state that a resolution reaches. -/
theorem resolve_eq_expand (hoist : Bool) {path : List TypeRef} {s : Resolution scope path}
    {r : TypeRef} (hsound : s.Sound) (hlead : scope.Leading path r) :
    (scope.resolve hoist s r).map reading = scope.expand path r := by
  cases hrun : scope.resolve hoist s r with
  | ok result =>
      obtain ⟨supply, s'⟩ := result
      have hdelivers := delivers_of_resolve hrun hsound
      rw [hdelivers.resolvable.expand_eq (hlead.clear hdelivers.resolvable), hdelivers.tree]
      rfl
  | error e =>
      cases halias : scope.aliases.resolve r with
      | error cycle =>
          rw [resolve_of_aliasCycle hoist s halias] at hrun
          cases hrun
          rw [expand_of_aliasCycle halias]
          rfl
      | ok t =>
          cases hext : scope.external? t with
          | some id => simp [resolve_of_external hoist s halias hext] at hrun
          | none =>
              by_cases hpath : t.base ∈ path.map TypeRef.base
              · rw [resolve_of_mem_path hoist s halias hext hpath] at hrun
                cases hrun
                rw [expand_of_mem_path halias hext hpath]
                rfl
              cases hreuse : s.reusable? hoist t with
              | some id => simp [resolve_of_reusable halias hext hpath hreuse] at hrun
              | none =>
                  cases hfind : scope.registry.find t with
                  | error cause =>
                      rw [resolve_of_lookup halias hext hpath hreuse hfind] at hrun
                      cases hrun
                      rw [expand_of_lookup halias hext hpath hfind]
                      rfl
                  | ok p =>
                      have hopens : Opens hoist s r t p := ⟨halias, hext, hpath, hreuse, hfind⟩
                      obtain ⟨lookup, hresolve⟩ := resolve_of_opens hopens
                      rw [hresolve] at hrun
                      have hless := Registry.unopened_append_lt hfind hpath
                      have hagree : ∀ input ∈ p.inputs,
                          ∀ s : Resolution scope (path ++ [t]), s.Sound →
                          (scope.resolve hoist s input.type).map reading =
                            scope.expand (path ++ [t]) input.type := fun input hmem s hs =>
                        resolve_eq_expand hoist hs (hlead.append halias hext hfind hmem)
                      cases hgather : gather (fun s input => scope.resolve hoist s input) p.inputs 0
                          (s.enter t lookup) with
                      | ok gathered => simp [hgather, bind, Except.bind] at hrun
                      | error other =>
                          simp only [hgather, bind, Except.bind] at hrun
                          cases hrun
                          rw [expand_of_provider halias hext hpath hfind,
                            expandInputs_of_gather_error hagree (hsound.enter t lookup) hgather]
                          rfl
termination_by scope.registry.unopened path

/-- The results of a function come to what expanding them comes to. -/
theorem resolveResults_eq_expandResults (hoist : Bool) {s : Resolution scope []}
    (results : List Dependency) (hasError : Bool) (hsound : s.Sound) :
    (scope.resolveResults hoist results hasError s).map
        (fun answer => answer.1.map (Answer.ofOutput answer.2.nodes)) =
      scope.expandResults results hasError := by
  induction results generalizing s hasError with
  | nil => rfl
  | cons dependency rest ih =>
      cases htype : dependency.type? with
      | none =>
          rw [resolveResults_of_error htype, expandResults, htype]
          cases hasError with
          | true => rfl
          | false =>
              have hrec := ih true hsound
              simp only [Bool.false_eq_true, if_false, ← hrec]
              cases scope.resolveResults hoist rest true s with
              | error e => rfl
              | ok answer => rfl
      | some r =>
          rw [resolveResults_of_type htype, expandResults, htype]
          simp only [← resolve_eq_expand hoist hsound (leading_nil r)]
          cases hrun : scope.resolve hoist s r with
          | error e => rfl
          | ok result =>
              obtain ⟨supply, mid⟩ := result
              have hone := delivers_of_resolve hrun hsound
              simp only [Except.map, bind, Except.bind, ← ih hasError hone.sound]
              cases hrest : scope.resolveResults hoist rest hasError mid with
              | error e => rfl
              | ok answer =>
                  obtain ⟨outputs, s'⟩ := answer
                  have hall := delivers_of_resolveResults hrest hone.sound
                  simp only [List.map_cons, Answer.ofOutput, reading,
                    unfold_of_grown hall.nodes hone.bound]

end Scope

end Wiring
