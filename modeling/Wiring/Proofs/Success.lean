import Wiring.Proofs.Request
import Wiring.Proofs.Verdict

/-!
Which requests are resolved. The answer does not mention the order in which types are resolved, nor
what is remembered on the way.
-/

namespace Wiring

open Resolution

namespace Scope

variable {scope : Scope}

/-- The resolvable types are those that can be expanded. -/
theorem resolvable_iff_expand {r : TypeRef} :
    scope.Resolvable r ↔ ∃ x, scope.expand [] r = .ok x := by
  constructor
  · intro hres
    obtain ⟨x, hx⟩ := hres.expand
    exact ⟨x, hx [] (clear_nil r)⟩
  · rintro ⟨x, hx⟩
    have hsame := resolve_eq_expand true (sound_start scope) (leading_nil r)
    rw [hx] at hsame
    cases hrun : scope.resolve true (start scope) r with
    | error e => simp [hrun, Except.map] at hsame
    | ok result => exact (delivers_of_resolve hrun (sound_start scope)).resolvable

theorem expandResults_ok_iff (scope : Scope) (results : List Dependency) (hasError : Bool) :
    (∃ answers, scope.expandResults results hasError = .ok answers) ↔
      (∀ r ∈ results.filterMap Dependency.type?, scope.Resolvable r) ∧
        results.countP Dependency.isError ≤ if hasError then 0 else 1 := by
  induction results generalizing hasError with
  | nil => simp [expandResults]
  | cons dependency rest ih =>
      cases htype : dependency.type? with
      | none =>
          have herror : dependency.isError = true := by rw [Dependency.isError_eq, htype]; rfl
          rw [List.filterMap_cons_none htype, List.countP_cons_of_pos herror, expandResults, htype]
          cases hasError with
          | true => simp
          | false =>
              have hrest := ih true
              have hcount : rest.countP Dependency.isError + 1 ≤ 1 ↔
                  rest.countP Dependency.isError ≤ 0 := Nat.add_le_add_iff_right
              simp only [if_true] at hrest
              simp only [Bool.false_eq_true, if_false, hcount, ← hrest]
              cases scope.expandResults rest true with
              | error e => simp [bind, Except.bind]
              | ok answers => simp [bind, Except.bind]
      | some r =>
          have hvalue : ¬ dependency.isError = true := by simp [Dependency.isError_eq, htype]
          rw [List.filterMap_cons_some htype, List.countP_cons_of_neg hvalue, expandResults, htype,
            List.forall_mem_cons, and_assoc, ← ih, resolvable_iff_expand]
          cases hfirst : scope.expand [] r with
          | error e => simp [hfirst, bind, Except.bind]
          | ok x =>
              cases scope.expandResults rest hasError with
              | error e => simp [hfirst, bind, Except.bind]
              | ok answers => simp [hfirst, bind, Except.bind]

/-- The results of a function are resolved if each is resolvable and one at most is the error. -/
theorem resolveResults_ok_iff (scope : Scope) (hoist : Bool) (results : List Dependency) :
    (∃ outputs s, scope.resolveResults hoist results false (start scope) = .ok (outputs, s)) ↔
      (∀ r ∈ results.filterMap Dependency.type?, scope.Resolvable r) ∧
        results.countP Dependency.isError ≤ 1 := by
  have hsame := resolveResults_eq_expandResults hoist results false (sound_start scope)
  have hiff := expandResults_ok_iff scope results false
  simp only [Bool.false_eq_true, if_false, ← hsame] at hiff
  rw [← hiff]
  cases scope.resolveResults hoist results false (start scope) with
  | error e => simp [Except.map]
  | ok answer =>
      obtain ⟨outputs, s⟩ := answer
      simp [Except.map]

end Scope

namespace Registry

/-- What is asked of a request: its parameters are values of types that differ, one result at most
is the error, all others can be supplied, and every parameter is the one to choose for something
that they ask for. -/
structure Accepts (registry : Registry) (request : Request) : Prop where
  declares : request.Declares
  error : request.results.countP Dependency.isError ≤ 1
  resolvable : ∀ r ∈ request.resultTypes, (registry.scope request).Resolvable r
  used : ∀ id < request.paramTypes.length, ∃ r ∈ request.resultTypes, ∃ needed t,
    (registry.scope request).Asks r needed ∧ request.aliases.resolve needed = .ok t ∧
      (registry.scope request).Chosen t id

/-- After the results were resolved, the parameters that were not used are those that nothing asks
for. -/
theorem unused?_iff_of_resolveResults {registry : Registry} {request : Request}
    {outputs : List Output} {s : Resolution (registry.scope request) []} {hoist : Bool}
    (hdeclares : request.Declares)
    (hresults : (registry.scope request).resolveResults hoist request.results false (start _) =
      .ok (outputs, s)) :
    s.unused? = none ↔ ∀ id < request.paramTypes.length, ∃ r ∈ request.resultTypes, ∃ needed t,
      (registry.scope request).Asks r needed ∧ request.aliases.resolve needed = .ok t ∧
        (registry.scope request).Chosen t id := by
  have hdelivers := Scope.delivers_of_resolveResults hresults (sound_start _)
  rw [unused?_eq_none_iff]
  refine forall_congr' fun id => imp_congr_right fun _ => ?_
  rw [hdelivers.used]
  simp only [start, Std.ExtTreeSet.not_mem_empty, false_or, Scope.Feeds,
    (registry.scope request).external?_eq_some_iff hdeclares.differ]
  rfl

/-- A request is resolved exactly when it is acceptable, whether nodes are used again or not. -/
theorem load_ok_iff (registry : Registry) (request : Request) :
    (∃ g, registry.load request = .ok g) ↔ registry.Accepts request := by
  constructor
  · rintro ⟨g, hload⟩
    obtain ⟨hdeclares, outputs, s, hresults, hunused, -⟩ := exists_of_load_ok hload
    obtain ⟨hresolvable, herror⟩ := (Scope.resolveResults_ok_iff _ _ _).mp ⟨_, _, hresults⟩
    have hused := (unused?_iff_of_resolveResults hdeclares hresults).mp hunused
    exact ⟨hdeclares, herror, hresolvable, hused⟩
  · intro haccepts
    obtain ⟨outputs, s, hresults⟩ := (Scope.resolveResults_ok_iff (registry.scope request)
      request.hoist request.results).mpr ⟨haccepts.resolvable, haccepts.error⟩
    have hunused := (unused?_iff_of_resolveResults haccepts.declares hresults).mpr haccepts.used
    refine ⟨registry.graph request outputs s, ?_⟩
    rw [load_of_declares haccepts.declares]
    have hsame : (registry.scope request).resolveResults request.hoist request.results false
        (start _) = .ok (outputs, s) := hresults
    simp only [hsame, conclude, hunused, bind, Except.bind]

end Registry

end Wiring
