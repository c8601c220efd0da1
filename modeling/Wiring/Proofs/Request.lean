import Wiring.Proofs.Delivery

/-!
What a request comes to, step by step: its parameters are declared, its results are resolved, and
every parameter has to be used.
-/

namespace Wiring

namespace Request

/-- The types of the parameters, in declared order. -/
def paramTypes (request : Request) : List TypeRef :=
  request.params.filterMap Dependency.type?

/-- The types of the results, in declared order, without the error. -/
def resultTypes (request : Request) : List TypeRef :=
  request.results.filterMap Dependency.type?

/-- The parameters are values of types that differ. -/
structure Declares (request : Request) : Prop where
  types : ∀ param ∈ request.params, param.isError = false
  differ : request.paramTypes.Nodup

end Request

namespace Registry

/-- What the resolution of a request consults. -/
def scope (registry : Registry) (request : Request) : Scope :=
  ⟨registry, request.aliases, request.paramTypes⟩

theorem paramTypes_eq_ok_iff {seen types : List TypeRef} {params : List Dependency}
    (hseen : seen.Nodup) :
    paramTypes seen params = .ok types ↔
      (∀ param ∈ params, param.isError = false) ∧
        (seen ++ params.filterMap Dependency.type?).Nodup ∧
        types = seen ++ params.filterMap Dependency.type? := by
  induction params generalizing seen with
  | nil =>
      simp only [paramTypes, Except.ok.injEq, List.filterMap_nil, List.append_nil, hseen, true_and,
        List.not_mem_nil, false_implies, implies_true]
      exact eq_comm
  | cons param rest ih =>
      cases param with
      | error => simp [paramTypes, Dependency.type?, Dependency.isError]
      | type t | param t =>
          simp only [paramTypes, Dependency.type?]
          by_cases hmem : t ∈ seen
          · rw [if_pos hmem]
            constructor
            · intro h
              cases h
            · rintro ⟨-, hnodup, -⟩
              have hdisjoint := (List.nodup_append.mp hnodup).2.2 t hmem t (by simp [Dependency.type?])
              exact absurd rfl hdisjoint
          · have hmore : (seen ++ [t]).Nodup := by
              rw [List.nodup_append]
              refine ⟨hseen, by simp, fun a ha b hb => ?_⟩
              rw [List.mem_singleton.mp hb]
              rintro rfl
              exact hmem ha
            rw [if_neg hmem, ih hmore]
            simp [Dependency.type?, Dependency.isError]

/-- The parameters of a request are accepted if they are declared well, and then their types are. -/
theorem paramTypes_eq_ok {request : Request} {types : List TypeRef} :
    paramTypes [] request.params = .ok types ↔
      request.Declares ∧ types = request.paramTypes := by
  rw [paramTypes_eq_ok_iff List.nodup_nil]
  constructor
  · rintro ⟨htypes, hnodup, heq⟩
    exact ⟨⟨htypes, hnodup⟩, heq⟩
  · rintro ⟨⟨htypes, hnodup⟩, heq⟩
    exact ⟨htypes, hnodup, heq⟩

theorem unused?_eq_none_iff {scope : Scope} {path : List TypeRef} (s : Resolution scope path) :
    s.unused? = none ↔ ∀ id < scope.params.length, id ∈ s.used := by
  rw [Resolution.unused?, Option.map_eq_none_iff, List.find?_eq_none]
  constructor
  · intro h id hid
    have hmem : (scope.params[id], id) ∈ scope.params.zipIdx := by
      rw [List.mem_zipIdx_iff_getElem?]
      simp [hid]
    simpa using h _ hmem
  · rintro h ⟨t, id⟩ hmem
    have hid := (List.mem_zipIdx_iff_getElem?.mp hmem)
    obtain ⟨hlt, -⟩ := List.getElem?_eq_some_iff.mp hid
    simpa using h id hlt

/-- The graph of a request whose results are resolved. -/
def graph (registry : Registry) (request : Request) (outputs : List Output)
    (s : Resolution (registry.scope request) []) : Graph where
  name := request.name
  target := request.target
  hoist := request.hoist
  nodes := (settleError outputs s.fallible s.nodes).2
  params := List.range request.paramTypes.length
  outputs := (settleError outputs s.fallible s.nodes).1

/-- What a request comes to once its results are resolved. -/
def conclude (registry : Registry) (request : Request)
    (answer : List Output × Resolution (registry.scope request) []) : Except ResolveError Graph :=
  match answer.2.unused? with
  | some t => .error (.unusedParam t)
  | none => .ok (registry.graph request answer.1 answer.2)

variable {registry : Registry} {request : Request}

theorem load_of_paramTypes_error {e : ResolveError}
    (h : paramTypes [] request.params = .error e) : registry.load request = .error e := by
  rw [load, h]
  rfl

theorem load_of_declares (hdeclares : request.Declares) :
    registry.load request = (do
      let answer ← (registry.scope request).resolveResults request.hoist request.results false
        (.start _)
      registry.conclude request answer) := by
  rw [load, paramTypes_eq_ok.mpr ⟨hdeclares, rfl⟩]
  rfl

section Conclusions

variable {outputs : List Output} {s : Resolution (registry.scope request) []}

theorem conclude_of_unused {t : TypeRef} (h : s.unused? = some t) :
    registry.conclude request (outputs, s) = .error (.unusedParam t) := by
  simp only [conclude, h]

theorem conclude_of_used (h : s.unused? = none) :
    registry.conclude request (outputs, s) = .ok (registry.graph request outputs s) := by
  simp only [conclude, h]

end Conclusions

/-- A graph is made from well declared parameters that are all used. -/
theorem exists_of_load_ok {g : Graph} (h : registry.load request = .ok g) :
    request.Declares ∧ ∃ outputs s,
      (registry.scope request).resolveResults request.hoist request.results false (.start _) =
        .ok (outputs, s) ∧ s.unused? = none ∧ g = registry.graph request outputs s := by
  cases hparams : paramTypes [] request.params with
  | error e =>
      rw [load_of_paramTypes_error hparams] at h
      cases h
  | ok types =>
      obtain ⟨hdeclares, -⟩ := paramTypes_eq_ok.mp hparams
      rw [load_of_declares hdeclares] at h
      cases hresults : (registry.scope request).resolveResults request.hoist request.results false
          (.start _) with
      | error e => simp [hresults, bind, Except.bind] at h
      | ok answer =>
          obtain ⟨outputs, s⟩ := answer
          cases hunused : s.unused? with
          | some t => simp [hresults, conclude, hunused, bind, Except.bind] at h
          | none =>
              simp only [hresults, conclude, hunused, bind, Except.bind, Except.ok.injEq] at h
              exact ⟨hdeclares, outputs, s, rfl, hunused, h.symm⟩

end Registry

end Wiring
