import Wiring.Proofs.Failure
import Wiring.Proofs.Request
import Wiring.Proofs.Verdict

/-!
Why a request is rejected: its parameters are not declared well, a result cannot be expanded, an
error is returned twice, or a parameter is not used.
-/

namespace Wiring

open Resolution

/-- What goes wrong is found while a type is resolved. -/
def ResolveError.IsSearch : ResolveError → Prop
  | lookup _ _ _ | cycle _ | aliasCycle _ => True
  | unusedParam _ | duplicateParam _ | errorParam | duplicateErrorResult => False

namespace Scope

variable {scope : Scope} {path : List TypeRef} {e : ResolveError}

/-- Inputs are expanded in order, and they come to the failure of the first one that fails. -/
theorem expandInputs_eq_error_iff {f : TypeRef → Except ResolveError (TypeRef × BuildTree)}
    {inputs : List Input} {position : Nat} :
    expandInputs f inputs position = .error e ↔
      ∃ before input after, inputs = before ++ input :: after ∧
        (∀ earlier ∈ before, ∃ x, f earlier.type = .ok x) ∧ f input.type = .error e := by
  induction inputs generalizing position with
  | nil => simp [expandInputs]
  | cons input inputs ih =>
      have hfails : expandInputs f (input :: inputs) position = .error e ↔
          f input.type = .error e ∨ (∃ x, f input.type = .ok x) ∧
            expandInputs f inputs (position + 1) = .error e := by
        simp [expandInputs, Except.bind_eq_error_iff]
      rw [hfails, ih]
      symm
      apply List.exists_split_cons_iff
      · simp
      · intro before
        exact List.forall_mem_cons

theorem exists_input_of_expandInputs {inputs : List Input} {position : Nat}
    (h : expandInputs (scope.expand path) inputs position = .error e) :
    ∃ input ∈ inputs, scope.expand path input.type = .error e := by
  obtain ⟨before, input, after, rfl, -, herror⟩ := expandInputs_eq_error_iff.mp h
  exact ⟨input, by simp, herror⟩

theorem exists_expand_of_expandInputs {inputs : List Input} {position : Nat}
    {trees : List (Use × BuildTree)}
    (h : expandInputs (scope.expand path) inputs position = .ok trees) :
    ∀ input ∈ inputs, ∃ x, scope.expand path input.type = .ok x := by
  induction inputs generalizing position trees with
  | nil => simp
  | cons input inputs ih =>
      rw [expandInputs] at h
      obtain ⟨x, hx, h⟩ := Except.bind_eq_ok_iff.mp h
      obtain ⟨more, hmore, -⟩ := Except.bind_eq_ok_iff.mp h
      exact List.forall_mem_cons.mpr ⟨⟨x, hx⟩, ih hmore⟩

theorem isSearch_of_expand {path : List TypeRef} {r : TypeRef}
    (h : scope.expand path r = .error e) : e.IsSearch := by
  cases halias : scope.aliases.resolve r with
  | error loop =>
      rw [expand_of_aliasCycle halias] at h
      cases h
      trivial
  | ok t =>
      cases hext : scope.external? t with
      | some id => simp [expand_of_external halias hext] at h
      | none =>
          by_cases hpath : t.base ∈ path.map TypeRef.base
          · rw [expand_of_mem_path halias hext hpath] at h
            cases h
            trivial
          cases hfind : scope.registry.find t with
          | error cause =>
              rw [expand_of_lookup halias hext hpath hfind] at h
              cases h
              trivial
          | ok p =>
              rw [expand_of_provider halias hext hpath hfind] at h
              rcases Except.bind_eq_error_iff.mp h with hinputs | ⟨_, -, hdone⟩
              · obtain ⟨input, -, herror⟩ := exists_input_of_expandInputs hinputs
                have hless := Registry.unopened_append_lt hfind hpath
                exact isSearch_of_expand herror
              · cases hdone
termination_by scope.registry.unopened path

/-- Results are expanded in order. Where a search fails, it is for the first one that cannot be
expanded. -/
theorem expandResults_eq_search_iff (hsearch : e.IsSearch) {results : List Dependency}
    {hasError : Bool} :
    scope.expandResults results hasError = .error e ↔
      ∃ before dependency after, results = before ++ dependency :: after ∧
        (∃ answers, scope.expandResults before hasError = .ok answers) ∧
        ∃ r, dependency.type? = some r ∧ scope.expand [] r = .error e := by
  induction results generalizing hasError with
  | nil => simp [expandResults]
  | cons dependency rest ih =>
      symm
      cases htype : dependency.type? with
      | none =>
          -- The error itself is not searched for: it is passed unless it is the second one.
          have hfails : scope.expandResults (dependency :: rest) hasError = .error e ↔
              hasError = false ∧ scope.expandResults rest true = .error e := by
            cases hasError with
            | true =>
                have hnot : ResolveError.duplicateErrorResult ≠ e := by
                  rintro rfl
                  exact hsearch
                simp [expandResults, htype, hnot]
            | false => simp [expandResults, htype, Except.bind_eq_error_iff]
          have hpasses : ∀ before, (∃ answers,
              scope.expandResults (dependency :: before) hasError = .ok answers) ↔
                hasError = false ∧ ∃ answers, scope.expandResults before true = .ok answers := by
            intro before
            cases hasError with
            | true => simp [expandResults, htype]
            | false => simp [expandResults, htype, Except.bind_eq_ok_iff]
          rw [hfails, ih]
          refine (List.exists_split_cons_iff ⟨[], rfl⟩ hpasses).trans ?_
          simp [htype]
      | some r =>
          have hfails : scope.expandResults (dependency :: rest) hasError = .error e ↔
              scope.expand [] r = .error e ∨ (∃ x, scope.expand [] r = .ok x) ∧
                scope.expandResults rest hasError = .error e := by
            simp [expandResults, htype, Except.bind_eq_error_iff]
          have hpasses : ∀ before, (∃ answers,
              scope.expandResults (dependency :: before) hasError = .ok answers) ↔
                (∃ x, scope.expand [] r = .ok x) ∧
                  ∃ answers, scope.expandResults before hasError = .ok answers := by
            intro before
            simp [expandResults, htype, Except.bind_eq_ok_iff]
          rw [hfails, ih]
          refine (List.exists_split_cons_iff ⟨[], rfl⟩ hpasses).trans ?_
          simp [htype]

/-- Results that cannot be expanded have one that cannot, or two errors. -/
theorem cases_of_expandResults {results : List Dependency} {hasError : Bool}
    (h : scope.expandResults results hasError = .error e) :
    (e = .duplicateErrorResult ∧
      (if hasError then 0 else 1) < results.countP Dependency.isError) ∨
    ∃ r ∈ results.filterMap Dependency.type?, scope.expand [] r = .error e := by
  induction results generalizing hasError with
  | nil => cases h
  | cons dependency rest ih =>
      rw [expandResults] at h
      cases htype : dependency.type? with
      | none =>
          have herror : dependency.isError = true := by rw [Dependency.isError_eq, htype]; rfl
          rw [List.filterMap_cons_none htype, List.countP_cons_of_pos herror]
          cases hasError with
          | true =>
              simp only [htype, if_true] at h
              cases h
              exact Or.inl ⟨rfl, Nat.succ_pos _⟩
          | false =>
              simp only [htype, Bool.false_eq_true, if_false] at h
              rcases Except.bind_eq_error_iff.mp h with hrest | ⟨answers, -, hdone⟩
              · exact (ih hrest).imp_left (And.imp_right Nat.succ_lt_succ)
              · cases hdone
      | some r =>
          have hvalue : ¬ dependency.isError = true := by simp [Dependency.isError_eq, htype]
          rw [List.filterMap_cons_some htype, List.countP_cons_of_neg hvalue]
          simp only [htype] at h
          rcases Except.bind_eq_error_iff.mp h with hfirst | ⟨_, -, h⟩
          · exact Or.inr ⟨r, List.mem_cons_self, hfirst⟩
          · rcases Except.bind_eq_error_iff.mp h with hrest | ⟨answers, -, hdone⟩
            · refine (ih hrest).imp_right ?_
              rintro ⟨found, hmem, herror⟩
              exact ⟨found, List.mem_cons_of_mem _ hmem, herror⟩
            · cases hdone

end Scope

namespace Registry

variable {registry : Registry} {request : Request} {e : ResolveError}

theorem cases_of_paramTypes {seen : List TypeRef} {params : List Dependency}
    (h : paramTypes seen params = .error e) :
    (e = .errorParam ∧ ∃ param ∈ params, param.isError = true) ∨ ∃ t, e = .duplicateParam t := by
  induction params generalizing seen with
  | nil => cases h
  | cons param rest ih =>
      rw [paramTypes] at h
      cases htype : param.type? with
      | none =>
          simp only [htype] at h
          cases h
          exact Or.inl ⟨rfl, param, List.mem_cons_self, by rw [Dependency.isError_eq, htype]; rfl⟩
      | some t =>
          simp only [htype] at h
          split at h
          · cases h
            exact Or.inr ⟨t, rfl⟩
          · refine (ih h).imp_left ?_
            rintro ⟨heq, other, hmem, herror⟩
            exact ⟨heq, other, List.mem_cons_of_mem _ hmem, herror⟩

/-- What there is behind the error of a request. -/
inductive Rejects (registry : Registry) (request : Request) : ResolveError → Prop where
  | errorParam {param : Dependency} (hmem : param ∈ request.params)
      (herror : param.isError = true) : Rejects registry request .errorParam
  | duplicateParam {t : TypeRef} : Rejects registry request (.duplicateParam t)
  | duplicateErrorResult (htwo : 1 < request.results.countP Dependency.isError) :
      Rejects registry request .duplicateErrorResult
  | search {r : TypeRef} {e : ResolveError} (hr : r ∈ request.resultTypes)
      (hsearch : e.IsSearch) (hexpand : (registry.scope request).expand [] r = .error e) :
      Rejects registry request e
  | unusedParam {t : TypeRef} : Rejects registry request (.unusedParam t)

/-- A request fails with its parameters, with its results, or when all is resolved. -/
theorem cases_of_load (h : registry.load request = .error e) :
    paramTypes [] request.params = .error e ∨ request.Declares ∧
      ((registry.scope request).expandResults request.results false = .error e ∨
        ∃ t, e = .unusedParam t) := by
  cases hparams : paramTypes [] request.params with
  | error cause =>
      rw [load_of_paramTypes_error hparams] at h
      cases h
      exact Or.inl rfl
  | ok types =>
      have hdeclares := (paramTypes_eq_ok.mp hparams).1
      refine Or.inr ⟨hdeclares, ?_⟩
      rw [load_of_declares hdeclares] at h
      rcases Except.bind_eq_error_iff.mp h with hresults | ⟨⟨outputs, s⟩, -, hdone⟩
      · have hexpand := Scope.resolveResults_eq_expandResults request.hoist request.results false
          (sound_start (registry.scope request))
        rw [hresults] at hexpand
        exact Or.inl hexpand.symm
      · cases hunused : s.unused? with
        | some t =>
            rw [conclude_of_unused hunused] at hdone
            cases hdone
            exact Or.inr ⟨t, rfl⟩
        | none =>
            rw [conclude_of_used hunused] at hdone
            cases hdone

theorem load_of_expandResults (hdeclares : request.Declares)
    (h : (registry.scope request).expandResults request.results false = .error e) :
    registry.load request = .error e := by
  have hsame := Scope.resolveResults_eq_expandResults request.hoist request.results false
    (sound_start (registry.scope request))
  rw [h, Except.map_eq_error_iff] at hsame
  rw [load_of_declares hdeclares, hsame]
  rfl

/-- What a search fails with is what the results come to. -/
theorem load_eq_search_iff (hsearch : e.IsSearch) : registry.load request = .error e ↔
    request.Declares ∧ (registry.scope request).expandResults request.results false = .error e := by
  constructor
  · intro h
    rcases cases_of_load h with hparams | ⟨hdeclares, hexpand | ⟨t, rfl⟩⟩
    · rcases cases_of_paramTypes hparams with ⟨rfl, -⟩ | ⟨t, rfl⟩
      · exact hsearch.elim
      · exact hsearch.elim
    · exact ⟨hdeclares, hexpand⟩
    · exact hsearch.elim
  · rintro ⟨hdeclares, hexpand⟩
    exact load_of_expandResults hdeclares hexpand

theorem rejects_of_load (h : registry.load request = .error e) : registry.Rejects request e := by
  rcases cases_of_load h with hparams | ⟨-, hexpand | ⟨t, rfl⟩⟩
  · rcases cases_of_paramTypes hparams with ⟨rfl, param, hmem, herror⟩ | ⟨t, rfl⟩
    · exact .errorParam hmem herror
    · exact .duplicateParam
  · rcases Scope.cases_of_expandResults hexpand with ⟨rfl, htwo⟩ | ⟨r, hr, herror⟩
    · exact .duplicateErrorResult htwo
    · exact .search hr (Scope.isSearch_of_expand herror) herror
  · exact .unusedParam

/-- Parameters that are values are not taken for errors. -/
theorem load_ne_errorParam (h : ∀ param ∈ request.params, param.isError = false) :
    registry.load request ≠ .error .errorParam := by
  intro hload
  cases rejects_of_load hload with
  | errorParam hmem herror => exact Bool.false_ne_true ((h _ hmem).symm.trans herror)
  | search _ hsearch _ => exact hsearch

/-- An error that is asked for once is not found twice. -/
theorem load_ne_duplicateErrorResult (h : request.results.countP Dependency.isError ≤ 1) :
    registry.load request ≠ .error .duplicateErrorResult := by
  intro hload
  cases rejects_of_load hload with
  | duplicateErrorResult htwo => exact Nat.not_lt.mpr h htwo
  | search _ hsearch _ => exact hsearch

end Registry

end Wiring
