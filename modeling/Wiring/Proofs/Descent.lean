import Wiring.Proofs.Rejection
import Wiring.Proofs.Success

/-!
What is reported with a search that fails. The listed types lead from a result to the type that was
not found, each by an input of the provider of the type before. Results and inputs that come earlier
are resolved, so the report is the first failure in depth-first order, and the request decides it.
-/

namespace Wiring

open Resolution

namespace Scope

variable {scope : Scope} {path below chain : List TypeRef} {r t : TypeRef} {cause : LookupError}

/-- A requested type is resolved without error, be nodes used again or not. -/
def Resolves (scope : Scope) (r : TypeRef) : Prop :=
  ∀ hoist, ∃ answer, scope.resolve hoist (start scope) r = .ok answer

/-- A requested type leads to another one, past the types that are listed. Each of these has a
provider, the next one is what an input of it comes to, and the inputs before that are resolved. -/
inductive Descends (scope : Scope) : TypeRef → List TypeRef → TypeRef → Prop where
  | direct {r t : TypeRef} (halias : scope.aliases.resolve r = .ok t) : Descends scope r [] t
  | past {r c t : TypeRef} {p : Provider} {before after : List Input} {input : Input}
      {chain : List TypeRef} (halias : scope.aliases.resolve r = .ok c)
      (hunsupplied : ∀ u ∈ scope.params, u.base ≠ c.base)
      (hfind : scope.registry.find c = .ok p) (hinputs : p.inputs = before ++ input :: after)
      (hbefore : ∀ earlier ∈ before, scope.Resolves earlier.type)
      (hbelow : Descends scope input.type chain t) : Descends scope r (c :: chain) t

/-- A requested type leads from a path to a type that no parameter supplies and no search finds. -/
structure Stuck (scope : Scope) (path : List TypeRef) (r : TypeRef) (cause : LookupError)
    (t : TypeRef) (chain : List TypeRef) : Prop where
  missing : scope.registry.find t = .error cause
  unsupplied : ∀ u ∈ scope.params, u.base ≠ t.base
  distinct : ((chain ++ [t]).map TypeRef.base).Nodup
  descends : ∃ below, chain = path ++ below ∧ scope.Descends r below t

theorem resolves_iff : scope.Resolves r ↔ scope.Resolvable r := by
  rw [resolvable_iff_expand]
  constructor
  · intro hresolves
    obtain ⟨answer, hanswer⟩ := hresolves true
    have hsame := resolve_eq_expand true (sound_start scope) (leading_nil r)
    rw [hanswer] at hsame
    exact ⟨_, hsame.symm⟩
  · rintro ⟨x, hx⟩ hoist
    have hsame := resolve_eq_expand hoist (sound_start scope) (leading_nil r)
    rw [hx] at hsame
    obtain ⟨answer, hanswer, -⟩ := Except.map_eq_ok_iff.mp hsame
    exact ⟨answer, hanswer⟩

/-- What can be expanded on some path is resolvable. -/
theorem resolvable_of_expand {path : List TypeRef} {r : TypeRef} {x : TypeRef × BuildTree}
    (h : scope.expand path r = .ok x) : scope.Resolvable r := by
  cases halias : scope.aliases.resolve r with
  | error loop => simp [expand_of_aliasCycle halias] at h
  | ok t =>
      cases hext : scope.external? t with
      | some id =>
          obtain ⟨u, hu, hbase⟩ := exists_param_of_external hext
          exact .param halias (List.mem_of_getElem? hu) hbase
      | none =>
          by_cases hpath : t.base ∈ path.map TypeRef.base
          · simp [expand_of_mem_path halias hext hpath] at h
          cases hfind : scope.registry.find t with
          | error cause => simp [expand_of_lookup halias hext hpath hfind] at h
          | ok p =>
              have hless := Registry.unopened_append_lt hfind hpath
              rw [expand_of_provider halias hext hpath hfind] at h
              obtain ⟨trees, htrees, -⟩ := Except.bind_eq_ok_iff.mp h
              apply Resolvable.provider halias hfind
              intro input hmem
              obtain ⟨y, hy⟩ := exists_expand_of_expandInputs htrees input hmem
              exact resolvable_of_expand hy
termination_by scope.registry.unopened path

/-- An expansion whose search fails has led to the type of that search. -/
theorem stuck_of_expand {path : List TypeRef} {r : TypeRef}
    (hnodup : (path.map TypeRef.base).Nodup)
    (h : scope.expand path r = .error (.lookup cause t chain)) :
    scope.Stuck path r cause t chain := by
  cases halias : scope.aliases.resolve r with
  | error loop => simp [expand_of_aliasCycle halias] at h
  | ok c =>
      cases hext : scope.external? c with
      | some id => simp [expand_of_external halias hext] at h
      | none =>
          by_cases hpath : c.base ∈ path.map TypeRef.base
          · simp [expand_of_mem_path halias hext hpath] at h
          have hunsupplied := external?_eq_none_iff.mp hext
          have hlonger : ((path ++ [c]).map TypeRef.base).Nodup := by
            simpa [List.nodup_append] using ⟨hnodup, by simpa using hpath⟩
          cases hfind : scope.registry.find c with
          | error cause' =>
              rw [expand_of_lookup halias hext hpath hfind] at h
              cases h
              exact ⟨hfind, hunsupplied, hlonger, [], by simp, .direct halias⟩
          | ok p =>
              have hless := Registry.unopened_append_lt hfind hpath
              rw [expand_of_provider halias hext hpath hfind, Except.bind_eq_error_iff] at h
              rcases h with hfails | ⟨trees, -, hdone⟩
              · obtain ⟨before, input, after, hinputs, hbefore, hinput⟩ :=
                  expandInputs_eq_error_iff.mp hfails
                have hstuck := stuck_of_expand hlonger hinput
                obtain ⟨below, hchain, hdescends⟩ := hstuck.descends
                have hresolves : ∀ earlier ∈ before, scope.Resolves earlier.type := by
                  intro earlier hmem
                  obtain ⟨x, hx⟩ := hbefore earlier hmem
                  exact resolves_iff.mpr (resolvable_of_expand hx)
                refine ⟨hstuck.missing, hstuck.unsupplied, hstuck.distinct, c :: below, ?_, ?_⟩
                · simpa using hchain
                · exact .past halias hunsupplied hfind hinputs hresolves hdescends
              · cases hdone
termination_by scope.registry.unopened path

/-- An expansion that leads to a type which no search finds fails in this search. -/
theorem Descends.expand (h : scope.Descends r below t) (hlead : scope.Leading path r)
    (hmissing : scope.registry.find t = .error cause)
    (hunsupplied : ∀ u ∈ scope.params, u.base ≠ t.base)
    (hnodup : ((path ++ below ++ [t]).map TypeRef.base).Nodup) :
    scope.expand path r = .error (.lookup cause t (path ++ below)) := by
  induction h generalizing path with
  | @direct r t halias =>
      rw [List.append_nil] at hnodup ⊢
      have hpath : t.base ∉ path.map TypeRef.base := by
        rw [List.map_append, List.nodup_append] at hnodup
        intro hmem
        exact hnodup.2.2 _ hmem _ (by simp) rfl
      exact expand_of_lookup halias (external?_eq_none_iff.mpr hunsupplied) hpath hmissing
  | @past r c t p before after input chain halias hsupplied hfind hinputs hbefore _ ih =>
      have hext := external?_eq_none_iff.mpr hsupplied
      have hpath : c.base ∉ path.map TypeRef.base := by
        rw [List.append_assoc, List.map_append, List.nodup_append] at hnodup
        intro hmem
        exact hnodup.2.2 _ hmem _ (by simp) rfl
      have hbelow : ∀ i ∈ p.inputs, scope.Leading (path ++ [c]) i.type :=
        fun i hi => hlead.append halias hext hfind hi
      have hfails : scope.expand (path ++ [c]) input.type =
          .error (.lookup cause t (path ++ [c] ++ chain)) := by
        apply ih (hbelow input (by simp [hinputs])) hmissing hunsupplied
        simpa using hnodup
      have hpasses : ∀ earlier ∈ before, ∃ x, scope.expand (path ++ [c]) earlier.type = .ok x := by
        intro earlier hmem
        have hresolvable := resolves_iff.mp (hbefore earlier hmem)
        obtain ⟨x, hx⟩ := hresolvable.expand
        exact ⟨x, hx _ ((hbelow earlier (by simp [hinputs, hmem])).clear hresolvable)⟩
      rw [expand_of_provider halias hext hpath hfind, Except.bind_eq_error_iff]
      refine Or.inl (expandInputs_eq_error_iff.mpr ⟨before, input, after, hinputs, hpasses, ?_⟩)
      simpa using hfails

theorem expand_eq_lookup_iff :
    scope.expand [] r = .error (.lookup cause t chain) ↔ scope.Stuck [] r cause t chain := by
  constructor
  · exact stuck_of_expand List.nodup_nil
  · intro h
    obtain ⟨below, rfl, hdescends⟩ := h.descends
    exact hdescends.expand (leading_nil r) h.missing h.unsupplied h.distinct

end Scope

namespace Registry

/-- A request comes to a search that fails: its parameters are declared well, the results before
some result are resolved, among them one error at most, and this result leads to a type that no
search finds. -/
structure Misses (registry : Registry) (request : Request) (cause : LookupError) (t : TypeRef)
    (chain : List TypeRef) : Prop where
  declares : request.Declares
  fails : (Lookup.fresh registry).find t chain = .error (.lookup cause t chain)
  unsupplied : ∀ u ∈ request.paramTypes, u.base ≠ t.base
  distinct : ((chain ++ [t]).map TypeRef.base).Nodup
  first : ∃ before dependency after r, request.results = before ++ dependency :: after ∧
    dependency.type? = some r ∧ before.countP Dependency.isError ≤ 1 ∧
    (∀ earlier ∈ before.filterMap Dependency.type?, (registry.scope request).Resolves earlier) ∧
    (registry.scope request).Descends r chain t

theorem find_eq_error_iff {registry : Registry} {t : TypeRef} {cause : LookupError}
    (chain : List TypeRef) :
    (Lookup.fresh registry).find t chain = .error (.lookup cause t chain) ↔
      registry.find t = .error cause := by
  constructor
  · intro h
    cases hfind : registry.find t with
    | ok p =>
        obtain ⟨after, hok⟩ := (Lookup.fresh registry).find_of_ok chain hfind
        rw [hok] at h
        cases h
    | error other =>
        rw [(Lookup.fresh registry).find_of_error chain hfind] at h
        cases h
        rfl
  · exact (Lookup.fresh registry).find_of_error chain

/-- A request fails in a search exactly if the search is what it comes to first, depth-first and in
declared order, and then the types that led there are listed. -/
theorem load_eq_lookup_iff (registry : Registry) (request : Request) (cause : LookupError)
    (t : TypeRef) (chain : List TypeRef) :
    registry.load request = .error (.lookup cause t chain) ↔
      registry.Misses request cause t chain := by
  have hsearch : (ResolveError.lookup cause t chain).IsSearch := trivial
  rw [load_eq_search_iff hsearch, Scope.expandResults_eq_search_iff hsearch]
  simp only [Scope.expandResults_ok_iff, Scope.expand_eq_lookup_iff, ← Scope.resolves_iff,
    Bool.false_eq_true, if_false]
  constructor
  · rintro ⟨hdeclares, before, dependency, after, heq, ⟨hbefore, hcount⟩, r, htype, hstuck⟩
    obtain ⟨below, hchain, hdescends⟩ := hstuck.descends
    rw [List.nil_append] at hchain
    subst hchain
    exact
      { declares := hdeclares
        fails := (find_eq_error_iff chain).mpr hstuck.missing
        unsupplied := hstuck.unsupplied
        distinct := hstuck.distinct
        first := ⟨before, dependency, after, r, heq, htype, hcount, hbefore, hdescends⟩ }
  · intro h
    obtain ⟨before, dependency, after, r, heq, htype, hcount, hbefore, hdescends⟩ := h.first
    have hstuck : (registry.scope request).Stuck [] r cause t chain :=
      { missing := (find_eq_error_iff chain).mp h.fails
        unsupplied := h.unsupplied
        distinct := h.distinct
        descends := ⟨chain, rfl, hdescends⟩ }
    exact ⟨h.declares, before, dependency, after, heq, ⟨hbefore, hcount⟩, r, htype, hstuck⟩

end Registry

end Wiring
