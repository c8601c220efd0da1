import Wiring.Resolution.Load

/-!
What resolving a type does, branch by branch, and the induction over all runs that end well. Proofs
about runs use these and do not unfold the resolver.
-/

namespace Wiring.Scope

section Branches

variable {scope : Scope} {path : List TypeRef} {r t : TypeRef}

theorem resolve_of_aliasCycle (hoist : Bool) (s : Resolution scope path) {cycle : List TypeRef}
    (halias : scope.aliases.resolve r = .error cycle) :
    scope.resolve hoist s r = .error (.aliasCycle cycle) := by
  rw [resolve, halias]

theorem resolve_of_external (hoist : Bool) (s : Resolution scope path) {id : NodeId}
    (halias : scope.aliases.resolve r = .ok t) (hext : scope.external? t = some id) :
    scope.resolve hoist s r = .ok (⟨id, t⟩, s.use id) := by
  rw [resolve, halias]
  simp only [hext]

theorem resolve_of_mem_path (hoist : Bool) (s : Resolution scope path)
    (halias : scope.aliases.resolve r = .ok t) (hext : scope.external? t = none)
    (hpath : t.base ∈ path.map TypeRef.base) :
    scope.resolve hoist s r = .error (.cycle (cycleOf path t)) := by
  have hvisiting : s.marks[t.base]? = some .visiting := (s.visiting_iff _).mpr hpath
  rw [resolve, halias]
  simp only [hext, dif_pos hvisiting]

theorem resolve_of_reusable {hoist : Bool} {s : Resolution scope path} {id : NodeId}
    (halias : scope.aliases.resolve r = .ok t) (hext : scope.external? t = none)
    (hpath : t.base ∉ path.map TypeRef.base) (hreuse : s.reusable? hoist t = some id) :
    scope.resolve hoist s r = .ok (⟨id, t⟩, s) := by
  have hvisiting : ¬ s.marks[t.base]? = some .visiting := fun h => hpath ((s.visiting_iff _).mp h)
  rw [resolve, halias]
  simp only [hext, dif_neg hvisiting, hreuse]

theorem resolve_of_lookup {hoist : Bool} {s : Resolution scope path} {cause : LookupError}
    (halias : scope.aliases.resolve r = .ok t) (hext : scope.external? t = none)
    (hpath : t.base ∉ path.map TypeRef.base) (hreuse : s.reusable? hoist t = none)
    (hfind : scope.registry.find t = .error cause) :
    scope.resolve hoist s r = .error (.lookup cause t path) := by
  have hvisiting : ¬ s.marks[t.base]? = some .visiting := fun h => hpath ((s.visiting_iff _).mp h)
  have hlookup := s.lookup.find_of_error path hfind
  rw [resolve, halias]
  simp only [hext, dif_neg hvisiting, hreuse]
  split
  case h_1 e he =>
    rw [hlookup] at he
    cases he
    rfl
  case h_2 p lookup hp =>
    rw [hlookup] at hp
    cases hp

/-- The provider of a requested type is found and nothing else supplies it, so it is built. -/
structure Opens (hoist : Bool) (s : Resolution scope path) (r t : TypeRef) (p : Provider) :
    Prop where
  comesTo : scope.aliases.resolve r = .ok t
  ext : scope.external? t = none
  new : t.base ∉ path.map TypeRef.base
  unbuilt : s.reusable? hoist t = none
  found : scope.registry.find t = .ok p

theorem resolve_of_opens {hoist : Bool} {s : Resolution scope path} {p : Provider}
    (h : Opens hoist s r t p) :
    ∃ lookup, scope.resolve hoist s r = (do
      let (edges, inner) ← gather (fun s input => scope.resolve hoist s input) p.inputs 0
        (s.enter t lookup)
      .ok (⟨inner.nodes.size, t⟩, inner.leave h.new p edges)) := by
  have hvisiting : ¬ s.marks[t.base]? = some .visiting := fun hm =>
    h.new ((s.visiting_iff _).mp hm)
  obtain ⟨lookup, hlookup⟩ := s.lookup.find_of_ok path h.found
  refine ⟨lookup, ?_⟩
  rw [resolve, h.comesTo]
  simp only [h.ext, dif_neg hvisiting, h.unbuilt]
  split
  case h_1 e he =>
    rw [hlookup] at he
    cases he
  case h_2 q after hq =>
    rw [hlookup] at hq
    cases hq
    rfl

end Branches

/-- Inputs were resolved one after the other, each in the way that `R` says. -/
inductive Gathered {σ : Type} (R : σ → TypeRef → Supply → σ → Prop) :
    List Input → Nat → σ → List Edge → σ → Prop where
  | nil {position : Nat} {s : σ} : Gathered R [] position s [] s
  | cons {input : Input} {inputs : List Input} {position : Nat} {s mid s' : σ} {supply : Supply}
      {edges : List Edge} (hfirst : R s input.type supply mid)
      (hrest : Gathered R inputs (position + 1) mid edges s') :
      Gathered R (input :: inputs) position s
        (⟨supply.node, position, input.type, supply.type⟩ :: edges) s'

theorem Gathered.mono {σ : Type} {R R' : σ → TypeRef → Supply → σ → Prop} {inputs : List Input}
    {position : Nat} {s s' : σ} {edges : List Edge} (h : Gathered R inputs position s edges s')
    (himp : ∀ s r supply s', R s r supply s' → R' s r supply s') :
    Gathered R' inputs position s edges s' := by
  induction h with
  | nil => exact .nil
  | cons hfirst _ ih => exact .cons (himp _ _ _ _ hfirst) ih

/-- What resolving one input keeps is kept by resolving them all. -/
theorem Gathered.keeps {σ : Type} {P : σ → Prop} {inputs : List Input} {position : Nat} {s s' : σ}
    {edges : List Edge} (h : Gathered (fun s _ _ s' => P s → P s') inputs position s edges s')
    (hs : P s) : P s' := by
  induction h with
  | nil => exact hs
  | cons hfirst _ ih => exact ih (hfirst hs)

theorem gathered_of_ok {σ : Type} {f : σ → TypeRef → Except ResolveError (Supply × σ)}
    {inputs : List Input} {position : Nat} {s s' : σ} {edges : List Edge}
    (h : gather f inputs position s = .ok (edges, s')) :
    Gathered (fun s r supply s' => f s r = .ok (supply, s')) inputs position s edges s' := by
  induction inputs generalizing position s edges with
  | nil =>
      cases h
      exact .nil
  | cons input inputs ih =>
      rw [gather] at h
      cases hfirst : f s input.type with
      | error e => simp [hfirst, bind, Except.bind] at h
      | ok first =>
          obtain ⟨supply, mid⟩ := first
          cases hrest : gather f inputs (position + 1) mid with
          | error e => simp [hfirst, hrest, bind, Except.bind] at h
          | ok rest =>
              obtain ⟨more, last⟩ := rest
              simp only [hfirst, hrest, bind, Except.bind] at h
              cases h
              exact .cons hfirst (ih hrest)

/-- Every way in which resolving a type can end well. -/
inductive Resolved {scope : Scope} {path : List TypeRef} (hoist : Bool)
    (s : Resolution scope path) (r : TypeRef) : Supply → Resolution scope path → Prop where
  | external {t : TypeRef} {id : NodeId} (halias : scope.aliases.resolve r = .ok t)
      (hext : scope.external? t = some id) : Resolved hoist s r ⟨id, t⟩ (s.use id)
  | reused {t : TypeRef} {id : NodeId} (halias : scope.aliases.resolve r = .ok t)
      (hext : scope.external? t = none) (hnew : t.base ∉ path.map TypeRef.base)
      (hreuse : s.reusable? hoist t = some id) : Resolved hoist s r ⟨id, t⟩ s
  | built {t : TypeRef} {p : Provider} {lookup : Lookup scope.registry} {edges : List Edge}
      {inner : Resolution scope (path ++ [t])} (hopens : Opens hoist s r t p)
      (hgather : gather (fun s input => scope.resolve hoist s input) p.inputs 0
        (s.enter t lookup) = .ok (edges, inner)) :
      Resolved hoist s r ⟨inner.nodes.size, t⟩ (inner.leave hopens.new p edges)

theorem resolved_of_ok {scope : Scope} {hoist : Bool} {path : List TypeRef}
    {s s' : Resolution scope path} {r : TypeRef} {supply : Supply}
    (h : scope.resolve hoist s r = .ok (supply, s')) : Resolved hoist s r supply s' := by
  cases halias : scope.aliases.resolve r with
  | error cycle => simp [resolve_of_aliasCycle hoist s halias] at h
  | ok t =>
      cases hext : scope.external? t with
      | some id =>
          rw [resolve_of_external hoist s halias hext] at h
          cases h
          exact .external halias hext
      | none =>
          by_cases hpath : t.base ∈ path.map TypeRef.base
          · simp [resolve_of_mem_path hoist s halias hext hpath] at h
          cases hreuse : s.reusable? hoist t with
          | some id =>
              rw [resolve_of_reusable halias hext hpath hreuse] at h
              cases h
              exact .reused halias hext hpath hreuse
          | none =>
              cases hfind : scope.registry.find t with
              | error cause => simp [resolve_of_lookup halias hext hpath hreuse hfind] at h
              | ok p =>
                  have hopens : Opens hoist s r t p := ⟨halias, hext, hpath, hreuse, hfind⟩
                  obtain ⟨lookup, hresolve⟩ := resolve_of_opens hopens
                  rw [hresolve] at h
                  cases hgather : gather (fun s input => scope.resolve hoist s input) p.inputs 0
                      (s.enter t lookup) with
                  | error e => simp [hgather, bind, Except.bind] at h
                  | ok gathered =>
                      simp only [hgather, bind, Except.bind] at h
                      cases h
                      exact .built hopens hgather

/-- A relation between the state before and the state after holds of every run that ends well, if it
holds for parameters and for nodes used again, and passes from the inputs of a provider to the
provider. -/
theorem resolve_induction {scope : Scope} {hoist : Bool}
    {motive : ∀ path : List TypeRef,
      Resolution scope path → TypeRef → Supply → Resolution scope path → Prop}
    (external : ∀ {path} {s : Resolution scope path} {r t id},
      scope.aliases.resolve r = .ok t → scope.external? t = some id →
      motive path s r ⟨id, t⟩ (s.use id))
    (reused : ∀ {path} {s : Resolution scope path} {r t id},
      scope.aliases.resolve r = .ok t → scope.external? t = none →
      t.base ∉ path.map TypeRef.base → s.reusable? hoist t = some id → motive path s r ⟨id, t⟩ s)
    (built : ∀ {path} {s : Resolution scope path} {r t p lookup edges}
      {inner : Resolution scope (path ++ [t])} (hopens : Opens hoist s r t p),
      Gathered (motive (path ++ [t])) p.inputs 0 (s.enter t lookup) edges inner →
      motive path s r ⟨inner.nodes.size, t⟩ (inner.leave hopens.new p edges))
    {path : List TypeRef} {s s' : Resolution scope path} {r : TypeRef} {supply : Supply}
    (h : scope.resolve hoist s r = .ok (supply, s')) : motive path s r supply s' := by
  cases resolved_of_ok h with
  | external halias hext => exact external halias hext
  | reused halias hext hnew hreuse => exact reused halias hext hnew hreuse
  | @built t p lookup edges inner hopens hgather =>
      have hless := Registry.unopened_append_lt hopens.found hopens.new
      exact built hopens ((gathered_of_ok hgather).mono fun s r supply s' hinput =>
        resolve_induction external reused built hinput)
termination_by scope.registry.unopened path

section Results

variable {scope : Scope} {hoist : Bool} {s s' : Resolution scope []} {dependency : Dependency}
  {rest results : List Dependency} {outputs : List Output} {hasError : Bool} {r : TypeRef}

theorem resolveResults_of_type (htype : dependency.type? = some r) :
    scope.resolveResults hoist (dependency :: rest) hasError s = (do
      let (supply, s) ← scope.resolve hoist s r
      let (outputs, s) ← scope.resolveResults hoist rest hasError s
      .ok (.value supply.node r supply.type :: outputs, s)) := by
  cases dependency with
  | error => cases htype
  | type t =>
      cases htype
      rw [resolveResults]
  | param t =>
      cases htype
      rw [resolveResults]

theorem resolveResults_of_error (htype : dependency.type? = none) :
    scope.resolveResults hoist (dependency :: rest) hasError s =
      if hasError then .error .duplicateErrorResult
      else (do
        let (outputs, s) ← scope.resolveResults hoist rest true s
        .ok (.error .propagated :: outputs, s)) := by
  cases dependency with
  | type t => cases htype
  | param t => cases htype
  | error =>
      cases hasError
      · rw [resolveResults]
        rfl
      · rw [resolveResults]
        rfl

/-- Results were resolved one after the other, each in the way that `R` says. -/
inductive Answered {σ : Type} (R : σ → TypeRef → Supply → σ → Prop) :
    List Dependency → σ → List Output → σ → Prop where
  | nil {s : σ} : Answered R [] s [] s
  | error {dependency : Dependency} {rest : List Dependency} {s s' : σ} {outputs : List Output}
      (htype : dependency.type? = none) (hrest : Answered R rest s outputs s') :
      Answered R (dependency :: rest) s (.error .propagated :: outputs) s'
  | value {dependency : Dependency} {rest : List Dependency} {s mid s' : σ} {r : TypeRef}
      {supply : Supply} {outputs : List Output} (htype : dependency.type? = some r)
      (hfirst : R s r supply mid) (hrest : Answered R rest mid outputs s') :
      Answered R (dependency :: rest) s (.value supply.node r supply.type :: outputs) s'

theorem Answered.mono {σ : Type} {R R' : σ → TypeRef → Supply → σ → Prop} {s s' : σ}
    {results : List Dependency} {outputs : List Output} (h : Answered R results s outputs s')
    (himp : ∀ s r supply s', R s r supply s' → R' s r supply s') :
    Answered R' results s outputs s' := by
  induction h with
  | nil => exact .nil
  | error htype _ ih => exact .error htype ih
  | value htype hfirst _ ih => exact .value htype (himp _ _ _ _ hfirst) ih

/-- While results are resolved it is open where the error comes from. -/
theorem Answered.ne_zero {σ : Type} {R : σ → TypeRef → Supply → σ → Prop} {s s' : σ}
    {results : List Dependency} {outputs : List Output} (h : Answered R results s outputs s') :
    ∀ output ∈ outputs, ∀ z, output ≠ .error (.zero z) := by
  induction h with
  | nil => simp
  | error _ _ ih => exact List.forall_mem_cons.mpr ⟨by simp, ih⟩
  | value _ _ _ ih => exact List.forall_mem_cons.mpr ⟨by simp, ih⟩

/-- So far the nodes that the outputs name are those whose values they return. -/
theorem Answered.filterMap_root? {σ : Type} {R : σ → TypeRef → Supply → σ → Prop} {s s' : σ}
    {results : List Dependency} {outputs : List Output} (h : Answered R results s outputs s') :
    outputs.filterMap Output.root? = outputs.filterMap Output.value? := by
  induction h with
  | nil => rfl
  | error _ _ ih => exact ih
  | @value dependency rest s mid s' r supply outputs _ _ _ ih =>
      exact congrArg (supply.node :: ·) ih

/-- The errors among the outputs are those among the results. -/
theorem Answered.countP_isError {σ : Type} {R : σ → TypeRef → Supply → σ → Prop} {s s' : σ}
    {results : List Dependency} {outputs : List Output} (h : Answered R results s outputs s') :
    outputs.countP Output.isError = results.countP Dependency.isError := by
  induction h with
  | nil => rfl
  | @error dependency rest s s' outputs htype _ ih =>
      have herror : dependency.isError = true := by rw [Dependency.isError_eq, htype]; rfl
      rw [List.countP_cons_of_pos rfl, List.countP_cons_of_pos herror, ih]
  | @value dependency rest s mid s' r supply outputs htype _ _ ih =>
      have hvalue : ¬ dependency.isError = true := by simp [Dependency.isError_eq, htype]
      rw [List.countP_cons_of_neg (by simp [Output.isError]), List.countP_cons_of_neg hvalue, ih]

/-- Results of which two parts are answered were resolved in two parts. -/
theorem Answered.split {σ : Type} {R : σ → TypeRef → Supply → σ → Prop} {s s' : σ}
    {results : List Dependency} {before after : List Output}
    (h : Answered R results s (before ++ after) s') :
    ∃ first second mid, Answered R first s before mid ∧ Answered R second mid after s' := by
  induction before generalizing results s with
  | nil => exact ⟨[], results, s, .nil, h⟩
  | cons output before ih =>
      cases h with
      | error htype hrest =>
          obtain ⟨first, second, mid, hfirst, hsecond⟩ := ih hrest
          exact ⟨_, second, mid, .error htype hfirst, hsecond⟩
      | value htype hone hrest =>
          obtain ⟨first, second, mid, hfirst, hsecond⟩ := ih hrest
          exact ⟨_, second, mid, .value htype hone hfirst, hsecond⟩

theorem answered_of_ok (h : scope.resolveResults hoist results hasError s = .ok (outputs, s')) :
    Answered (fun s r supply s' => scope.resolve hoist s r = .ok (supply, s'))
      results s outputs s' := by
  induction results generalizing hasError s outputs with
  | nil =>
      rw [resolveResults] at h
      cases h
      exact .nil
  | cons dependency rest ih =>
      cases htype : dependency.type? with
      | none =>
          rw [resolveResults_of_error htype] at h
          cases hasError with
          | true => cases h
          | false =>
              cases hrest : scope.resolveResults hoist rest true s with
              | error e => simp [hrest, bind, Except.bind] at h
              | ok answer =>
                  simp only [hrest, bind, Except.bind, Bool.false_eq_true, if_false] at h
                  cases h
                  exact .error htype (ih hrest)
      | some r =>
          rw [resolveResults_of_type htype] at h
          cases hfirst : scope.resolve hoist s r with
          | error e => simp [hfirst, bind, Except.bind] at h
          | ok first =>
              obtain ⟨supply, mid⟩ := first
              cases hrest : scope.resolveResults hoist rest hasError mid with
              | error e => simp [hfirst, hrest, bind, Except.bind] at h
              | ok answer =>
                  simp only [hfirst, hrest, bind, Except.bind] at h
                  cases h
                  exact .value htype hfirst (ih hrest)

end Results

section Invariants

variable {scope : Scope} {hoist : Bool} {P : ∀ path : List TypeRef, Resolution scope path → Prop}
  (use : ∀ {path} {s : Resolution scope path} (id), P path s → P path (s.use id))
  (enter : ∀ {path} {s : Resolution scope path} {r t p} (lookup), Opens hoist s r t p → P path s →
    P (path ++ [t]) (s.enter t lookup))
  (leave : ∀ {path t} {s : Resolution scope (path ++ [t])} (hnew : t.base ∉ path.map TypeRef.base)
    (p edges), P (path ++ [t]) s → P path (s.leave hnew p edges))

include use enter leave

/-- What each change of the state keeps is kept by every run that ends well. -/
theorem invariant_of_resolve {path : List TypeRef} {s s' : Resolution scope path} {r : TypeRef}
    {supply : Supply} (h : scope.resolve hoist s r = .ok (supply, s')) : P path s → P path s' := by
  refine resolve_induction (motive := fun path s _ _ s' => P path s → P path s') ?_ ?_ ?_ h
  · intro path s r t id _ _ hs
    exact use id hs
  · intro path s r t id _ _ _ _ hs
    exact hs
  · intro path s r t p lookup edges inner hopens hgathered hs
    exact leave hopens.new p edges (hgathered.keeps (enter lookup hopens hs))

theorem invariant_of_answered {path : List TypeRef} {s s' : Resolution scope path}
    {results : List Dependency} {outputs : List Output}
    (h : Answered (fun s r supply s' => scope.resolve hoist s r = .ok (supply, s')) results s
      outputs s') (hs : P path s) : P path s' := by
  induction h with
  | nil => exact hs
  | error _ _ ih => exact ih hs
  | value _ hfirst _ ih => exact ih (invariant_of_resolve use enter leave hfirst hs)

end Invariants

end Wiring.Scope
