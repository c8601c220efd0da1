import Mathlib.Data.List.Dedup
import Mathlib.Data.List.Perm.Subperm
import Wiring.Proofs.Request

/-!
Why every resolution ends, whatever the registry. The calls of the resolver nest: a call that builds
a type makes one for each input of its provider. Along the nested calls the types on the path have a
provider and differ in their bases, so that calls are never nested deeper than there are types to be
built, and one more.
-/

namespace Wiring

namespace Registry

/-- The base types that have a provider, each of them once. -/
def constructible (registry : Registry) : List TypeRef :=
  (registry.bases.filter fun b => (registry.find b).isOk).dedup

variable {registry : Registry} {b t : TypeRef}

theorem base_of_mem_bases (h : b ∈ registry.bases) : b.base = b := by
  obtain ⟨⟨importPath, package⟩, -, hmem⟩ := List.mem_flatMap.mp h
  rcases List.mem_append.mp hmem with htype | hfunction
  · obtain ⟨decl, -, rfl⟩ := List.mem_map.mp htype
    rfl
  · obtain ⟨decl, -, hresult⟩ := List.mem_flatMap.mp hfunction
    obtain ⟨result, -, rfl⟩ := List.mem_map.mp hresult
    rfl

/-- A base type is constructible if the search for it finds a provider. -/
theorem mem_constructible_iff :
    b ∈ registry.constructible ↔ b.base = b ∧ ∃ p, registry.find b = .ok p := by
  rw [constructible, List.mem_dedup, List.mem_filter]
  constructor
  · rintro ⟨hmem, hfind⟩
    refine ⟨base_of_mem_bases hmem, ?_⟩
    cases hb : registry.find b with
    | error cause => simp [hb, Except.isOk, Except.toBool] at hfind
    | ok p => exact ⟨p, rfl⟩
  · rintro ⟨hbase, p, hfind⟩
    exact ⟨hbase ▸ base_mem_bases hfind, by simp [hfind, Except.isOk, Except.toBool]⟩

theorem base_mem_constructible {p : Provider} (h : registry.find t = .ok p) :
    t.base ∈ registry.constructible := by
  have hbase : t.base = t.base.base := rfl
  obtain ⟨q, hq, -⟩ := find_ok_congr hbase h
  exact mem_constructible_iff.mpr ⟨rfl, q, hq⟩

end Registry

namespace Scope

/-- A path that a resolution may be on: its types differ in their bases and have providers. -/
structure Open (scope : Scope) (path : List TypeRef) : Prop where
  differ : (path.map TypeRef.base).Nodup
  provided : ∀ t ∈ path, ∃ p, scope.registry.find t = .ok p

variable {scope : Scope} {path : List TypeRef}

theorem open_nil (scope : Scope) : scope.Open [] where
  differ := List.nodup_nil
  provided := by simp

theorem Open.append {t : TypeRef} {p : Provider} (h : scope.Open path)
    (hnew : t.base ∉ path.map TypeRef.base) (hfind : scope.registry.find t = .ok p) :
    scope.Open (path ++ [t]) where
  differ := by
    rw [List.map_append, List.nodup_append]
    refine ⟨h.differ, List.nodup_singleton _, fun a ha b hb => ?_⟩
    rw [List.map_singleton, List.mem_singleton] at hb
    rintro rfl
    exact hnew (hb ▸ ha)
  provided := by
    intro u hu
    rcases List.mem_append.mp hu with hold | hlast
    · exact h.provided u hold
    · rw [List.mem_singleton.mp hlast]
      exact ⟨p, hfind⟩

/-- The path is no longer than there are types to be built. -/
theorem Open.length_le (h : scope.Open path) :
    path.length ≤ scope.registry.constructible.length := by
  have hsub : path.map TypeRef.base ⊆ scope.registry.constructible := by
    intro b hb
    obtain ⟨t, ht, rfl⟩ := List.mem_map.mp hb
    obtain ⟨p, hp⟩ := h.provided t ht
    exact Registry.base_mem_constructible hp
  simpa using (List.Nodup.subperm h.differ hsub).length_le

end Scope

/-- A way to answer the calls for requested types, in any state. -/
abbrev Resolver (scope : Scope) :=
  (path : List TypeRef) → Resolution scope path → TypeRef →
    Except ResolveError (Supply × Resolution scope path)

namespace Scope

/-- A type that is not being built is not on the path. -/
theorem base_not_mem_of_not_visiting {scope : Scope} {path : List TypeRef}
    {s : Resolution scope path} {t : TypeRef} (h : ¬ s.marks[t.base]? = some .visiting) :
    t.base ∉ path.map TypeRef.base :=
  mt (s.visiting_iff t.base).mpr h

/-- Resolves a requested type, but leaves the inputs of its provider to another resolver. -/
def resolveWith (scope : Scope) (hoist : Bool) (inner : Resolver scope) : Resolver scope :=
  fun path s requested =>
    match scope.aliases.resolve requested with
    | .error cycle => .error (.aliasCycle cycle)
    | .ok t =>
      match scope.external? t with
      | some id => .ok (⟨id, t⟩, s.use id)
      | none =>
        if hvisiting : s.marks[t.base]? = some .visiting then
          .error (.cycle (cycleOf path t))
        else
          match s.reusable? hoist t with
          | some id => .ok (⟨id, t⟩, s)
          | none =>
            match s.lookup.find t path with
            | .error e => .error e
            | .ok (provider, lookup) => do
              have hnew := base_not_mem_of_not_visiting hvisiting
              let (edges, after) ← gather (inner (path ++ [t])) provider.inputs 0 (s.enter t lookup)
              .ok (⟨after.nodes.size, t⟩, after.leave hnew provider edges)

/-- Resolves with calls nested up to some depth; those that are nested deeper go to `outside`. -/
def resolveWithin (scope : Scope) (hoist : Bool) (outside : Resolver scope) : Nat → Resolver scope
  | 0 => outside
  | depth + 1 => scope.resolveWith hoist (scope.resolveWithin hoist outside depth)

variable {scope : Scope} {path : List TypeRef}

/-- The resolver leaves the inputs to itself. -/
theorem resolve_eq_resolveWith (hoist : Bool) (s : Resolution scope path) (r : TypeRef) :
    scope.resolve hoist s r =
      scope.resolveWith hoist (fun _ s r => scope.resolve hoist s r) path s r := by
  rw [resolve, resolveWith]
  cases scope.aliases.resolve r with
  | error cycle => rfl
  | ok t =>
      dsimp only
      cases scope.external? t with
      | some id => rfl
      | none =>
          dsimp only
          split
          · rfl
          · cases s.reusable? hoist t with
            | some id => rfl
            | none =>
                dsimp only
                split
                case h_1 e he => simp only [he]
                case h_2 p lookup hp => simp only [hp]

/-- What resolving comes to is the answer of the calls for the inputs on a longer path only. -/
theorem resolveWith_congr {hoist : Bool} {inner inner' : Resolver scope} (hopen : scope.Open path)
    (hagree : ∀ t, scope.Open (path ++ [t]) → inner (path ++ [t]) = inner' (path ++ [t]))
    (s : Resolution scope path) (r : TypeRef) :
    scope.resolveWith hoist inner path s r = scope.resolveWith hoist inner' path s r := by
  rw [resolveWith, resolveWith]
  cases scope.aliases.resolve r with
  | error cycle => rfl
  | ok t =>
      dsimp only
      cases scope.external? t with
      | some id => rfl
      | none =>
          dsimp only
          split
          case isTrue => rfl
          case isFalse hvisiting =>
            cases s.reusable? hoist t with
            | some id => rfl
            | none =>
                cases hlookup : s.lookup.find t path with
                | error e => rfl
                | ok found =>
                    have hnew := base_not_mem_of_not_visiting hvisiting
                    simp only [hagree t (hopen.append hnew (Lookup.find_ok hlookup))]

/-- Where calls may be nested as deep as there are types left to be built, and one more, none goes
outside. -/
theorem resolveWithin_eq (hoist : Bool) (outside : Resolver scope) {depth : Nat}
    (hopen : scope.Open path)
    (hdepth : scope.registry.constructible.length + 1 ≤ path.length + depth)
    (s : Resolution scope path) (r : TypeRef) :
    scope.resolveWithin hoist outside depth path s r = scope.resolve hoist s r := by
  induction depth generalizing path r with
  | zero =>
      have hle := hopen.length_le
      omega
  | succ depth ih =>
      rw [resolve_eq_resolveWith, resolveWithin]
      refine resolveWith_congr hopen (fun t hlonger => ?_) s r
      have hless : scope.registry.constructible.length + 1 ≤ (path ++ [t]).length + depth := by
        rw [List.length_append, List.length_singleton]
        omega
      funext s r
      exact ih hlonger hless s r

end Scope

/-- A call of the resolver, in the state that it meets. -/
structure Call (scope : Scope) where
  path : List TypeRef
  state : Resolution scope path
  requested : TypeRef

namespace Scope

variable {scope : Scope} {path : List TypeRef} {hoist : Bool}

/-- The calls made for the inputs of a provider in order, up to the first one that fails. -/
def inputCalls (scope : Scope) (hoist : Bool) :
    List Input → Resolution scope path → List (Call scope)
  | [], _ => []
  | input :: inputs, s =>
    ⟨path, s, input.type⟩ ::
      match scope.resolve hoist s input.type with
      | .error _ => []
      | .ok (_, s) => scope.inputCalls hoist inputs s

/-- The calls made for the results of a function in order, up to the first one that fails. -/
def resultCalls (scope : Scope) (hoist : Bool) :
    List Dependency → Bool → Resolution scope [] → List (Call scope)
  | [], _, _ => []
  | dependency :: rest, hasError, s =>
    match dependency.type? with
    | none => if hasError then [] else scope.resultCalls hoist rest true s
    | some r =>
      ⟨[], s, r⟩ ::
        match scope.resolve hoist s r with
        | .error _ => []
        | .ok (_, s) => scope.resultCalls hoist rest hasError s

theorem path_of_mem_inputCalls {call : Call scope} {inputs : List Input} {s : Resolution scope path}
    (h : call ∈ scope.inputCalls hoist inputs s) : call.path = path := by
  induction inputs generalizing s with
  | nil => cases h
  | cons input inputs ih =>
      rw [inputCalls, List.mem_cons] at h
      rcases h with rfl | hrest
      · rfl
      · split at hrest
        · cases hrest
        · exact ih hrest

theorem path_of_mem_resultCalls {call : Call scope} {results : List Dependency} {hasError : Bool}
    {s : Resolution scope []} (h : call ∈ scope.resultCalls hoist results hasError s) :
    call.path = [] := by
  induction results generalizing hasError s with
  | nil => cases h
  | cons dependency rest ih =>
      rw [resultCalls] at h
      split at h
      · split at h
        · cases h
        · exact ih h
      · rw [List.mem_cons] at h
        rcases h with rfl | hrest
        · rfl
        · split at hrest
          · cases hrest
          · exact ih hrest

end Scope

namespace Call

variable {scope : Scope} {hoist : Bool} {outer inner call : Call scope}

/-- A call makes another one for an input of the provider that it has found. -/
inductive Makes (hoist : Bool) : Call scope → Call scope → Prop where
  | input {path : List TypeRef} {s : Resolution scope path} {r t : TypeRef} {p : Provider}
      {lookup : Lookup scope.registry} {call : Call scope} (hopens : Scope.Opens hoist s r t p)
      (hlookup : s.lookup.find t path = .ok (p, lookup))
      (hcall : call ∈ scope.inputCalls hoist p.inputs (s.enter t lookup)) :
      Makes hoist ⟨path, s, r⟩ call

/-- A call finds the path and the marks in step. When it closes a cycle, the path has the type that
the cycle starts from. -/
structure InStep (call : Call scope) : Prop where
  path : scope.Open call.path
  visiting : ∀ b, call.state.marks[b]? = some .visiting ↔ b ∈ call.path.map TypeRef.base
  cycle : ∀ t, scope.aliases.resolve call.requested = .ok t → scope.external? t = none →
    call.state.marks[t.base]? = some .visiting → ∃ i, call.path.findIdx? t.sameBase = some i

theorem Makes.isOpen (h : outer.Makes hoist inner) (hopen : scope.Open outer.path) :
    scope.Open inner.path ∧ inner.path.length = outer.path.length + 1 := by
  cases h with
  | @input path s r t p lookup call hopens hlookup hcall =>
      rw [Scope.path_of_mem_inputCalls hcall]
      exact ⟨hopen.append hopens.new hopens.found, List.length_append⟩

theorem inStep_of_open (call : Call scope) (hopen : scope.Open call.path) : call.InStep where
  path := hopen
  visiting := call.state.visiting_iff
  cycle := by
    intro t _ _ hmark
    obtain ⟨u, hu, hbase⟩ := List.mem_map.mp ((call.state.visiting_iff _).mp hmark)
    rw [← Option.isSome_iff_exists, List.findIdx?_isSome, List.any_eq_true]
    exact ⟨u, hu, TypeRef.sameBase_iff.mpr hbase.symm⟩

end Call

namespace Registry

variable {registry : Registry} {request : Request}

/-- The calls of the resolver for a request, and how deep they are nested. -/
inductive Called (registry : Registry) (request : Request) :
    Nat → Call (registry.scope request) → Prop where
  | result {call : Call (registry.scope request)} (hdeclares : request.Declares)
      (hcall : call ∈ (registry.scope request).resultCalls request.hoist request.results false
        (.start _)) : Called registry request 1 call
  | input {depth : Nat} {outer inner : Call (registry.scope request)}
      (houter : Called registry request depth outer) (hmakes : outer.Makes request.hoist inner) :
      Called registry request (depth + 1) inner

/-- Each call extends the path of the one that makes it. -/
theorem Called.isOpen {depth : Nat} {call : Call (registry.scope request)}
    (h : registry.Called request depth call) :
    (registry.scope request).Open call.path ∧ depth = call.path.length + 1 := by
  induction h with
  | result _ hcall =>
      rw [Scope.path_of_mem_resultCalls hcall]
      exact ⟨Scope.open_nil _, rfl⟩
  | input _ hmakes ih =>
      obtain ⟨hopen, hlength⟩ := hmakes.isOpen ih.1
      exact ⟨hopen, by rw [hlength, ih.2]⟩

/-- The resolution of a request comes to an end. Each call for a result has its answer from calls
that are nested no deeper than there are constructible types, and one more; so whatever deeper calls
would answer makes no difference, and there are none. -/
structure Ends (registry : Registry) (request : Request) : Prop where
  bounded : ∀ outside s r, (registry.scope request).resolveWithin request.hoist outside
    (registry.constructible.length + 1) [] s r = (registry.scope request).resolve request.hoist s r
  calls : ∀ depth call, registry.Called request depth call →
    call.InStep ∧ depth ≤ registry.constructible.length + 1

theorem ends_load (registry : Registry) (request : Request) : registry.Ends request where
  bounded outside s r :=
    Scope.resolveWithin_eq request.hoist outside (Scope.open_nil _) (Nat.le_add_left _ _) s r
  calls depth call h := by
    obtain ⟨hopen, hdepth⟩ := h.isOpen
    refine ⟨call.inStep_of_open hopen, ?_⟩
    rw [hdepth]
    exact Nat.succ_le_succ hopen.length_le

end Registry

end Wiring
