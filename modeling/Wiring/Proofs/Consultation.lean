import Wiring.Proofs.Registering
import Wiring.Proofs.Structure

/-!
Resolution depends on its registry through what searches find, and on its substitutions through
what they supply, and through nothing else. A search that finds a provider, or that fails within the
package it asks, has the same answer in every registry that has the package. So further packages
change only what failed for want of a package.
-/

namespace Wiring

open Scope Resolution

variable {Q : LookupError → Prop}

/-- The second run does what the first one does, unless the first one fails in a search for a cause
in `Q`. -/
inductive Follows (Q : LookupError → Prop) {α β : Type} (R : α → β → Prop) :
    Except ResolveError α → Except ResolveError β → Prop where
  | ok {a : α} {b : β} (hrel : R a b) : Follows Q R (.ok a) (.ok b)
  | error (e : ResolveError) : Follows Q R (.error e) (.error e)
  | excused {cause : LookupError} {t : TypeRef} {chain : List TypeRef} {y : Except ResolveError β}
      (hcause : Q cause) : Follows Q R (.error (.lookup cause t chain)) y

theorem Follows.bind {α β γ δ : Type} {R : α → β → Prop} {S : γ → δ → Prop}
    {x : Except ResolveError α} {y : Except ResolveError β} {f : α → Except ResolveError γ}
    {g : β → Except ResolveError δ} (h : Follows Q R x y)
    (hnext : ∀ a b, R a b → Follows Q S (f a) (g b)) : Follows Q S (x >>= f) (y >>= g) := by
  cases h with
  | ok hrel => exact hnext _ _ hrel
  | error e => exact .error e
  | excused hcause => exact .excused hcause

/-- Where nothing is excused, the runs come to the same. -/
theorem Follows.eq {α : Type} {x y : Except ResolveError α}
    (h : Follows (fun _ => False) Eq x y) : y = x := by
  cases h with
  | ok hrel => rw [hrel]
  | error e => rfl
  | excused hcause => exact hcause.elim

/-- One answer, given by two runs together with related states. -/
inductive Paired {α σ τ : Type} (R : σ → τ → Prop) : α × σ → α × τ → Prop where
  | mk (a : α) {s : σ} {s' : τ} (hrel : R s s') : Paired R (a, s) (a, s')

/-- Two scopes that supply the same types. The second one finds what the first one finds, and its
searches fail alike, unless they fail in the first one for a cause in `Q`. -/
structure Scope.Extends (Q : LookupError → Prop) (scope scope' : Scope) : Prop where
  aliases : ∀ t, scope'.aliases.resolve t = scope.aliases.resolve t
  params : scope'.params = scope.params
  finds : ∀ t, scope'.registry.find t = scope.registry.find t ∨
    ∃ cause, scope.registry.find t = .error cause ∧ Q cause

/-- Two states that differ at most in what their searches remember. -/
structure Resolution.Alike {scope scope' : Scope} {path : List TypeRef}
    (s : Resolution scope path) (s' : Resolution scope' path) : Prop where
  nodes : s.nodes = s'.nodes
  used : s.used = s'.used
  marks : s.marks = s'.marks
  fallible : s.fallible = s'.fallible

namespace Resolution.Alike

variable {scope scope' : Scope} {path : List TypeRef} {s : Resolution scope path}
  {s' : Resolution scope' path}

theorem start (hparams : scope'.params = scope.params) :
    (Resolution.start scope).Alike (Resolution.start scope') := by
  constructor <;> simp [Resolution.start, hparams]

theorem use (h : s.Alike s') (id : NodeId) : (s.use id).Alike (s'.use id) :=
  ⟨h.nodes, congrArg (·.insert id) h.used, h.marks, h.fallible⟩

theorem enter (h : s.Alike s') (t : TypeRef) (lookup : Lookup scope.registry)
    (lookup' : Lookup scope'.registry) : (s.enter t lookup).Alike (s'.enter t lookup') :=
  ⟨h.nodes, h.used, congrArg (·.insert t.base .visiting) h.marks, h.fallible⟩

theorem leave {t : TypeRef} {s : Resolution scope (path ++ [t])}
    {s' : Resolution scope' (path ++ [t])} (h : s.Alike s')
    (hnew : t.base ∉ path.map TypeRef.base) (p : Provider) (edges : List Edge) :
    (s.leave hnew p edges).Alike (s'.leave hnew p edges) where
  nodes := congrArg (·.push (.provider t p edges)) h.nodes
  used := h.used
  marks := by simp only [Resolution.leave, h.marks, h.nodes]
  fallible := congrArg (· || p.fallible) h.fallible

theorem reusable? (h : s.Alike s') (hoist : Bool) (t : TypeRef) :
    s'.reusable? hoist t = s.reusable? hoist t := by
  simp only [Resolution.reusable?, h.marks]

theorem unused? (h : s.Alike s') (hparams : scope'.params = scope.params) :
    s'.unused? = s.unused? := by
  simp only [Resolution.unused?, hparams, h.used]

end Resolution.Alike

namespace Scope

theorem Extends.find_ok {scope scope' : Scope} (h : scope.Extends Q scope') {t : TypeRef}
    {p : Provider} (hfind : scope.registry.find t = .ok p) :
    scope'.registry.find t = .ok p := by
  rcases h.finds t with heq | ⟨cause, hfails, -⟩
  · exact heq.trans hfind
  · cases hfind.symm.trans hfails

theorem external?_of_params {scope scope' : Scope} (hparams : scope'.params = scope.params)
    (t : TypeRef) : scope'.external? t = scope.external? t := by
  simp only [external?, hparams]

theorem gather_follows {σ τ : Type} {R : σ → τ → Prop}
    {f : σ → TypeRef → Except ResolveError (Supply × σ)}
    {g : τ → TypeRef → Except ResolveError (Supply × τ)}
    (hstep : ∀ s s' r, R s s' → Follows Q (Paired R) (f s r) (g s' r)) (inputs : List Input)
    (position : Nat) {s : σ} {s' : τ} (hrel : R s s') :
    Follows Q (Paired R) (gather f inputs position s) (gather g inputs position s') := by
  induction inputs generalizing position s s' with
  | nil => exact .ok ⟨_, hrel⟩
  | cons input inputs ih =>
      rw [gather, gather]
      refine (hstep s s' input.type hrel).bind ?_
      rintro _ _ ⟨supply, hmid⟩
      refine (ih (position + 1) hmid).bind ?_
      rintro _ _ ⟨edges, hlast⟩
      exact .ok ⟨_, hlast⟩

variable {scope scope' : Scope} {hoist : Bool}

/-- Each request is resolved alike from alike states: the branch that is taken depends on the
substitutes, the parameters, the path and the marks, and only then on a search. -/
theorem resolve_follows (hext : scope.Extends Q scope') {path : List TypeRef}
    {s : Resolution scope path} {s' : Resolution scope' path} (halike : s.Alike s') (r : TypeRef) :
    Follows Q (Paired Alike) (scope.resolve hoist s r) (scope'.resolve hoist s' r) := by
  have haliases := hext.aliases r
  cases halias : scope.aliases.resolve r with
  | error cycle =>
      rw [resolve_of_aliasCycle hoist s halias,
        resolve_of_aliasCycle hoist s' (haliases.trans halias)]
      exact .error _
  | ok t =>
      have halias' := haliases.trans halias
      have hexternal := external?_of_params hext.params t
      cases hsupplied : scope.external? t with
      | some id =>
          rw [resolve_of_external hoist s halias hsupplied,
            resolve_of_external hoist s' halias' (hexternal.trans hsupplied)]
          exact .ok ⟨_, halike.use id⟩
      | none =>
          have hsupplied' := hexternal.trans hsupplied
          by_cases hpath : t.base ∈ path.map TypeRef.base
          · rw [resolve_of_mem_path hoist s halias hsupplied hpath,
              resolve_of_mem_path hoist s' halias' hsupplied' hpath]
            exact .error _
          have hsame := halike.reusable? hoist t
          cases hreuse : s.reusable? hoist t with
          | some id =>
              rw [resolve_of_reusable halias hsupplied hpath hreuse,
                resolve_of_reusable halias' hsupplied' hpath (hsame.trans hreuse)]
              exact .ok ⟨_, halike⟩
          | none =>
              have hreuse' := hsame.trans hreuse
              cases hfind : scope.registry.find t with
              | error cause =>
                  rw [resolve_of_lookup halias hsupplied hpath hreuse hfind]
                  rcases hext.finds t with heq | ⟨other, hother, hcause⟩
                  · rw [resolve_of_lookup halias' hsupplied' hpath hreuse' (heq.trans hfind)]
                    exact .error _
                  · cases hfind.symm.trans hother
                    exact .excused hcause
              | ok p =>
                  have hfind' := hext.find_ok hfind
                  have hless := Registry.unopened_append_lt hfind hpath
                  obtain ⟨lookup, hresolve⟩ :=
                    resolve_of_opens ⟨halias, hsupplied, hpath, hreuse, hfind⟩
                  obtain ⟨lookup', hresolve'⟩ :=
                    resolve_of_opens ⟨halias', hsupplied', hpath, hreuse', hfind'⟩
                  rw [hresolve, hresolve']
                  -- The path is longer below, so the statement is needed for another type of state.
                  have hinputs : ∀ (s : Resolution scope (path ++ [t]))
                      (s' : Resolution scope' (path ++ [t])) (r : TypeRef), s.Alike s' →
                      Follows Q (Paired Alike) (scope.resolve hoist s r)
                        (scope'.resolve hoist s' r) :=
                    fun s s' r halike => resolve_follows hext halike r
                  refine (gather_follows hinputs p.inputs 0 (halike.enter t lookup lookup')).bind ?_
                  rintro _ _ ⟨edges, hinner⟩
                  simp only [hinner.nodes]
                  exact .ok ⟨_, hinner.leave hpath p edges⟩
termination_by scope.registry.unopened path

theorem resolveResults_follows (hext : scope.Extends Q scope') {s : Resolution scope []}
    {s' : Resolution scope' []} (halike : s.Alike s') (results : List Dependency)
    (hasError : Bool) :
    Follows Q (Paired Alike) (scope.resolveResults hoist results hasError s)
      (scope'.resolveResults hoist results hasError s') := by
  induction results generalizing s s' hasError with
  | nil => exact .ok ⟨_, halike⟩
  | cons dependency rest ih =>
      cases htype : dependency.type? with
      | none =>
          rw [resolveResults_of_error htype, resolveResults_of_error htype]
          cases hasError with
          | true => exact .error _
          | false =>
              refine (ih halike true).bind ?_
              rintro _ _ ⟨outputs, hlast⟩
              exact .ok ⟨_, hlast⟩
      | some r =>
          rw [resolveResults_of_type htype, resolveResults_of_type htype]
          refine (resolve_follows hext halike r).bind ?_
          rintro _ _ ⟨supply, hmid⟩
          refine (ih hmid hasError).bind ?_
          rintro _ _ ⟨outputs, hlast⟩
          exact .ok ⟨_, hlast⟩

end Scope

namespace Registry

variable {registry registry' : Registry}

theorem conclude_follows {request : Request} {aliases : Aliases}
    {answer : List Output × Resolution (registry.scope request) []}
    {answer' : List Output × Resolution (registry'.scope { request with aliases }) []}
    (h : Paired Alike answer answer') :
    Follows Q Eq (registry.conclude request answer)
      (registry'.conclude { request with aliases } answer') := by
  obtain ⟨outputs, halike⟩ := h
  simp only [conclude, halike.unused? rfl]
  split
  · exact .error _
  · refine .ok ?_
    simp only [graph, halike.nodes, halike.fallible]
    rfl

/-- A request comes to the same in two registries, and with two maps of substitutions, if all types
supplied are the same and all searches come to the same, up to the ones that fail in the first
registry for a cause in `Q`. -/
theorem load_follows_with (hfinds : ∀ t, registry'.find t = registry.find t ∨
      ∃ cause, registry.find t = .error cause ∧ Q cause) (request : Request) {aliases : Aliases}
    (haliases : ∀ t, aliases.resolve t = request.aliases.resolve t) :
    Follows Q Eq (registry.load request) (registry'.load { request with aliases }) := by
  cases hparams : paramTypes [] request.params with
  | error e =>
      have hparams' : paramTypes [] { request with aliases }.params = .error e := hparams
      rw [load_of_paramTypes_error hparams, load_of_paramTypes_error hparams']
      exact .error e
  | ok types =>
      have hdeclares := (paramTypes_eq_ok.mp hparams).1
      have hdeclares' : { request with aliases }.Declares := ⟨hdeclares.types, hdeclares.differ⟩
      have hext : (registry.scope request).Extends Q (registry'.scope { request with aliases }) :=
        ⟨haliases, rfl, hfinds⟩
      rw [load_of_declares hdeclares, load_of_declares hdeclares']
      refine (resolveResults_follows hext (Alike.start rfl) request.results false).bind ?_
      intro answer answer' hpaired
      exact conclude_follows hpaired

theorem load_follows (hfinds : ∀ t, registry'.find t = registry.find t ∨
      ∃ cause, registry.find t = .error cause ∧ Q cause) (request : Request) :
    Follows Q Eq (registry.load request) (registry'.load request) :=
  load_follows_with hfinds request fun _ => rfl

/-- Registries with the same searches resolve every request alike. -/
theorem load_congr (hfinds : ∀ t, registry'.find t = registry.find t) (request : Request) :
    registry'.load request = registry.load request :=
  (load_follows (fun t => Or.inl (hfinds t)) request).eq

/-- Substitutions that supply the same types can stand for one another. -/
theorem load_congr_aliases (registry : Registry) (request : Request) {aliases : Aliases}
    (haliases : ∀ t, aliases.resolve t = request.aliases.resolve t) :
    registry.load { request with aliases } = registry.load request :=
  (load_follows_with (fun _ => Or.inl rfl) request haliases).eq

/-- Every package of the first registry is in the second one, unchanged. -/
def Within (registry registry' : Registry) : Prop :=
  ∀ path package, registry.get? path = some package → registry'.get? path = some package

theorem within_register {package : Package}
    (hnew : registry.get? package.importPath = none) :
    registry.Within (registry.register package) := by
  intro path found hget
  have hne : package.importPath ≠ path := by
    rintro rfl
    rw [hnew] at hget
    cases hget
  rw [get?_register, if_neg hne]
  exact hget

/-- With more packages a search finds the same, unless the package itself was missing. -/
theorem find_of_within (h : registry.Within registry') (t : TypeRef) :
    registry'.find t = registry.find t ∨ registry.find t = .error .unknownPackage := by
  unfold find
  split
  · exact Or.inl rfl
  · cases hget : registry.get? t.importPath with
    | none => exact Or.inr rfl
    | some package => simp only [h _ _ hget, true_or]

/-- Further packages change nothing for a request that is resolved, nor for one that fails, unless
it fails because a package is unknown. -/
theorem load_of_within (h : registry.Within registry') (request : Request) :
    (∀ g, registry.load request = .ok g → registry'.load request = .ok g) ∧
      ∀ e, registry.load request = .error e →
        (∀ dependency chain, e ≠ .lookup .unknownPackage dependency chain) →
        registry'.load request = .error e := by
  have hfollows : Follows (· = .unknownPackage) Eq (registry.load request)
      (registry'.load request) := by
    refine load_follows (fun t => ?_) request
    exact (find_of_within h t).imp_right fun hfind => ⟨_, hfind, rfl⟩
  generalize registry.load request = x, registry'.load request = y at hfollows ⊢
  cases hfollows with
  | ok hrel =>
      subst hrel
      exact ⟨fun g hg => hg, fun e he => nomatch he⟩
  | error e =>
      exact ⟨fun g hg => hg, fun e he _ => he⟩
  | excused hcause =>
      subst hcause
      constructor
      · intro g hg
        cases hg
      · intro e he hknown
        cases he
        exact absurd rfl (hknown _ _)

end Registry

namespace Sample

/-- A package that constructs carts as well, under an import path of its own. -/
def audit : Package where
  importPath := "shop/audit"
  name := none
  types := [⟨"Cart", .struct, []⟩, ⟨"Ledger", .struct, []⟩]
  functions := [⟨"NewCart", [], [type "Cart"]⟩]

/-- A request with a parameter that nothing needs. -/
def wasteful : Request :=
  { request with params := [.param (type "Clock"), .param (type "Coupon")] }

theorem load_audited :
    registry.Within (registry.register audit) ∧
      (registry.register audit).load request = .ok graph ∧
      (registry.register audit).load wasteful = .error (.unusedParam (type "Coupon")) := by
  have hwithin : registry.Within (registry.register audit) :=
    Registry.within_register (by with_unfolding_all rfl)
  have hwasteful : registry.load wasteful = .error (.unusedParam (type "Coupon")) := by
    with_unfolding_all rfl
  refine ⟨hwithin, (Registry.load_of_within hwithin request).1 graph load_request, ?_⟩
  exact (Registry.load_of_within hwithin wasteful).2 _ hwasteful (by simp)

end Sample

end Wiring
