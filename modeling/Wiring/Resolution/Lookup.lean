import Wiring.Resolution.Error

/-!
Provider search that remembers its answers for the time of one resolution. Only a provider that was
found is remembered; a search that fails is made again.
-/

namespace Wiring

/-- The providers found in a registry so far, by the type that was asked for. -/
structure Lookup (registry : Registry) where
  cache : Std.ExtTreeMap TypeRef Provider
  /-- What is remembered is the answer of the registry. -/
  sound : ∀ t p, cache[t]? = some p → registry.find t = .ok p

namespace Lookup

variable {registry : Registry}

def fresh (registry : Registry) : Lookup registry where
  cache := ∅
  sound := by simp

def remember (lookup : Lookup registry) (t : TypeRef) (p : Provider)
    (hfind : registry.find t = .ok p) : Lookup registry where
  cache := lookup.cache.insert t p
  sound := by
    intro u q hget
    rw [Std.ExtTreeMap.getElem?_insert] at hget
    split at hget
    · rename_i heq
      cases Std.LawfulEqOrd.compare_eq_iff_eq.mp heq
      cases hget
      exact hfind
    · exact lookup.sound u q hget

/-- The provider of a type; `path` is the chain of types that needed it, for the error. -/
def find (lookup : Lookup registry) (t : TypeRef) (path : List TypeRef) :
    Except ResolveError (Provider × Lookup registry) :=
  match lookup.cache[t]? with
  | some p => .ok (p, lookup)
  | none =>
    match hfind : registry.find t with
    | .error cause => .error (.lookup cause t path)
    | .ok p => .ok (p, lookup.remember t p hfind)

theorem find_ok {lookup after : Lookup registry} {t : TypeRef} {path : List TypeRef} {p : Provider}
    (h : lookup.find t path = .ok (p, after)) : registry.find t = .ok p := by
  unfold find at h
  split at h
  case h_1 q hget =>
    cases h
    exact lookup.sound t p hget
  case h_2 =>
    split at h
    case h_1 => cases h
    case h_2 q hfind =>
      cases h
      exact hfind

theorem find_of_ok (lookup : Lookup registry) {t : TypeRef} (path : List TypeRef) {p : Provider}
    (h : registry.find t = .ok p) : ∃ after, lookup.find t path = .ok (p, after) := by
  unfold find
  split
  case h_1 q hget =>
    have hq := lookup.sound t q hget
    rw [h] at hq
    cases hq
    exact ⟨lookup, rfl⟩
  case h_2 =>
    split
    case h_1 cause hfind =>
      rw [h] at hfind
      cases hfind
    case h_2 q hfind =>
      rw [h] at hfind
      cases hfind
      exact ⟨_, rfl⟩

theorem find_of_error (lookup : Lookup registry) {t : TypeRef} (path : List TypeRef)
    {cause : LookupError} (h : registry.find t = .error cause) :
    lookup.find t path = .error (.lookup cause t path) := by
  unfold find
  split
  case h_1 q hget =>
    have hq := lookup.sound t q hget
    rw [h] at hq
    cases hq
  case h_2 =>
    split
    case h_1 other hfind =>
      rw [h] at hfind
      cases hfind
      rfl
    case h_2 q hfind =>
      rw [h] at hfind
      cases hfind

end Lookup

end Wiring
