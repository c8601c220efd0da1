import Std.Data.ExtTreeSet
import Wiring.Graph.Basic
import Wiring.Request
import Wiring.Resolution.Lookup

/-!
The state of a resolution. The path holds the types whose inputs are being resolved, outermost
first; they are the ones marked as being visited. A type whose inputs are all resolved is marked
with the node that was built for it.
-/

namespace Wiring

/-- What a resolution consults. -/
structure Scope where
  registry : Registry
  aliases : Aliases
  /-- The types of the parameters, in declared order. -/
  params : List TypeRef

/-- The node that supplies a requested type, and the type after substitution. -/
structure Supply where
  node : NodeId
  type : TypeRef
deriving DecidableEq, Repr

/-- How far the resolution of a type has come. -/
inductive Mark where
  /-- The inputs of its provider are being resolved. -/
  | visiting
  /-- A node was built for it. -/
  | resolved (node : NodeId)
deriving DecidableEq, Repr

/-- The parameter that supplies a type: the one of exactly this type, else the first one that
differs by the pointer only. -/
def Scope.external? (scope : Scope) (t : TypeRef) : Option NodeId :=
  (scope.params.findIdx? (· == t)).or (scope.params.findIdx? t.sameBase)

/-- What a resolution has done so far, while the inputs of the types on `path` are resolved. -/
structure Resolution (scope : Scope) (path : List TypeRef) where
  lookup : Lookup scope.registry
  nodes : Array Node
  /-- The nodes of the parameters that supply something. -/
  used : Std.ExtTreeSet NodeId
  /-- By type without its pointer, since one provider serves a type and the pointer to it. -/
  marks : Std.ExtTreeMap TypeRef Mark
  fallible : Bool
  visiting_iff : ∀ b : TypeRef, marks[b]? = some .visiting ↔ b ∈ path.map TypeRef.base

namespace Resolution

variable {scope : Scope} {path : List TypeRef}

/-- Only the parameters have nodes. -/
def start (scope : Scope) : Resolution scope [] where
  lookup := .fresh scope.registry
  nodes := (scope.params.zipIdx.map fun (t, position) => Node.external t position).toArray
  used := ∅
  marks := ∅
  fallible := false
  visiting_iff := by simp

def use (s : Resolution scope path) (id : NodeId) : Resolution scope path :=
  { s with used := s.used.insert id }

/-- The node to use again for a type: none unless hoisting. -/
def reusable? (s : Resolution scope path) (hoist : Bool) (t : TypeRef) : Option NodeId :=
  match s.marks[t.base]?, hoist with
  | some (.resolved id), true => some id
  | _, _ => none

/-- Starts with the inputs of a type whose provider was found. -/
def enter (s : Resolution scope path) (t : TypeRef) (lookup : Lookup scope.registry) :
    Resolution scope (path ++ [t]) where
  lookup := lookup
  nodes := s.nodes
  used := s.used
  marks := s.marks.insert t.base .visiting
  fallible := s.fallible
  visiting_iff := by
    intro b
    rw [Std.ExtTreeMap.getElem?_insert]
    split
    · rename_i heq
      simp [Std.LawfulEqOrd.compare_eq_iff_eq.mp heq]
    · rename_i hne
      have hb : b ≠ t.base := fun h => hne (Std.LawfulEqOrd.compare_eq_iff_eq.mpr h.symm)
      simp [s.visiting_iff b, hb]

/-- Builds the node of a type from its resolved inputs. -/
def leave {t : TypeRef} (s : Resolution scope (path ++ [t])) (hnew : t.base ∉ path.map TypeRef.base)
    (p : Provider) (edges : List Edge) : Resolution scope path where
  lookup := s.lookup
  nodes := s.nodes.push (.provider t p edges)
  used := s.used
  marks := s.marks.insert t.base (.resolved s.nodes.size)
  fallible := s.fallible || p.fallible
  visiting_iff := by
    intro b
    rw [Std.ExtTreeMap.getElem?_insert]
    split
    · rename_i heq
      cases Std.LawfulEqOrd.compare_eq_iff_eq.mp heq
      simpa using hnew
    · rename_i hne
      have hb : b ≠ t.base := fun h => hne (Std.LawfulEqOrd.compare_eq_iff_eq.mpr h.symm)
      simp [s.visiting_iff b, hb]

/-- The first parameter that supplies nothing. -/
def unused? (s : Resolution scope path) : Option TypeRef :=
  (scope.params.zipIdx.find? fun (_, id) => id ∉ s.used).map (·.1)

end Resolution

namespace Registry

/-- How many of the types that could be provided are not on a path. -/
def unopened (registry : Registry) (path : List TypeRef) : Nat :=
  (registry.bases.filter fun base => !(path.map TypeRef.base).contains base).length

theorem unopened_append_lt {registry : Registry} {path : List TypeRef} {t : TypeRef}
    {p : Provider} (hfind : registry.find t = .ok p) (hpath : t.base ∉ path.map TypeRef.base) :
    registry.unopened (path ++ [t]) < registry.unopened path := by
  have hsub : registry.bases.filter (fun b => !((path ++ [t]).map TypeRef.base).contains b) =
      (registry.bases.filter fun b => !(path.map TypeRef.base).contains b).filter (· ≠ t.base) := by
    rw [List.filter_filter]
    congr 1
    funext b
    by_cases h : b = t.base <;> simp [h]
  rw [unopened, unopened, hsub]
  refine List.length_filter_lt_length_iff_exists.mpr ⟨t.base, ?_, by simp⟩
  exact List.mem_filter.mpr ⟨base_mem_bases hfind, by simpa using hpath⟩

end Registry

end Wiring
