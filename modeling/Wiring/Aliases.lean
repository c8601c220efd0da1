import Std.Data.ExtTreeMap
import Wiring.TypeRef

/-!
Substitutions of types: wherever `from` is asked for, `to` is supplied. Chains of substitutions are
followed to their end; a chain that comes back to a type it has passed is an error.
-/

namespace Wiring

/-- At most one substitute for each type, and never the type itself. -/
structure Aliases where
  entries : Std.ExtTreeMap TypeRef TypeRef

inductive AliasError where
  | identity (source : TypeRef)
  | ambiguous (source first second : TypeRef)
deriving DecidableEq, Repr

namespace AliasError

def message : AliasError → String
  | identity source => "alias maps " ++ source.display ++ " to itself"
  | ambiguous source first second =>
    "ambiguous alias for " ++ source.display ++ ": " ++ first.display ++ " or " ++ second.display

end AliasError

namespace Aliases

def empty : Aliases :=
  ⟨∅⟩

instance : EmptyCollection Aliases :=
  ⟨empty⟩

instance : Inhabited Aliases :=
  ⟨empty⟩

def get? (aliases : Aliases) (source : TypeRef) : Option TypeRef :=
  aliases.entries[source]?

def size (aliases : Aliases) : Nat :=
  aliases.entries.size

def isEmpty (aliases : Aliases) : Bool :=
  aliases.entries.isEmpty

def toList (aliases : Aliases) : List (TypeRef × TypeRef) :=
  aliases.entries.toList

/-- Adds a substitution. The same one may be added again, another one for the same type may not. -/
def insert (aliases : Aliases) (source target : TypeRef) : Except AliasError Aliases :=
  if source = target then
    .error (.identity source)
  else
    match aliases.get? source with
    | none => .ok ⟨aliases.entries.insert source target⟩
    | some existing =>
      if existing = target then .ok aliases else .error (.ambiguous source existing target)

/-- How many types with a substitute are not among the ones already passed. -/
def unpassed (aliases : Aliases) (passed : List TypeRef) : Nat :=
  (aliases.entries.keys.filter fun t => !passed.contains t).length

theorem unpassed_cons_lt {aliases : Aliases} {passed : List TypeRef} {t : TypeRef}
    (ht : t ∈ aliases.entries) (hnew : t ∉ passed) :
    aliases.unpassed (t :: passed) < aliases.unpassed passed := by
  have hkeys : t ∈ aliases.entries.keys := Std.ExtTreeMap.mem_keys.mpr ht
  have hsub : aliases.entries.keys.filter (fun u => !(t :: passed).contains u) =
      (aliases.entries.keys.filter fun u => !passed.contains u).filter (· ≠ t) := by
    rw [List.filter_filter]
    congr 1
    funext u
    by_cases h : u = t <;> simp [h]
  rw [unpassed, unpassed, hsub]
  exact List.length_filter_lt_length_iff_exists.mpr ⟨t, by simp [hkeys, hnew], by simp⟩

/-- Follows the substitutions from `current`, which is not among the types passed so far, the
latest first. A substitute that was met before closes a loop, which is the error. -/
def follow (aliases : Aliases) (passed : List TypeRef) (current : TypeRef)
    (hnew : current ∉ passed) : Except (List TypeRef) TypeRef :=
  match hget : aliases.entries[current]? with
  | none => .ok current
  | some next =>
    if hseen : next ∈ current :: passed then
      .error ((current :: passed).reverse.dropWhile (· ≠ next) ++ [next])
    else
      have hkey : current ∈ aliases.entries :=
        Std.ExtTreeMap.mem_iff_isSome_getElem?.mpr (by simp [hget])
      have := unpassed_cons_lt hkey hnew
      follow aliases (current :: passed) next hseen
termination_by aliases.unpassed passed

/-- The type supplied for `t`: the end of the chain of substitutions, or the loop it runs into. -/
def resolve (aliases : Aliases) (t : TypeRef) : Except (List TypeRef) TypeRef :=
  aliases.follow [] t (by simp)

end Aliases

end Wiring
