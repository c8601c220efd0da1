import Wiring.Provider

/-!
Why a function cannot be resolved.
-/

namespace Wiring

inductive ResolveError where
  /-- A type has no provider; the chain leads to it from a result, outermost first. -/
  | lookup (cause : LookupError) (dependency : TypeRef) (chain : List TypeRef)
  /-- A type needs itself; the first and the last entry have the same base type. -/
  | cycle (cycle : List TypeRef)
  /-- Substitutions lead back to a type they have passed. -/
  | aliasCycle (cycle : List TypeRef)
  | unusedParam (t : TypeRef)
  | duplicateParam (t : TypeRef)
  /-- An error cannot be a parameter. -/
  | errorParam
  | duplicateErrorResult
deriving DecidableEq, Repr

namespace ResolveError

/-- The dependencies that led to a failing search, none for a search made for a result. -/
def chainText (chain : List TypeRef) : String :=
  if chain.isEmpty then "" else " (needed by " ++ TypeRef.arrows chain ++ ")"

def message : ResolveError → String
  | lookup .notFound dependency chain =>
    "no provider for " ++ dependency.display ++ chainText chain
  | lookup .unknownPackage dependency chain =>
    "unknown package " ++ Text.quoted dependency.importPath ++ " while resolving " ++
      dependency.display ++ chainText chain
  | lookup (.ambiguous candidates) dependency chain =>
    "ambiguous providers for " ++ dependency.display ++ ": " ++ ", ".intercalate candidates ++
      chainText chain
  | cycle path => "dependency cycle: " ++ TypeRef.arrows path
  | aliasCycle path => "alias cycle: " ++ TypeRef.arrows path
  | unusedParam t => "external " ++ t.display ++ " is declared but never used"
  | duplicateParam t => "external " ++ t.display ++ " is declared more than once"
  | errorParam => "error cannot be supplied as an external"
  | duplicateErrorResult => "error result is declared more than once"

end ResolveError

end Wiring
