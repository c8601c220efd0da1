import Wiring.TypeRef

/-!
What a function to generate accepts or returns: a value of some type, or the builtin error.
-/

namespace Wiring

inductive Dependency where
  /-- A value built by a provider. -/
  | type (t : TypeRef)
  /-- A value supplied by the caller of the generated function. -/
  | param (t : TypeRef)
  /-- The builtin error. -/
  | error
deriving Repr

namespace Dependency

def type? : Dependency → Option TypeRef
  | type t | param t => some t
  | error => none

def isError : Dependency → Bool
  | error => true
  | _ => false

theorem isError_eq (d : Dependency) : d.isError = d.type?.isNone := by
  cases d <;> rfl

/-- Two dependencies are the same when they carry the same type; an error is only an error. -/
instance : BEq Dependency where
  beq a b := a.type? == b.type?

/-- The builtin error type stands for the error itself. -/
def ofType (t : TypeRef) : Dependency :=
  if t.isError then error else type t

def display (d : Dependency) : String :=
  match d.type? with
  | some t => t.display
  | none => "error"

end Dependency

end Wiring
