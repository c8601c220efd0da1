import Wiring.Graph.Basic

/-!
The functions that are generated: parameters, one binding for each value a constructor builds, and
the values returned. A binding whose constructor can fail is followed by an early return.
-/

namespace Wiring.Go

structure Name where
  /-- What stands for the package; the names of the package itself and builtin names have none. -/
  qualifier : Option String
  name : String
deriving DecidableEq, Repr

structure TypeExpr where
  pointer : Bool
  name : Name
deriving DecidableEq, Repr

/-- How the value of a variable is used. -/
inductive Access where
  | direct
  /-- As a pointer to it. -/
  | address
  /-- As the value it points to. -/
  | content
deriving DecidableEq, Repr

structure Operand where
  access : Access
  name : String
deriving DecidableEq, Repr

inductive Zero where
  | nil
  | emptyString
  | falsehood
  | number
  /-- A composite literal without fields. -/
  | literal (type : TypeExpr)
  /-- The content of a fresh variable, for a type of unknown kind. -/
  | fresh (type : TypeExpr)
deriving DecidableEq, Repr

structure Param where
  name : String
  type : TypeExpr
deriving DecidableEq, Repr

inductive ResultType where
  | value (type : TypeExpr)
  | error
deriving DecidableEq, Repr

/-- What an early return gives for a result. -/
inductive Skipped where
  | zero (value : Zero)
  /-- The error that caused the return. -/
  | failure
deriving DecidableEq, Repr

/-- What the last return gives for a result. -/
inductive Returned where
  | value (operand : Operand)
  | noError
deriving DecidableEq, Repr

structure Argument where
  /-- The field that takes the value, in a composite literal. -/
  field : Option String
  value : Operand
deriving DecidableEq, Repr

/-- A variable bound to what a constructor builds. -/
structure Binding where
  node : NodeId
  name : String
  provider : Provider
  constructor : Name
  args : List Argument
deriving DecidableEq, Repr

structure Function where
  name : String
  params : List Param
  results : List ResultType
  skipped : List Skipped
  body : List Binding
  /-- What is returned in the end; a function without results does not return at all. -/
  returned : List Returned
deriving DecidableEq, Repr

end Wiring.Go
