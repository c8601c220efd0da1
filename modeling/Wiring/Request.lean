import Wiring.Aliases
import Wiring.Dependency

/-!
What is to be generated: a function of some name in some package, the values it accepts and
returns, and how its dependencies are built.
-/

namespace Wiring

structure Request where
  name : String
  /-- Import path of the package the function is generated into. -/
  target : String
  /-- The values the function accepts, in order. -/
  params : List Dependency
  /-- The values the function returns, in order. -/
  results : List Dependency
  aliases : Aliases
  /-- Each dependency is built once and shared. -/
  hoist : Bool
deriving Inhabited

namespace Request

/-- A request that accepts and returns nothing. -/
def init (name target : String) (hoist : Bool) : Request :=
  ⟨name, target, [], [], ∅, hoist⟩

def addParam (request : Request) (param : Dependency) : Request :=
  { request with params := request.params ++ [param] }

def addResult (request : Request) (result : Dependency) : Request :=
  { request with results := request.results ++ [result] }

def addAlias (request : Request) (source target : TypeRef) : Except AliasError Request := do
  pure { request with aliases := ← request.aliases.insert source target }

def hasErrorResult (request : Request) : Bool :=
  request.results.any Dependency.isError

end Request

end Wiring
