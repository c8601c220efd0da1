import Std.Data.ExtTreeMap
import Std.Data.ExtTreeSet
import Wiring.Naming

/-!
The imports of a file that is being written. The first use of a package gives it the name that
qualifies its types and functions from then on: its package name, or the first numbered variant of
that name which no other import has.
-/

namespace Wiring

structure Import where
  path : String
  /-- The name that stands for the package in the file. -/
  qualifier : String
  /-- The types of the package that are used. -/
  types : Std.ExtTreeSet String
  /-- The package goes by another name than its own. -/
  isRenamed : Bool

/-- The imports of a file in the package `target`. They are found by the names that stand for them,
and these names by the paths. -/
structure Imports where
  target : String
  byQualifier : Std.ExtTreeMap String Import
  byPath : Std.ExtTreeMap String String

namespace Imports

def empty (target : String) : Imports :=
  ⟨target, ∅, ∅⟩

/-- Forgets every use, for a file in the package `target`. -/
def reset (imports : Imports) (target : String) : Imports :=
  { imports with target, byQualifier := ∅, byPath := ∅ }

/-- Nothing is left of a table that is reset. -/
theorem reset_eq (imports : Imports) (target : String) : imports.reset target = empty target :=
  rfl

def qualifiers (imports : Imports) : List String :=
  imports.byQualifier.keys

def isQualifier (imports : Imports) (name : String) : Bool :=
  imports.byQualifier.contains name

/-- Takes in a package under a name. -/
def enter (imports : Imports) (path package qualifier : String) : Imports :=
  { imports with
    byQualifier := imports.byQualifier.insert qualifier ⟨path, qualifier, ∅, qualifier != package⟩
    byPath := imports.byPath.insert path qualifier }

/-- Uses a package and says what qualifies its names. Builtin types belong to no package, and the
target's own names are not qualified. -/
def add (imports : Imports) (path package : String) : Option String × Imports :=
  if path = "" ∨ path = imports.target then
    (none, imports)
  else
    match imports.byPath[path]? with
    | some qualifier => (some qualifier, imports)
    | none =>
      let qualifier := Naming.firstFree package imports.qualifiers
      (some qualifier, imports.enter path package qualifier)

/-- Notes the use of a type of the package that a name stands for. -/
def note (imports : Imports) (qualifier type : String) : Imports :=
  { imports with
    byQualifier := imports.byQualifier.modify qualifier fun entry =>
      { entry with types := entry.types.insert type } }

/-- Uses a type of a package and says what qualifies it. -/
def addType (imports : Imports) (path package type : String) : Option String × Imports :=
  match imports.add path package with
  | (none, imports) => (none, imports)
  | (some qualifier, imports) => (some qualifier, imports.note qualifier type)

/-- All imports, in the order of their names. -/
def toList (imports : Imports) : List Import :=
  imports.byQualifier.toList.map Prod.snd

/-- All imports, in the order of their paths. -/
def sorted (imports : Imports) : List Import :=
  imports.toList.mergeSort fun a b => a.path ≤ b.path

def size (imports : Imports) : Nat :=
  imports.byQualifier.size

/-- How many packages go by another name than their own. -/
def renamed (imports : Imports) : Nat :=
  imports.toList.countP Import.isRenamed

/-- How many types of imported packages are used. -/
def typeCount (imports : Imports) : Nat :=
  imports.toList.foldl (fun count entry => count + entry.types.size) 0

end Imports

end Wiring
