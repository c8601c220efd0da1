import Std.Data.ExtTreeMap
import Wiring.Package

/-!
The packages known to a resolution, one for each import path, all in qualified form. Two registries
that answer every look-up alike are equal.
-/

namespace Wiring

structure Registry where
  packages : Std.ExtTreeMap String Package

namespace Registry

def empty : Registry :=
  ⟨∅⟩

instance : EmptyCollection Registry :=
  ⟨empty⟩

def get? (registry : Registry) (importPath : String) : Option Package :=
  registry.packages[importPath]?

def contains (registry : Registry) (importPath : String) : Bool :=
  registry.packages.contains importPath

def size (registry : Registry) : Nat :=
  registry.packages.size

def isEmpty (registry : Registry) : Bool :=
  registry.packages.isEmpty

def toList (registry : Registry) : List Package :=
  registry.packages.toList.map (·.2)

/-- Registers a package in qualified form. A package with the same import path gives way. -/
def register (registry : Registry) (package : Package) : Registry :=
  ⟨registry.packages.insert package.importPath package.qualify⟩

/-- Registers packages one after the other. -/
def ofList (packages : List Package) : Registry :=
  packages.foldl register empty

/-- Registers a package; the package that gave way is answered as well. -/
def replace (registry : Registry) (package : Package) : Option Package × Registry :=
  (registry.get? package.importPath, registry.register package)

def catalog (registry : Registry) : Catalog :=
  ⟨registry.get?⟩

def typeDecl? (registry : Registry) (t : TypeRef) : Option TypeDecl :=
  registry.catalog.typeDecl? t

/-- The name of the package at an import path, derived from the path if it is not registered. -/
def packageName (registry : Registry) (importPath : String) : String :=
  registry.catalog.packageName importPath

end Registry

end Wiring
