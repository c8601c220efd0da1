import Wiring.Naming

/-!
Declarations of packages: the types and functions that a package exports to provider search. A
package is registered in qualified form, in which no reference leaves its import path open.
-/

namespace Wiring

/-- What kind of type a declaration introduces; it decides the zero value. -/
inductive TypeKind where
  | struct | interface | map | slice | func | chan | string | bool | number
deriving DecidableEq, Repr, Inhabited

namespace TypeKind

def all : List TypeKind :=
  [struct, interface, map, slice, func, chan, string, bool, number]

def display : TypeKind → String
  | struct => "struct"
  | interface => "interface"
  | map => "map"
  | slice => "slice"
  | func => "func"
  | chan => "chan"
  | string => "string"
  | bool => "bool"
  | number => "number"

def ofName? (name : String) : Option TypeKind :=
  all.find? fun kind => kind.display == name

/-- The zero value of the kind is nil. -/
def isNilable : TypeKind → Bool
  | interface | map | slice | func | chan => true
  | _ => false

end TypeKind

structure FieldDecl where
  name : String
  type : TypeRef
deriving DecidableEq, Repr

namespace FieldDecl

def isExported (field : FieldDecl) : Bool :=
  Text.startsUppercase field.name

end FieldDecl

structure TypeDecl where
  name : String
  kind : TypeKind
  fields : List FieldDecl
deriving DecidableEq, Repr

namespace TypeDecl

def isExported (decl : TypeDecl) : Bool :=
  Text.startsUppercase decl.name

end TypeDecl

structure FunctionDecl where
  name : String
  params : List TypeRef
  results : List TypeRef
deriving DecidableEq, Repr

namespace FunctionDecl

def isExported (decl : FunctionDecl) : Bool :=
  Text.startsUppercase decl.name

/-- The type a function constructs and whether it can fail. Only a single value, or a value and an
error, make a constructor. -/
def constructs? (decl : FunctionDecl) : Option (TypeRef × Bool) :=
  match decl.results with
  | [value] => if value.isError then none else some (value, false)
  | [value, failure] =>
    if !value.isError && failure.isError then some (value, true) else none
  | _ => none

end FunctionDecl

structure Package where
  importPath : String
  /-- The declared package name, when it is not the one the import path suggests. -/
  name : Option String
  types : List TypeDecl
  functions : List FunctionDecl
deriving DecidableEq, Repr

namespace Package

/-- The declared name, or else the one derived from the import path. -/
def packageName (package : Package) : String :=
  package.name.getD (Naming.packageName package.importPath)

/-- The first declared type of a name. -/
def typeDecl? (package : Package) (name : String) : Option TypeDecl :=
  package.types.find? fun decl => decl.name == name

/-- Builtin types of Go are lowercase, so an exported name without an import path can only be a type
of the package that mentions it. -/
def qualifyRef (importPath : String) (t : TypeRef) : TypeRef :=
  if t.isBuiltin && t.isExported then t.withImportPath importPath else t

/-- Fills in the package's own import path wherever a declaration leaves it out. -/
def qualify (package : Package) : Package :=
  let ref := qualifyRef package.importPath
  { package with
    types := package.types.map fun decl =>
      { decl with fields := decl.fields.map fun field => { field with type := ref field.type } }
    functions := package.functions.map fun decl =>
      { decl with params := decl.params.map ref, results := decl.results.map ref } }

end Package

structure Catalog where
  package? : String → Option Package

namespace Catalog

def typeDecl? (catalog : Catalog) (t : TypeRef) : Option TypeDecl := do
  (← catalog.package? t.importPath).typeDecl? t.name

/-- The name of the package at an import path, derived from the path if there is no package. -/
def packageName (catalog : Catalog) (importPath : String) : String :=
  match catalog.package? importPath with
  | some package => package.packageName
  | none => Naming.packageName importPath

end Catalog

end Wiring
