import Wiring.Document.Basic
import Wiring.Registry

/-!
Package indexes: the declarations of several packages in one file. An index is read from a
document and written to one; what was written reads back as the same index.
-/

namespace Wiring

/-- The packages of an index, in written order. -/
structure PackageIndex where
  packages : List Package
deriving DecidableEq, Repr

namespace Source

def typeRef? (source : Source) (document : Document) : Option TypeRef := do
  (TypeRef.parse (← source.text? document)).toOption

/-- A list that may be left out when it is empty. -/
def listOrNil? {α : Type} (source : Source) (item : Document → Option α) :
    Option Document → Option (List α)
  | none => some []
  | some document => source.list? item document

def typeKind? (source : Source) : Option Document → Option TypeKind
  | none => some .struct
  | some document => source.choice? document >>= TypeKind.ofName?

def fieldDecl? (source : Source) (document : Document) : Option FieldDecl :=
  match source.record? ["name", "type"] document with
  | some [some name, some type] => do
    some ⟨← source.text? name, ← source.typeRef? type⟩
  | _ => none

def typeDecl? (source : Source) (document : Document) : Option TypeDecl :=
  match source.record? ["name", "kind", "fields"] document with
  | some [some name, kind, fields] => do
    some ⟨← source.text? name, ← source.typeKind? kind,
      ← source.listOrNil? source.fieldDecl? fields⟩
  | _ => none

def functionDecl? (source : Source) (document : Document) : Option FunctionDecl :=
  match source.record? ["name", "params", "results"] document with
  | some [some name, params, results] => do
    some ⟨← source.text? name, ← source.listOrNil? source.typeRef? params,
      ← source.listOrNil? source.typeRef? results⟩
  | _ => none

/-- The declarations of a package. Only the import path is required. -/
def package? (source : Source) (document : Document) : Option Package :=
  match source.record? ["import", "name", "types", "functions"] document with
  | some [some importPath, name, types, functions] => do
    some ⟨← source.text? importPath, ← source.optionalText? name,
      ← source.listOrNil? source.typeDecl? types,
      ← source.listOrNil? source.functionDecl? functions⟩
  | _ => none

def packageIndex? (source : Source) (document : Document) : Option PackageIndex :=
  match source.record? ["packages"] document with
  | some [packages] => do some ⟨← source.listOrNil? source.package? packages⟩
  | _ => none

end Source

namespace TypeRef

def toDocument (t : TypeRef) : Document :=
  .text t.display

end TypeRef

namespace FieldDecl

def toDocument (field : FieldDecl) : Document :=
  .object [("name", .text field.name), ("type", field.type.toDocument)]

end FieldDecl

namespace TypeDecl

/-- A declaration without fields does not mention them. -/
def toDocument (decl : TypeDecl) : Document :=
  .object <|
    [("name", .text decl.name), ("kind", .text decl.kind.display)] ++
      if decl.fields.isEmpty then []
      else [("fields", .list (decl.fields.map FieldDecl.toDocument))]

end TypeDecl

namespace FunctionDecl

def toDocument (decl : FunctionDecl) : Document :=
  .object [("name", .text decl.name),
    ("params", .list (decl.params.map TypeRef.toDocument)),
    ("results", .list (decl.results.map TypeRef.toDocument))]

end FunctionDecl

namespace Package

/-- The name is mentioned only where one is declared. -/
def toDocument (package : Package) : Document :=
  .object <|
    [("import", .text package.importPath)] ++
      (match package.name with
        | some name => [("name", .text name)]
        | none => []) ++
      [("types", .list (package.types.map TypeDecl.toDocument)),
        ("functions", .list (package.functions.map FunctionDecl.toDocument))]

end Package

namespace PackageIndex

def empty : PackageIndex :=
  ⟨[]⟩

instance : EmptyCollection PackageIndex :=
  ⟨empty⟩

def merge (index other : PackageIndex) : PackageIndex :=
  ⟨index.packages ++ other.packages⟩

def toDocument (index : PackageIndex) : Document :=
  .object [("packages", .list (index.packages.map Package.toDocument))]

/-- The first import path that is declared by two packages. -/
def repeated? (seen : List String) : List Package → Option String
  | [] => none
  | package :: rest =>
    if package.importPath ∈ seen then some package.importPath
    else repeated? (package.importPath :: seen) rest

/-- The packages as a registry; the error is an import path declared more than once. -/
def toRegistry (index : PackageIndex) : Except String Registry :=
  match repeated? [] index.packages with
  | some importPath => .error importPath
  | none => .ok (Registry.ofList index.packages)

end PackageIndex

end Wiring
