import Wiring.Text.Quoted
import Wiring.Text.Split

/-!
References to Go types. A reference names a type of a package, or a builtin type when the import
path is empty, and says whether the value is held through a pointer. The written form
`"path".*Name` is read by `TypeRef.parse` and written by `TypeRef.display`.
-/

namespace Wiring

/-- A type of a package, optionally behind a pointer. -/
structure TypeRef where
  /-- Import path of the package, empty for a builtin type. -/
  importPath : String
  name : String
  /-- The value is held through a pointer. -/
  pointer : Bool
deriving DecidableEq, Repr, Inhabited

inductive ReferenceError where
  /-- There is no import path where one is needed. -/
  | malformed (reference : String)
  | emptyName (reference : String)
  | invalidName (reference name : String)
deriving DecidableEq, Repr

namespace ReferenceError

def message : ReferenceError → String
  | malformed reference =>
    "dependency must have the form '<import>.<type>', got " ++ Text.quoted reference
  | emptyName reference => "missing type name in " ++ Text.quoted reference
  | invalidName reference name =>
    "invalid type name " ++ Text.quoted name ++ " in " ++ Text.quoted reference

end ReferenceError

/-- The first character is alphabetic or an underscore, the others may be numeric as well. -/
def isIdentifier : List Char → Bool
  | [] => false
  | first :: rest =>
    (Text.isAlphabetic first || first == '_') &&
      rest.all fun c => Text.isAlphanumeric c || c == '_'

namespace TypeRef

/-- References are ordered by import path, then by name, values before pointers. -/
instance : Ord TypeRef where
  compare := compareLex (compareOn importPath) (compareLex (compareOn name) (compareOn pointer))

instance : Std.TransOrd TypeRef :=
  inferInstanceAs (Std.TransCmp
    (compareLex (compareOn importPath) (compareLex (compareOn name) (compareOn pointer))))

instance : Std.LawfulEqOrd TypeRef where
  eq_of_compare {a b} h := by
    obtain ⟨hpath, hname, hpointer⟩ : compare a.importPath b.importPath = .eq ∧
        compare a.name b.name = .eq ∧ compare a.pointer b.pointer = .eq := by
      have h' : compareLex (compareOn importPath)
        (compareLex (compareOn name) (compareOn pointer)) a b = .eq := h
      simpa only [compareLex_eq_eq, compareOn] using h'
    cases a
    cases b
    simp_all

def builtin (name : String) : TypeRef :=
  ⟨"", name, false⟩

def error : TypeRef :=
  builtin "error"

def isBuiltin (t : TypeRef) : Bool :=
  t.importPath == ""

def isError (t : TypeRef) : Bool :=
  t.isBuiltin && !t.pointer && t.name == "error"

/-- Exported names start with an uppercase letter. -/
def isExported (t : TypeRef) : Bool :=
  Text.startsUppercase t.name

def withPointer (t : TypeRef) (pointer : Bool) : TypeRef :=
  { t with pointer }

def withImportPath (t : TypeRef) (importPath : String) : TypeRef :=
  { t with importPath }

/-- The type itself, without a pointer. -/
def base (t : TypeRef) : TypeRef :=
  t.withPointer false

/-- Equal import paths and names; pointers do not count. -/
def sameBase (t u : TypeRef) : Bool :=
  t.importPath == u.importPath && t.name == u.name

theorem base_eq_iff {t u : TypeRef} :
    t.base = u.base ↔ t.importPath = u.importPath ∧ t.name = u.name := by
  simp [base, withPointer]

/-- Having the same base means being the same type once pointers are taken away. -/
theorem sameBase_iff {t u : TypeRef} : t.sameBase u = true ↔ t.base = u.base := by
  simp [sameBase, base_eq_iff]

/-- A leading star, if there is one, and the text after it. -/
def splitStar : List Char → Bool × List Char
  | '*' :: rest => (true, rest)
  | cs => (false, cs)

/-- A reference with the given import path whose name part, which may carry the star, is `part`. -/
def parseName (reference : String) (importPath : List Char) (star : Bool) (part : List Char) :
    Except ReferenceError TypeRef :=
  let (nameStar, name) := splitStar part
  if name = [] then
    .error (.emptyName reference)
  else if isIdentifier name then
    .ok ⟨String.ofList importPath, String.ofList name, star || nameStar⟩
  else
    .error (.invalidName reference (String.ofList name))

/-- Reads a reference. The last dot separates the import path, which may be quoted, from the name;
without a dot the type is builtin. -/
def parse (reference : String) : Except ReferenceError TypeRef :=
  let body := Text.trimBlank reference.toList
  if body = [] then
    .error (.malformed reference)
  else
    let (star, rest) := splitStar body
    match Text.breakLast '.' rest with
    | none => parseName reference [] star rest
    | some (before, part) =>
      let importPath := Text.trimQuotes (Text.trimBlank before)
      if importPath = [] then
        .error (.malformed reference)
      else
        parseName reference importPath star part

/-- Reads a reference that must name an import path. -/
def parseQualified (reference : String) : Except ReferenceError TypeRef := do
  let t ← parse reference
  if t.isBuiltin then throw (.malformed reference) else pure t

def display (t : TypeRef) : String :=
  let name := (if t.pointer then "*" else "") ++ t.name
  if t.isBuiltin then name else "\"" ++ t.importPath ++ "\"." ++ name

/-- References in sequence, joined by arrows. -/
def arrows (path : List TypeRef) : String :=
  " -> ".intercalate (path.map display)

end TypeRef

end Wiring
