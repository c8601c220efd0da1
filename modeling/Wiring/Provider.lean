import Wiring.Registry

/-!
Providers of types. A type is provided by the one exported function of its package that constructs
it, or, when there is no such function, by a composite literal of an exported struct.
-/

namespace Wiring

inductive ProviderKind where
  /-- A call of a constructor function. -/
  | function
  /-- A composite literal. -/
  | struct
deriving DecidableEq, Repr

/-- A value that a provider needs. -/
structure Input where
  /-- The struct field that receives the value, for a composite literal. -/
  field : Option String
  type : TypeRef
deriving DecidableEq, Repr

structure Provider where
  importPath : String
  /-- The package name that qualifies the constructor. -/
  package : String
  name : String
  kind : ProviderKind
  inputs : List Input
  /-- The type produced, with its pointer. -/
  result : TypeRef
  fallible : Bool
deriving DecidableEq, Repr

namespace Provider

def display (p : Provider) : String :=
  match p.kind with
  | .function => p.package ++ "." ++ p.name
  | .struct => (if p.result.pointer then "&" else "") ++ p.package ++ "." ++ p.name ++ "\x7b\x7d"

end Provider

inductive LookupError where
  /-- The type is builtin, or its package declares neither a constructor nor a struct for it. -/
  | notFound
  | unknownPackage
  /-- Several functions construct the type; their qualified names are in order. -/
  | ambiguous (candidates : List String)
deriving DecidableEq, Repr

namespace Package

/-- The exported functions that construct a type or a pointer to it, in declared order, with what
each of them produces and whether it can fail. -/
def constructors (package : Package) (t : TypeRef) : List (FunctionDecl × TypeRef × Bool) :=
  (package.functions.filter FunctionDecl.isExported).filterMap fun decl =>
    match decl.constructs? with
    | some (result, fallible) => if result.sameBase t then some (decl, result, fallible) else none
    | none => none

def functionProvider (package : Package) (decl : FunctionDecl) (result : TypeRef)
    (fallible : Bool) : Provider where
  importPath := package.importPath
  package := package.packageName
  name := decl.name
  kind := .function
  inputs := decl.params.map fun param => ⟨none, param⟩
  result := result
  fallible := fallible

/-- The provider that writes a composite literal. It fills the exported fields whose type is not
builtin. -/
def structProvider (package : Package) (decl : TypeDecl) (t : TypeRef) : Provider where
  importPath := package.importPath
  package := package.packageName
  name := decl.name
  kind := .struct
  inputs := (decl.fields.filter fun field => field.isExported && !field.type.isBuiltin).map
    fun field => ⟨some field.name, field.type⟩
  result := t
  fallible := false

/-- The exported struct that a package declares under the name of a type. -/
def structDecl? (package : Package) (t : TypeRef) : Option TypeDecl :=
  (package.typeDecl? t.name).filter fun decl => decl.isExported && decl.kind == .struct

def provider (package : Package) (t : TypeRef) : Except LookupError Provider :=
  match package.constructors t with
  | [] =>
    match package.structDecl? t with
    | some decl => .ok (package.structProvider decl t)
    | none => .error .notFound
  | [(decl, result, fallible)] => .ok (package.functionProvider decl result fallible)
  | several =>
    .error (.ambiguous
      ((several.map fun (decl, _) => package.packageName ++ "." ++ decl.name).mergeSort))

end Package

namespace Registry

def find (registry : Registry) (t : TypeRef) : Except LookupError Provider :=
  if t.isBuiltin then
    .error .notFound
  else
    match registry.get? t.importPath with
    | none => .error .unknownPackage
    | some package => package.provider t

/-- Every type that some declaration could provide, without pointers. -/
def bases (registry : Registry) : List TypeRef :=
  registry.packages.toList.flatMap fun (importPath, package) =>
    package.types.map (fun decl => ⟨importPath, decl.name, false⟩) ++
      package.functions.flatMap fun decl => decl.results.map TypeRef.base

end Registry

namespace FunctionDecl

theorem mem_results_of_constructs? {decl : FunctionDecl} {t : TypeRef} {fallible : Bool}
    (h : decl.constructs? = some (t, fallible)) : t ∈ decl.results := by
  unfold constructs? at h
  split at h
  case h_1 value heq => split at h <;> simp_all
  case h_2 value failure heq => split at h <;> simp_all
  case h_3 => simp at h

end FunctionDecl

namespace Package

theorem mem_constructors {package : Package} {t result : TypeRef} {decl : FunctionDecl}
    {fallible : Bool} (h : (decl, result, fallible) ∈ package.constructors t) :
    decl ∈ package.functions ∧ decl.isExported = true ∧
      decl.constructs? = some (result, fallible) ∧ result.sameBase t = true := by
  simp only [constructors, List.mem_filterMap, List.mem_filter] at h
  obtain ⟨f, ⟨hmem, hexp⟩, hf⟩ := h
  cases hc : f.constructs? with
  | none => simp [hc] at hf
  | some pair =>
    simp only [hc] at hf
    split at hf
    case isTrue hbase =>
      simp only [Option.some.injEq, Prod.mk.injEq] at hf
      obtain ⟨rfl, rfl, rfl⟩ := hf
      exact ⟨hmem, hexp, hc, hbase⟩
    case isFalse => simp at hf

end Package

namespace Registry

/-- A type with a provider is among the types that some declaration could provide. -/
theorem base_mem_bases {registry : Registry} {t : TypeRef} {p : Provider}
    (h : registry.find t = .ok p) : t.base ∈ registry.bases := by
  unfold find at h
  split at h
  · simp at h
  · split at h
    · simp at h
    case h_2 package hget =>
      have hpair : (t.importPath, package) ∈ registry.packages.toList :=
        Std.ExtTreeMap.mem_toList_iff_getElem?_eq_some.mpr hget
      refine List.mem_flatMap.mpr ⟨_, hpair, List.mem_append.mpr ?_⟩
      unfold Package.provider at h
      split at h
      case h_1 hnone =>
        split at h
        case h_1 decl hdecl =>
          simp only [Package.structDecl?, Option.filter_eq_some_iff, Package.typeDecl?] at hdecl
          have hname := List.find?_some hdecl.1
          exact Or.inl (List.mem_map.mpr ⟨decl, List.mem_of_find?_eq_some hdecl.1, by
            simp_all [TypeRef.base, TypeRef.withPointer]⟩)
        case h_2 => simp at h
      case h_2 decl result fallible hone =>
        have hthis : (decl, result, fallible) ∈ package.constructors t := by simp [hone]
        obtain ⟨hmem, -, hc, hbase⟩ := Package.mem_constructors hthis
        exact Or.inr (List.mem_flatMap.mpr ⟨decl, hmem, List.mem_map.mpr
          ⟨result, FunctionDecl.mem_results_of_constructs? hc, TypeRef.sameBase_iff.mp hbase⟩⟩)
      case h_3 => simp at h

end Registry

end Wiring
