import Mathlib.Data.List.Forall2
import Mathlib.Data.List.Nodup
import Wiring.Generation
import Wiring.Proofs.Documents
import Wiring.Resolution.Load

/-!
What a registry holds after packages are registered: the last package of each import path, with its
own path filled in wherever a declaration leaves it out. It does not matter which of a package's own
types are written with the path.
-/

namespace Wiring

namespace TypeRef

variable {t t' : TypeRef} {path : String}

/-- An exported name without an import path. -/
def IsOpen (t : TypeRef) : Prop :=
  t.importPath = "" ∧ t.isExported = true

/-- An open reference gets the import path and keeps the rest; any other reference stays as it is. -/
structure Closes (path : String) (t t' : TypeRef) : Prop where
  filled : t.IsOpen → t' = ⟨path, t.name, t.pointer⟩
  kept : ¬ t.IsOpen → t' = t

/-- The same reference, with or without the import path of the package that it stands in. -/
def Respells (path : String) (t t' : TypeRef) : Prop :=
  t' = t ∨ t.IsOpen ∧ t' = t.withImportPath path ∨ t'.IsOpen ∧ t = t'.withImportPath path

end TypeRef

section Alike

variable (R : TypeRef → TypeRef → Prop)

/-- Two fields are the same but for their types, which are related. -/
structure FieldDecl.Alike (field field' : FieldDecl) : Prop where
  name : field'.name = field.name
  type : R field.type field'.type

structure TypeDecl.Alike (decl decl' : TypeDecl) : Prop where
  name : decl'.name = decl.name
  kind : decl'.kind = decl.kind
  fields : List.Forall₂ (FieldDecl.Alike R) decl.fields decl'.fields

structure FunctionDecl.Alike (decl decl' : FunctionDecl) : Prop where
  name : decl'.name = decl.name
  params : List.Forall₂ R decl.params decl'.params
  results : List.Forall₂ R decl.results decl'.results

/-- Two packages are the same but for their references, which are related one by one. -/
structure Package.Alike (package package' : Package) : Prop where
  importPath : package'.importPath = package.importPath
  name : package'.name = package.name
  types : List.Forall₂ (TypeDecl.Alike R) package.types package'.types
  functions : List.Forall₂ (FunctionDecl.Alike R) package.functions package'.functions

end Alike

namespace Package

variable {package package' : Package} {t t' : TypeRef} {path : String}

section References

theorem qualifyRef_of_isOpen (h : t.IsOpen) : qualifyRef path t = t.withImportPath path := by
  rw [qualifyRef, if_pos]
  rw [TypeRef.isBuiltin, h.1, h.2]
  rfl

theorem qualifyRef_of_not_isOpen (h : ¬ t.IsOpen) : qualifyRef path t = t := by
  rw [qualifyRef, if_neg]
  simpa [TypeRef.IsOpen, TypeRef.isBuiltin] using h

theorem closes_qualifyRef (path : String) (t : TypeRef) : t.Closes path (qualifyRef path t) :=
  ⟨qualifyRef_of_isOpen, qualifyRef_of_not_isOpen⟩

/-- Only the empty path leaves a reference open. -/
theorem not_isOpen_qualifyRef (hpath : path ≠ "") (t : TypeRef) : ¬ (qualifyRef path t).IsOpen := by
  by_cases h : t.IsOpen
  · rw [qualifyRef_of_isOpen h]
    exact fun hopen => hpath hopen.1
  · rwa [qualifyRef_of_not_isOpen h]

theorem qualifyRef_withImportPath (h : t.IsOpen) :
    qualifyRef path (t.withImportPath path) = t.withImportPath path := by
  by_cases hpath : path = ""
  · subst hpath
    have hsame : t.withImportPath "" = t := by rw [TypeRef.withImportPath, ← h.1]
    rw [hsame, qualifyRef_of_isOpen h, hsame]
  · exact qualifyRef_of_not_isOpen fun hopen => hpath hopen.1

theorem qualifyRef_qualifyRef (path : String) (t : TypeRef) :
    qualifyRef path (qualifyRef path t) = qualifyRef path t := by
  by_cases h : t.IsOpen
  · rw [qualifyRef_of_isOpen h, qualifyRef_withImportPath h]
  · rw [qualifyRef_of_not_isOpen h, qualifyRef_of_not_isOpen h]

theorem qualifyRef_eq_of_respells (h : t.Respells path t') :
    qualifyRef path t = qualifyRef path t' := by
  rcases h with rfl | ⟨hopen, rfl⟩ | ⟨hopen, rfl⟩
  · rfl
  · rw [qualifyRef_of_isOpen hopen, qualifyRef_withImportPath hopen]
  · rw [qualifyRef_of_isOpen hopen, qualifyRef_withImportPath hopen]

end References

/-- The same package, some of whose own types are written with its path here and without it there. -/
def Respells (package package' : Package) : Prop :=
  package.Alike (TypeRef.Respells package.importPath) package'

section Maps

variable {α β : Type} {items items' : List α}

theorem map_eq_of_forall₂ {R : α → α → Prop} {f : α → β} (h : List.Forall₂ R items items')
    (heq : ∀ a a', R a a' → f a = f a') : items.map f = items'.map f := by
  rw [← List.forall₂_eq_eq_eq, List.forall₂_map_left_iff, List.forall₂_map_right_iff]
  exact h.imp heq

end Maps

/-- Filling in the package's own path closes the open references and touches nothing else. -/
theorem alike_qualify (package : Package) :
    package.Alike (TypeRef.Closes package.importPath) package.qualify where
  importPath := rfl
  name := rfl
  types := List.forall₂_map_self (fun decl =>
    ⟨rfl, rfl,
      List.forall₂_map_self (fun field => ⟨rfl, closes_qualifyRef _ field.type⟩) decl.fields⟩) _
  functions := List.forall₂_map_self (fun decl =>
    ⟨rfl, List.forall₂_map_self (closes_qualifyRef _) decl.params,
      List.forall₂_map_self (closes_qualifyRef _) decl.results⟩) _

theorem qualify_qualify (package : Package) : package.qualify.qualify = package.qualify := by
  simp only [qualify, List.map_map, Function.comp_def, qualifyRef_qualifyRef]

theorem not_isOpen_of_mem_qualify (hpath : package.importPath ≠ "") (ht : t ∈ package.qualify.refs) :
    ¬ t.IsOpen := by
  rw [refs_qualify] at ht
  obtain ⟨declared, -, rfl⟩ := List.mem_map.mp ht
  exact not_isOpen_qualifyRef hpath declared

/-- It does not matter where the package's own path is written. -/
theorem Respells.qualify_eq (h : package.Respells package') :
    package'.qualify = package.qualify := by
  obtain ⟨path, name, types, functions⟩ := package
  obtain ⟨path', name', types', functions'⟩ := package'
  obtain ⟨rfl, rfl, htypes, hfunctions⟩ := h
  have href : ∀ t t' : TypeRef, t.Respells path' t' → qualifyRef path' t = qualifyRef path' t' :=
    fun _ _ => qualifyRef_eq_of_respells
  simp only [qualify, mk.injEq, true_and]
  constructor
  · refine (map_eq_of_forall₂ htypes fun decl decl' hdecl => ?_).symm
    have hfields := map_eq_of_forall₂ hdecl.fields
      (f := fun field => ({ field with type := qualifyRef path' field.type } : FieldDecl))
      fun field field' hfield => by rw [hfield.name, href _ _ hfield.type]
    rw [hdecl.name, hdecl.kind, hfields]
  · refine (map_eq_of_forall₂ hfunctions fun decl decl' hdecl => ?_).symm
    rw [hdecl.name, map_eq_of_forall₂ hdecl.params href, map_eq_of_forall₂ hdecl.results href]

end Package

namespace Registry

variable {registry : Registry} {packages packages' : List Package} {path : String}

/-- The package that comes last under an import path. -/
def last? (packages : List Package) (path : String) : Option Package :=
  packages.reverse.find? fun package => package.importPath == path

theorem get?_register (registry : Registry) (package : Package) (path : String) :
    (registry.register package).get? path =
      if package.importPath = path then some package.qualify else registry.get? path := by
  simp only [get?, register, Std.ExtTreeMap.getElem?_insert, Std.LawfulEqOrd.compare_eq_iff_eq]

theorem ofList_concat (packages : List Package) (package : Package) :
    ofList (packages ++ [package]) = (ofList packages).register package :=
  List.foldl_concat ..

theorem last?_concat (packages : List Package) (package : Package) (path : String) :
    last? (packages ++ [package]) path =
      if package.importPath = path then some package else last? packages path := by
  rw [last?, List.reverse_concat, List.find?_cons]
  by_cases h : package.importPath = path
  · rw [if_pos h, beq_iff_eq.mpr h]
  · rw [if_neg h, beq_eq_false_iff_ne.mpr h]
    rfl

theorem get?_ofList_last (packages : List Package) (path : String) :
    (ofList packages).get? path = (last? packages path).map Package.qualify := by
  induction packages using List.reverseRecOn with
  | nil => rfl
  | append_singleton packages package ih =>
      rw [ofList_concat, get?_register, last?_concat, ih]
      split <;> rfl

theorem importPath_of_last? {package : Package} (h : last? packages path = some package) :
    package.importPath = path := by
  simpa using List.find?_some h

theorem exists_declared_of_get? {package : Package}
    (h : (ofList packages).get? path = some package) :
    ∃ declared : Package, declared.importPath = path ∧ declared.qualify = package := by
  rw [get?_ofList_last, Option.map_eq_some_iff] at h
  obtain ⟨declared, hlast, hqualify⟩ := h
  exact ⟨declared, importPath_of_last? hlast, hqualify⟩

/-- A package is found under its own import path. -/
theorem importPath_ofList {package : Package} (h : (ofList packages).get? path = some package) :
    package.importPath = path := by
  obtain ⟨declared, hpath, rfl⟩ := exists_declared_of_get? h
  exact hpath

/-- Among packages of different import paths the last one of a path is the only one. -/
theorem last?_eq_some_iff {package : Package}
    (hdistinct : (packages.map Package.importPath).Nodup) :
    last? packages path = some package ↔ package ∈ packages ∧ package.importPath = path := by
  constructor
  · intro h
    exact ⟨List.mem_reverse.mp (List.mem_of_find?_eq_some h), importPath_of_last? h⟩
  · rintro ⟨hmem, hpath⟩
    cases hlast : last? packages path with
    | none =>
        have hnone := List.find?_eq_none.mp hlast package (List.mem_reverse.mpr hmem)
        exact absurd (beq_iff_eq.mpr hpath) hnone
    | some other =>
        have hother := List.mem_reverse.mp (List.mem_of_find?_eq_some hlast)
        have hsame : other.importPath = package.importPath :=
          (importPath_of_last? hlast).trans hpath.symm
        rw [List.inj_on_of_nodup_map hdistinct hother hmem hsame]

/-- Packages that are only spelled differently make one registry. -/
theorem ofList_eq_of_respells (h : List.Forall₂ Package.Respells packages packages') :
    ofList packages' = ofList packages := by
  rw [ofList, ofList]
  generalize empty = registry
  induction h generalizing registry with
  | nil => rfl
  | cons hfirst _ ih =>
      rw [List.foldl_cons, List.foldl_cons, ih, register, register, hfirst.qualify_eq,
        hfirst.importPath]

/-- What a registry is after packages were registered one after the other. -/
structure Registers (registry : Registry) (packages : List Package) : Prop where
  held : ∀ path, registry.get? path = (last? packages path).map Package.qualify
  replaced : ∀ package, registry.replace package =
    ((last? packages package.importPath).map Package.qualify, ofList (packages ++ [package]))
  others : ∀ package path, path ≠ package.importPath →
    (registry.replace package).2.get? path = registry.get? path
  settled : ∀ path package, registry.get? path = some package →
    package.importPath = path ∧ package.qualify = package
  closed : ∀ path package, path ≠ "" → registry.get? path = some package →
    ∀ t ∈ package.refs, ¬ t.IsOpen
  filled : ∀ path declared, last? packages path = some declared →
    ∃ package, registry.get? path = some package ∧ declared.Alike (TypeRef.Closes path) package
  respelled : ∀ packages', List.Forall₂ Package.Respells packages packages' →
    (∀ request, (ofList packages').load request = registry.load request) ∧
      ∀ g, (ofList packages').catalog.generate g = registry.catalog.generate g

/-- After any packages the registry holds the last one of each path, with its own path filled in;
a registration changes nothing else, and how a package spells its own types makes no difference. -/
theorem registers_ofList (packages : List Package) : (ofList packages).Registers packages where
  held := get?_ofList_last packages
  replaced package := by rw [replace, get?_ofList_last, ofList_concat]
  others package path hpath := by
    rw [replace, get?_register, if_neg (Ne.symm hpath)]
  settled path package h := by
    obtain ⟨declared, hpath, rfl⟩ := exists_declared_of_get? h
    exact ⟨hpath, Package.qualify_qualify declared⟩
  closed path package hpath h t ht := by
    obtain ⟨declared, rfl, rfl⟩ := exists_declared_of_get? h
    exact Package.not_isOpen_of_mem_qualify hpath ht
  filled path declared h := by
    refine ⟨declared.qualify, by rw [get?_ofList_last, h, Option.map_some], ?_⟩
    rw [← importPath_of_last? h]
    exact Package.alike_qualify declared
  respelled packages' h := by
    rw [ofList_eq_of_respells h]
    exact ⟨fun _ => rfl, fun _ => rfl⟩

end Registry

namespace Sample

/-- A package with a pool of connections, both types of its own. -/
def database (path : String) : Package :=
  ⟨"app/db", none, [⟨"Pool", .struct, [⟨"Conn", ⟨path, "Conn", true⟩⟩]⟩],
    [⟨"New", [⟨path, "Conn", true⟩, .builtin "string"], [⟨path, "Pool", false⟩, .error]⟩]⟩

theorem respells_database : (database "").Respells (database "app/db") := by
  have hfilled (name : String) (pointer : Bool) (hname : Text.startsUppercase name = true) :
      TypeRef.Respells "app/db" ⟨"", name, pointer⟩ ⟨"app/db", name, pointer⟩ :=
    Or.inr (Or.inl ⟨⟨rfl, hname⟩, rfl⟩)
  have hconn := hfilled "Conn" true (by decide +kernel)
  have hpool := hfilled "Pool" false (by decide +kernel)
  exact
    { importPath := rfl
      name := rfl
      types := .cons ⟨rfl, rfl, .cons ⟨rfl, hconn⟩ .nil⟩ .nil
      functions := .cons
        ⟨rfl, .cons hconn (.cons (Or.inl rfl) .nil), .cons hpool (.cons (Or.inl rfl) .nil)⟩ .nil }

/-- The path is written nowhere or everywhere, and all that is made from the registry is the same. -/
theorem registers_database : database "app/db" ≠ database "" ∧
    (database "").Respells (database "app/db") ∧
    (∀ request, (Registry.ofList [database "app/db"]).load request =
      (Registry.ofList [database ""]).load request) ∧
    ∀ g, (Registry.ofList [database "app/db"]).catalog.generate g =
      (Registry.ofList [database ""]).catalog.generate g :=
  ⟨by decide +kernel, respells_database,
    (Registry.registers_ofList [database ""]).respelled _ (.cons respells_database .nil)⟩

end Sample

end Wiring
