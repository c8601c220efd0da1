import Wiring.Proofs.Reordering
import Wiring.Resolution.Lookup

/-!
What a search for a provider answers. The exported functions that construct the type decide, whatever
pointer was asked for; only where there is none, a struct is looked for. What a look-up remembers
shows in no answer.
-/

namespace Wiring

theorem TypeRef.isError_iff {t : TypeRef} : t.isError = true ↔ t = .error := by
  obtain ⟨path, name, pointer⟩ := t
  simp only [isError, isBuiltin, error, builtin, Bool.and_eq_true, beq_iff_eq, Bool.not_eq_true',
    mk.injEq]
  tauto

namespace FunctionDecl

variable {decl : FunctionDecl} {t result : TypeRef} {fallible : Bool}

/-- The results of a function are those of a constructor: a value which is not the error, and the
error besides if it can fail. -/
structure Constructs (decl : FunctionDecl) (result : TypeRef) (fallible : Bool) : Prop where
  value : result ≠ .error
  results : decl.results = if fallible then [result, .error] else [result]

theorem constructs?_eq_some_iff :
    decl.constructs? = some (result, fallible) ↔ decl.Constructs result fallible := by
  constructor
  · intro h
    unfold constructs? at h
    split at h
    case h_1 value heq =>
      split at h
      case isTrue => cases h
      case isFalse hvalue =>
        cases h
        exact ⟨mt TypeRef.isError_iff.mpr hvalue, heq⟩
    case h_2 value failure heq =>
      split at h
      case isTrue hboth =>
        cases h
        obtain ⟨hvalue, hfailure⟩ := Bool.and_eq_true_iff.mp hboth
        rw [TypeRef.isError_iff.mp hfailure] at heq
        exact ⟨fun herror => by simp [TypeRef.isError_iff.mpr herror] at hvalue, heq⟩
      case isFalse => cases h
    case h_3 => cases h
  · rintro ⟨hvalue, hresults⟩
    have hnot : result.isError = false := Bool.eq_false_iff.mpr (mt TypeRef.isError_iff.mp hvalue)
    cases fallible with
    | false => simp [constructs?, hresults, hnot]
    | true => simp [constructs?, hresults, hnot, TypeRef.isError_iff]

/-- An exported function that constructs a type or the pointer to it. -/
def Makes (decl : FunctionDecl) (t : TypeRef) : Prop :=
  decl.isExported = true ∧
    ∃ result fallible, decl.Constructs result fallible ∧ result.base = t.base

theorem makes_iff : decl.Makes t ↔
    (decl.isExported && decl.constructs?.any fun made => made.1.sameBase t) = true := by
  simp only [Makes, Bool.and_eq_true, Option.any_eq_true, Prod.exists, TypeRef.sameBase_iff,
    constructs?_eq_some_iff]

instance (decl : FunctionDecl) (t : TypeRef) : Decidable (decl.Makes t) :=
  decidable_of_iff' _ makes_iff

end FunctionDecl

namespace Package

variable {package : Package} {t result : TypeRef} {decl : FunctionDecl} {fallible : Bool}

/-- The functions that a search for a type has to choose from. -/
def candidates (package : Package) (t : TypeRef) : List FunctionDecl :=
  package.functions.filter (·.Makes t)

/-- A type is declared under a name, and none is before it. -/
def DeclaresFirst (package : Package) (name : String) (decl : TypeDecl) : Prop :=
  ∃ before after, package.types = before ++ decl :: after ∧ decl.name = name ∧
    ∀ earlier ∈ before, earlier.name ≠ name

/-- What the search for a type comes to in its package. -/
inductive Answers (package : Package) (t : TypeRef) : Except LookupError Provider → Prop where
  | ambiguous {names : List String} (hseveral : 2 ≤ (package.candidates t).length)
      (hnames : names.Perm ((package.candidates t).map fun decl =>
        package.packageName ++ "." ++ decl.name))
      (hsorted : names.Pairwise (· ≤ ·)) : Answers package t (.error (.ambiguous names))
  | function {decl : FunctionDecl} {result : TypeRef} {fallible : Bool}
      (hone : package.candidates t = [decl]) (hconstructs : decl.Constructs result fallible) :
      Answers package t (.ok
        { importPath := package.importPath
          package := package.packageName
          name := decl.name
          kind := .function
          inputs := decl.params.map fun param => ⟨none, param⟩
          result, fallible })
  | struct {decl : TypeDecl} (hnone : package.candidates t = [])
      (hfirst : package.DeclaresFirst t.name decl) (hexported : decl.isExported = true)
      (hstruct : decl.kind = .struct) :
      Answers package t (.ok
        { importPath := package.importPath
          package := package.packageName
          name := decl.name
          kind := .struct
          inputs := (decl.fields.filter fun field => field.isExported && !field.type.isBuiltin).map
            fun field => ⟨some field.name, field.type⟩
          result := t
          fallible := false })
  | notFound (hnone : package.candidates t = [])
      (hundeclared : ∀ decl, package.DeclaresFirst t.name decl → decl.isExported = true →
        decl.kind ≠ .struct) : Answers package t (.error .notFound)

theorem map_fst_constructors (package : Package) (t : TypeRef) :
    (package.constructors t).map Prod.fst = package.candidates t := by
  calc (package.constructors t).map Prod.fst
      = (package.functions.filter FunctionDecl.isExported).filterMap
          (Option.guard fun decl => decl.constructs?.any fun made => made.1.sameBase t) := by
        rw [constructors, List.map_filterMap]
        refine List.filterMap_congr fun decl _ => ?_
        cases hmade : decl.constructs? with
        | none => simp [Option.guard, hmade]
        | some made => by_cases hbase : made.1.sameBase t = true <;> simp [Option.guard, hmade, hbase]
    _ = (package.functions.filter FunctionDecl.isExported).filter
          fun decl => decl.constructs?.any fun made => made.1.sameBase t :=
        congrFun List.filterMap_eq_filter _
    _ = package.candidates t := by
        rw [candidates, List.filter_filter]
        refine List.filter_congr fun decl _ => ?_
        simp [FunctionDecl.makes_iff, Bool.and_comm]

theorem typeDecl?_eq_some_iff {name : String} {decl : TypeDecl} :
    package.typeDecl? name = some decl ↔ package.DeclaresFirst name decl := by
  rw [typeDecl?, List.find?_eq_some_iff_append]
  simp [DeclaresFirst]
  tauto

theorem structDecl?_eq_some_iff {decl : TypeDecl} : package.structDecl? t = some decl ↔
    package.DeclaresFirst t.name decl ∧ decl.isExported = true ∧ decl.kind = .struct := by
  simp [structDecl?, Option.filter_eq_some_iff, typeDecl?_eq_some_iff]

/-- Without candidates a struct is looked for. -/
theorem answers_iff_of_none {answer : Except LookupError Provider}
    (hnone : package.candidates t = []) : package.Answers t answer ↔
      answer = match package.structDecl? t with
        | some decl => .ok (package.structProvider decl t)
        | none => .error .notFound := by
  constructor
  · intro h
    cases h with
    | ambiguous hseveral => simp [hnone] at hseveral
    | function hone => simp [hnone] at hone
    | struct _ hfirst hexported hstruct =>
        rw [structDecl?_eq_some_iff.mpr ⟨hfirst, hexported, hstruct⟩]
        rfl
    | notFound _ hundeclared =>
        cases hdecl : package.structDecl? t with
        | none => rfl
        | some decl =>
            obtain ⟨hfirst, hexported, hstruct⟩ := structDecl?_eq_some_iff.mp hdecl
            exact absurd hstruct (hundeclared decl hfirst hexported)
  · rintro rfl
    cases hdecl : package.structDecl? t with
    | none =>
        refine .notFound hnone fun decl hfirst hexported hstruct => ?_
        cases hdecl.symm.trans (structDecl?_eq_some_iff.mpr ⟨hfirst, hexported, hstruct⟩)
    | some decl =>
        obtain ⟨hfirst, hexported, hstruct⟩ := structDecl?_eq_some_iff.mp hdecl
        exact .struct hnone hfirst hexported hstruct

/-- A single candidate is the provider. -/
theorem answers_iff_of_one {answer : Except LookupError Provider}
    (hone : package.constructors t = [(decl, result, fallible)]) : package.Answers t answer ↔
      answer = .ok (package.functionProvider decl result fallible) := by
  have hcandidates : package.candidates t = [decl] := by
    rw [← map_fst_constructors, hone, List.map_singleton]
  obtain ⟨-, -, hconstructs, -⟩ := mem_constructors (hone ▸ List.mem_singleton_self _)
  constructor
  · intro h
    cases h with
    | ambiguous hseveral => simp [hcandidates] at hseveral
    | function hone' hconstructs' =>
        obtain rfl := List.singleton_inj.mp (hcandidates.symm.trans hone')
        rw [FunctionDecl.constructs?_eq_some_iff.mpr hconstructs'] at hconstructs
        cases hconstructs
        rfl
    | struct hnone => simp [hcandidates] at hnone
    | notFound hnone => simp [hcandidates] at hnone
  · rintro rfl
    exact .function hcandidates (FunctionDecl.constructs?_eq_some_iff.mp hconstructs)

/-- Several candidates are listed in order. -/
theorem answers_iff_of_several {answer : Except LookupError Provider}
    (hseveral : 2 ≤ (package.candidates t).length) : package.Answers t answer ↔
      answer = .error (.ambiguous ((package.candidates t).map fun decl =>
        package.packageName ++ "." ++ decl.name).mergeSort) := by
  constructor
  · intro h
    cases h with
    | ambiguous _ hnames hsorted => rw [eq_mergeSort_iff.mpr ⟨hnames, hsorted⟩]
    | function hone => simp [hone] at hseveral
    | struct hnone => simp [hnone] at hseveral
    | notFound hnone => simp [hnone] at hseveral
  · rintro rfl
    obtain ⟨hnames, hsorted⟩ := eq_mergeSort_iff.mp rfl
    exact .ambiguous hseveral hnames hsorted

/-- The answer of a package is the one that is described, and no other. -/
theorem answers_iff {answer : Except LookupError Provider} :
    package.Answers t answer ↔ answer = package.provider t := by
  have hcandidates := map_fst_constructors package t
  unfold provider
  split
  case h_1 hnone =>
    rw [hnone, List.map_nil, eq_comm] at hcandidates
    exact answers_iff_of_none hcandidates
  case h_2 decl result fallible hone => exact answers_iff_of_one hone
  case h_3 hempty hsingle =>
    have hseveral : 2 ≤ (package.candidates t).length := by
      rw [← hcandidates, List.length_map]
      match hlist : package.constructors t with
      | [] => exact absurd hlist hempty
      | [(decl, result, fallible)] => exact absurd hlist (hsingle decl result fallible)
      | _ :: _ :: _ => simp
    rw [answers_iff_of_several hseveral, ← hcandidates, List.map_map]
    rfl

end Package

namespace Registry

variable {registry : Registry} {t : TypeRef}

/-- What the search for a type comes to. -/
inductive Answers (registry : Registry) (t : TypeRef) : Except LookupError Provider → Prop where
  | builtin (hbuiltin : t.importPath = "") : Answers registry t (.error .notFound)
  | unknownPackage (hpath : t.importPath ≠ "") (hnone : registry.get? t.importPath = none) :
      Answers registry t (.error .unknownPackage)
  | package {package : Package} {answer : Except LookupError Provider} (hpath : t.importPath ≠ "")
      (hpackage : registry.get? t.importPath = some package) (h : package.Answers t answer) :
      Answers registry t answer

theorem answers_iff_find {answer : Except LookupError Provider} :
    registry.Answers t answer ↔ answer = registry.find t := by
  unfold find TypeRef.isBuiltin
  by_cases hpath : t.importPath = ""
  · rw [if_pos (beq_iff_eq.mpr hpath)]
    constructor
    · intro h
      cases h with
      | builtin => rfl
      | unknownPackage hpath' => exact absurd hpath hpath'
      | package hpath' => exact absurd hpath hpath'
    · rintro rfl
      exact .builtin hpath
  · rw [if_neg (mt beq_iff_eq.mp hpath)]
    cases hpackage : registry.get? t.importPath with
    | none =>
        constructor
        · intro h
          cases h with
          | builtin hpath' => exact absurd hpath' hpath
          | unknownPackage => rfl
          | package _ hpackage' => cases hpackage.symm.trans hpackage'
        · rintro rfl
          exact .unknownPackage hpath hpackage
    | some package =>
        rw [← Package.answers_iff]
        constructor
        · intro h
          cases h with
          | builtin hpath' => exact absurd hpath' hpath
          | unknownPackage _ hnone => cases hpackage.symm.trans hnone
          | package _ hpackage' h =>
              cases hpackage.symm.trans hpackage'
              exact h
        · exact .package hpath hpackage

end Registry

/-- A search for a type, on behalf of a chain of types that need it. -/
structure Query where
  type : TypeRef
  path : List TypeRef

namespace Lookup

variable {registry : Registry}

/-- Answers a query. A search that fails leaves what is remembered as it was. -/
def ask (lookup : Lookup registry) (query : Query) :
    Except ResolveError Provider × Lookup registry :=
  match lookup.find query.type query.path with
  | .ok (p, after) => (.ok p, after)
  | .error e => (.error e, lookup)

/-- Answers queries one after the other. -/
def askAll (lookup : Lookup registry) : List Query → List (Except ResolveError Provider)
  | [] => []
  | query :: queries => (lookup.ask query).1 :: (lookup.ask query).2.askAll queries

/-- A query is answered from the registry, whatever is remembered. -/
theorem fst_ask (lookup : Lookup registry) (query : Query) : (lookup.ask query).1 =
    (registry.find query.type).mapError fun cause => .lookup cause query.type query.path := by
  unfold ask
  cases hfind : registry.find query.type with
  | error cause =>
      rw [find_of_error lookup query.path hfind]
      rfl
  | ok p =>
      obtain ⟨after, hlookup⟩ := find_of_ok lookup query.path hfind
      rw [hlookup]
      rfl

theorem askAll_eq_map (lookup : Lookup registry) (queries : List Query) :
    lookup.askAll queries = queries.map fun query =>
      (registry.find query.type).mapError fun cause => .lookup cause query.type query.path := by
  induction queries generalizing lookup with
  | nil => rfl
  | cons query queries ih => rw [askAll, fst_ask, ih, List.map_cons]

/-- A look-up that has answered any queries before answers like a fresh one: as the declarations of
the package say, and an answer that fails has the type and the chain of its query. -/
theorem answers_askAll (registry : Registry) (queries : List Query) :
    List.Forall₂ (fun query answer =>
      answer = ((fresh registry).ask query).1 ∧
        ∃ found, (∀ other, registry.Answers query.type other ↔ other = found) ∧
          answer = found.mapError fun cause => .lookup cause query.type query.path)
      queries ((fresh registry).askAll queries) := by
  rw [askAll_eq_map, List.forall₂_map_right_iff, List.forall₂_same]
  intro query _
  exact ⟨(fst_ask _ query).symm, registry.find query.type,
    fun other => Registry.answers_iff_find, rfl⟩

end Lookup

end Wiring
