import Wiring.Generation
import Wiring.Proofs.Consultation
import Wiring.Proofs.Failure

/-!
The order of declarations does not matter: not the order in which packages are registered, not the
order of the functions in a package, and not the order in which substitutions are added. All that
resolution and generation ask of a registry has the same answer.
-/

namespace Wiring

namespace Aliases

variable {aliases aliases' : Aliases} {source target : TypeRef}

/-- A substitution is added if it leads to another type and no other one was added before. -/
theorem insert_eq_ok_iff : aliases.insert source target = .ok aliases' ↔
    source ≠ target ∧ (∀ existing, aliases.get? source = some existing → existing = target) ∧
      aliases' = ⟨aliases.entries.insert source target⟩ := by
  unfold insert
  split
  case isTrue heq => simp [heq]
  case isFalse hne =>
    cases hget : aliases.get? source with
    | none => simp [hne, eq_comm]
    | some existing =>
        by_cases hsame : existing = target
        · have hkept : (⟨aliases.entries.insert source target⟩ : Aliases) = aliases := by
            apply congrArg Aliases.mk
            apply Std.ExtTreeMap.ext_getElem?
            intro key
            rw [Std.ExtTreeMap.getElem?_insert]
            split
            case isTrue heq =>
              cases Std.LawfulEqOrd.compare_eq_iff_eq.mp heq
              exact (hget.trans (congrArg some hsame)).symm
            case isFalse => rfl
          simp [hne, hsame, hkept, eq_comm]
        · simp [hne, hsame]

/-- Two substitutions that are added one after the other can be added the other way round. -/
theorem insert_comm {first second : TypeRef × TypeRef}
    (h : (do (← aliases.insert first.1 first.2).insert second.1 second.2) = .ok aliases') :
    (do (← aliases.insert second.1 second.2).insert first.1 first.2) = .ok aliases' := by
  obtain ⟨mid, hfirst, hsecond⟩ := Except.bind_eq_ok_iff.mp h
  obtain ⟨hne, hold, rfl⟩ := insert_eq_ok_iff.mp hfirst
  obtain ⟨hne', hold', rfl⟩ := insert_eq_ok_iff.mp hsecond
  simp only [get?_insert] at hold'
  have hagree : first.1 = second.1 → first.2 = second.2 := fun heq => hold' _ (if_pos heq)
  refine Except.bind_eq_ok_iff.mpr ⟨_, insert_eq_ok_iff.mpr ⟨hne', ?_, rfl⟩, ?_⟩
  · intro existing hget
    by_cases heq : first.1 = second.1
    · rw [← hagree heq]
      exact hold existing (heq ▸ hget)
    · exact hold' existing ((if_neg heq).trans hget)
  · refine insert_eq_ok_iff.mpr ⟨hne, ?_, ?_⟩
    · intro existing hget
      rw [get?_insert] at hget
      split at hget
      case isTrue heq =>
        cases hget
        exact (hagree heq.symm).symm
      case isFalse => exact hold existing hget
    · refine congrArg Aliases.mk (Std.ExtTreeMap.ext_getElem? fun key => ?_)
      simp only [Std.ExtTreeMap.getElem?_insert, Std.LawfulEqOrd.compare_eq_iff_eq]
      by_cases hkey : first.1 = key
      · by_cases hkey' : second.1 = key
        · simp [hkey, hkey', hagree (hkey.trans hkey'.symm)]
        · simp [hkey, hkey']
      · simp [hkey]

end Aliases

/-- A run of steps that can be taken in either order ends alike in every order. -/
theorem foldlM_eq_ok_of_perm {ε σ α : Type} {step : σ → α → Except ε σ}
    (hswap : ∀ s a b s', (do step (← step s a) b) = .ok s' → (do step (← step s b) a) = .ok s')
    {items items' : List α} (h : items.Perm items') {s s' : σ}
    (hok : items.foldlM step s = .ok s') : items'.foldlM step s = .ok s' := by
  induction h generalizing s with
  | nil => exact hok
  | cons a _ ih =>
      rw [List.foldlM_cons] at hok ⊢
      obtain ⟨mid, hfirst, hrest⟩ := Except.bind_eq_ok_iff.mp hok
      exact Except.bind_eq_ok_iff.mpr ⟨mid, hfirst, ih hrest⟩
  | swap a b rest =>
      simp only [List.foldlM_cons, ← bind_assoc] at hok ⊢
      obtain ⟨last, hboth, hrest⟩ := Except.bind_eq_ok_iff.mp hok
      exact Except.bind_eq_ok_iff.mpr ⟨last, hswap s b a last hboth, hrest⟩
  | trans _ _ ih ih' => exact ih' (ih hok)

namespace Request

/-- Adds substitutions one after the other. -/
def addAliases (request : Request) (pairs : List (TypeRef × TypeRef)) :
    Except AliasError Request :=
  pairs.foldlM (fun request pair => request.addAlias pair.1 pair.2) request

theorem addAlias_eq_ok_iff {request request' : Request} {source target : TypeRef} :
    request.addAlias source target = .ok request' ↔ ∃ aliases,
      request.aliases.insert source target = .ok aliases ∧ request' = { request with aliases } := by
  rw [addAlias, Except.bind_eq_ok_iff]
  refine exists_congr fun aliases => and_congr_right fun _ => ?_
  simp [pure, Except.pure, eq_comm]

theorem addAlias_comm {request request' : Request} {first second : TypeRef × TypeRef}
    (h : (do (← request.addAlias first.1 first.2).addAlias second.1 second.2) = .ok request') :
    (do (← request.addAlias second.1 second.2).addAlias first.1 first.2) = .ok request' := by
  obtain ⟨mid, hfirst, hsecond⟩ := Except.bind_eq_ok_iff.mp h
  obtain ⟨aliases, hinsert, rfl⟩ := addAlias_eq_ok_iff.mp hfirst
  obtain ⟨both, hinsert', rfl⟩ := addAlias_eq_ok_iff.mp hsecond
  have hboth := Aliases.insert_comm (Except.bind_eq_ok_iff.mpr ⟨aliases, hinsert, hinsert'⟩)
  obtain ⟨aliases', hthis, hthat⟩ := Except.bind_eq_ok_iff.mp hboth
  refine Except.bind_eq_ok_iff.mpr ⟨_, addAlias_eq_ok_iff.mpr ⟨aliases', hthis, rfl⟩, ?_⟩
  exact addAlias_eq_ok_iff.mpr ⟨both, hthat, rfl⟩

theorem addAliases_of_perm {request full : Request} {pairs pairs' : List (TypeRef × TypeRef)}
    (h : pairs.Perm pairs') (hfull : request.addAliases pairs = .ok full) :
    request.addAliases pairs' = .ok full := by
  apply foldlM_eq_ok_of_perm _ h hfull
  intro request first second both hboth
  exact addAlias_comm hboth

end Request

theorem pairwise_mergeSort (texts : List String) : texts.mergeSort.Pairwise (· ≤ ·) := by
  refine (List.pairwise_mergeSort ?_ ?_ texts).imp of_decide_eq_true
  · intro a b c hab hbc
    exact decide_eq_true (String.le_trans (of_decide_eq_true hab) (of_decide_eq_true hbc))
  · intro a b
    simpa using String.le_total a b

/-- There is one way to put texts in order. -/
theorem eq_mergeSort_iff {texts sorted : List String} :
    sorted = texts.mergeSort ↔ sorted.Perm texts ∧ sorted.Pairwise (· ≤ ·) := by
  constructor
  · rintro rfl
    exact ⟨List.mergeSort_perm _ _, pairwise_mergeSort texts⟩
  · rintro ⟨hperm, hsorted⟩
    refine List.Perm.eq_of_pairwise (fun _ _ _ _ => String.le_antisymm) hsorted
      (pairwise_mergeSort texts) ?_
    exact hperm.trans (List.mergeSort_perm _ _).symm

/-- Texts in order are determined by which texts there are. -/
theorem mergeSort_eq_of_perm {texts texts' : List String} (h : texts.Perm texts') :
    texts.mergeSort = texts'.mergeSort :=
  eq_mergeSort_iff.mpr ⟨(List.mergeSort_perm _ _).trans h, pairwise_mergeSort texts⟩

namespace Package

/-- The same package with its functions in another order. -/
structure Reordered (package package' : Package) : Prop where
  importPath : package'.importPath = package.importPath
  name : package'.name = package.name
  types : package'.types = package.types
  functions : package.functions.Perm package'.functions

namespace Reordered

variable {package package' : Package}

theorem symm (h : package.Reordered package') : package'.Reordered package :=
  ⟨h.importPath.symm, h.name.symm, h.types.symm, h.functions.symm⟩

theorem qualify (h : package.Reordered package') : package.qualify.Reordered package'.qualify where
  importPath := h.importPath
  name := h.name
  types := by simp only [Package.qualify, h.importPath, h.types]
  functions := by
    simp only [Package.qualify, h.importPath]
    exact h.functions.map _

theorem packageName (h : package.Reordered package') :
    package'.packageName = package.packageName := by
  simp only [Package.packageName, h.name, h.importPath]

theorem typeDecl? (h : package.Reordered package') (name : String) :
    package'.typeDecl? name = package.typeDecl? name := by
  simp only [Package.typeDecl?, h.types]

theorem constructors (h : package.Reordered package') (t : TypeRef) :
    (package.constructors t).Perm (package'.constructors t) :=
  (h.functions.filter _).filterMap _

/-- A type has the same provider: the only constructor stays the only one, and the names of several
are put in order. -/
theorem provider (h : package.Reordered package') (t : TypeRef) :
    package'.provider t = package.provider t := by
  have hperm := h.constructors t
  unfold Package.provider
  cases hmade : package.constructors t with
  | nil =>
      rw [hmade, List.nil_perm] at hperm
      simp only [hperm, Package.structDecl?, h.typeDecl?]
      split <;> simp only [Package.structProvider, h.importPath, h.packageName]
  | cons first rest =>
      rw [hmade] at hperm
      cases rest with
      | nil =>
          obtain ⟨decl, result, fallible⟩ := first
          rw [List.singleton_perm] at hperm
          simp only [← hperm, functionProvider, h.importPath, h.packageName]
      | cons second rest =>
          cases hmade' : package'.constructors t with
          | nil => simp [hmade'] at hperm
          | cons first' rest' =>
              cases rest' with
              | nil => simp [hmade'] at hperm
              | cons second' rest' =>
                  rw [hmade'] at hperm
                  simp only [h.packageName]
                  exact congrArg (Except.error ∘ LookupError.ambiguous)
                    (mergeSort_eq_of_perm (hperm.symm.map _))

end Reordered

end Package

namespace Catalog

/-- Two catalogs with the same package names and the same declarations of types. -/
structure Alike (catalog catalog' : Catalog) : Prop where
  packageName : ∀ path, catalog'.packageName path = catalog.packageName path
  typeDecl? : ∀ t, catalog'.typeDecl? t = catalog.typeDecl? t

variable {catalog catalog' : Catalog}

theorem Alike.typeExpr (h : catalog.Alike catalog') (t : TypeRef) (draft : Draft) :
    Draft.typeExpr catalog' t draft = Draft.typeExpr catalog t draft := by
  simp only [Draft.typeExpr, h.packageName]

theorem Alike.param (h : catalog.Alike catalog') (g : Graph) :
    Draft.param catalog' g = Draft.param catalog g := by
  funext node draft
  simp only [Draft.param, h.typeExpr, h.packageName]

theorem Alike.resultType (h : catalog.Alike catalog') :
    Draft.resultType catalog' = Draft.resultType catalog := by
  funext output draft
  cases output with
  | error source => rfl
  | value node requested resolved => simp only [Draft.resultType, h.typeExpr]

theorem Alike.skipped (h : catalog.Alike catalog') :
    Draft.skipped catalog' = Draft.skipped catalog := by
  funext output draft
  cases output with
  | error source => rfl
  | value node requested resolved =>
      simp only [Draft.skipped, Draft.zero, h.typeDecl?, h.typeExpr]

/-- Nothing else of a catalog is in a generated function, nor in the file it stands in. -/
theorem Alike.generate (h : catalog.Alike catalog') (g : Graph) :
    catalog'.generate g = catalog.generate g := by
  have hfunction : ∀ draft, Draft.function catalog' g draft = Draft.function catalog g draft := by
    intro draft
    simp only [Draft.function, h.param, h.resultType, h.skipped]
  simp only [Catalog.generate, Generator.generate_eq, Generator.init, hfunction, h.packageName]
  cases Draft.function catalog g (.init g.target) with
  | error e => rfl
  | ok written => rfl

end Catalog

namespace Registry

/-- The same packages under the same import paths, up to the order of their functions. -/
def Reordered (registry registry' : Registry) : Prop :=
  ∀ path, Option.Rel Package.Reordered (registry.get? path) (registry'.get? path)

variable {registry registry' : Registry}

theorem Reordered.find (h : registry.Reordered registry') (t : TypeRef) :
    registry'.find t = registry.find t := by
  have hget := h t.importPath
  unfold Registry.find
  generalize registry.get? t.importPath = found, registry'.get? t.importPath = found' at hget
  cases hget with
  | none => rfl
  | some hone => simp only [hone.provider]

theorem Reordered.catalog (h : registry.Reordered registry') :
    registry.catalog.Alike registry'.catalog where
  packageName := by
    intro path
    have hget := h path
    simp only [Registry.catalog, Catalog.packageName]
    generalize registry.get? path = found, registry'.get? path = found' at hget
    cases hget with
    | none => rfl
    | some hone => exact hone.packageName
  typeDecl? := by
    intro t
    have hget := h t.importPath
    simp only [Registry.catalog, Catalog.typeDecl?]
    generalize registry.get? t.importPath = found, registry'.get? t.importPath = found' at hget
    cases hget with
    | none => rfl
    | some hone => exact hone.typeDecl? t.name

theorem get?_ofList {packages : List Package}
    (hdistinct : (packages.map Package.importPath).Nodup) (path : String) (found : Package) :
    (ofList packages).get? path = some found ↔
      ∃ package ∈ packages, package.importPath = path ∧ package.qualify = found := by
  simp only [get?_ofList_last, Option.map_eq_some_iff, last?_eq_some_iff hdistinct, and_assoc]

/-- The same packages in another order, each with its functions in another order. -/
def Reorders (packages packages' : List Package) : Prop :=
  ∃ between, List.Forall₂ Package.Reordered packages between ∧ between.Perm packages'

variable {packages packages' : List Package}

theorem Reorders.importPaths (h : Reorders packages packages') :
    (packages.map Package.importPath).Perm (packages'.map Package.importPath) := by
  obtain ⟨between, hfunctions, hperm⟩ := h
  have hsame : packages.map Package.importPath = between.map Package.importPath := by
    rw [← List.forall₂_eq_eq_eq, List.forall₂_map_left_iff, List.forall₂_map_right_iff]
    exact hfunctions.imp fun _ _ hone => hone.importPath.symm
  rw [hsame]
  exact hperm.map _

/-- Packages of different import paths can be registered in any order. -/
theorem reordered_ofList (hdistinct : (packages.map Package.importPath).Nodup)
    (h : Reorders packages packages') : (ofList packages).Reordered (ofList packages') := by
  have hdistinct' := h.importPaths.nodup_iff.mp hdistinct
  obtain ⟨between, hfunctions, hperm⟩ := h
  have hthere : ∀ package ∈ packages, ∃ package' ∈ packages', package.Reordered package' := by
    intro package hmem
    obtain ⟨package', hmem', hone⟩ := List.exists_mem_of_forall₂ hfunctions hmem
    exact ⟨package', hperm.mem_iff.mp hmem', hone⟩
  have hback : ∀ package' ∈ packages', ∃ package ∈ packages, package.Reordered package' := by
    intro package' hmem'
    exact List.exists_mem_of_forall₂ hfunctions.flip (hperm.mem_iff.mpr hmem')
  intro path
  cases hget : (ofList packages).get? path with
  | some found =>
      obtain ⟨package, hmem, rfl, rfl⟩ := (get?_ofList hdistinct path found).mp hget
      obtain ⟨package', hmem', hone⟩ := hthere package hmem
      rw [(get?_ofList hdistinct' _ _).mpr ⟨package', hmem', hone.importPath, rfl⟩]
      exact .some hone.qualify
  | none =>
      cases hget' : (ofList packages').get? path with
      | none => exact .none
      | some found =>
          obtain ⟨package', hmem', rfl, rfl⟩ := (get?_ofList hdistinct' path found).mp hget'
          obtain ⟨package, hmem, hone⟩ := hback package' hmem'
          rw [(get?_ofList hdistinct _ _).mpr ⟨package, hmem, hone.importPath.symm, rfl⟩] at hget
          cases hget

/-- Packages, the functions in them and substitutions can be given in any order: all substitutions
can still be added, every request has the same graph or fails with the same error, and every graph
has the same source file. -/
theorem load_of_reorders (hdistinct : (packages.map Package.importPath).Nodup)
    (hpackages : Reorders packages packages') {request full : Request}
    {pairs pairs' : List (TypeRef × TypeRef)} (hpairs : pairs.Perm pairs')
    (hfull : request.addAliases pairs = .ok full) :
    request.addAliases pairs' = .ok full ∧
      (ofList packages').load full = (ofList packages).load full ∧
      ∀ g, (ofList packages').catalog.generate g = (ofList packages).catalog.generate g := by
  have hregistry := reordered_ofList hdistinct hpackages
  refine ⟨Request.addAliases_of_perm hpairs hfull, ?_, ?_⟩
  · exact load_congr hregistry.find full
  · intro g
    exact hregistry.catalog.generate g

end Registry

namespace Sample

/-- A shop that constructs carts in the given ways. -/
def stall (functions : List FunctionDecl) : Package where
  importPath := "shop"
  name := none
  types := [⟨"Cart", .struct, []⟩, ⟨"Ledger", .struct, []⟩]
  functions := functions

def newCart : FunctionDecl :=
  ⟨"NewCart", [], [type "Cart"]⟩

def openCart : FunctionDecl :=
  ⟨"OpenCart", [type "Ledger"], [type "Cart", .error]⟩

/-- A journal and a basket, for which other types are to stand. -/
def desired : Request :=
  { Request.init "Fill" "main" true with
    results := [.type (type "Journal"), .type (type "Basket")] }

def substitutes : List (TypeRef × TypeRef) :=
  [(type "Journal", type "Ledger"), (type "Basket", type "Cart")]

def substituted : Request :=
  { desired with aliases := ⟨.ofList substitutes⟩ }

/-- The candidates for a cart are listed in one order, whichever is declared first. -/
theorem load_shuffled :
    desired.addAliases substitutes.reverse = .ok substituted ∧
      (Registry.ofList [stall [openCart, newCart], audit]).load substituted =
        .error (.lookup (.ambiguous ["shop.NewCart", "shop.OpenCart"]) (type "Cart") []) := by
  have hdistinct : ([audit, stall [newCart, openCart]].map Package.importPath).Nodup := by decide
  have hfunctions : (stall [newCart, openCart]).Reordered (stall [openCart, newCart]) :=
    ⟨rfl, rfl, rfl, .swap _ _ _⟩
  have hpackages : Registry.Reorders [audit, stall [newCart, openCart]]
      [stall [openCart, newCart], audit] :=
    ⟨[audit, stall [openCart, newCart]],
      .cons ⟨rfl, rfl, rfl, .rfl⟩ (.cons hfunctions .nil), .swap _ _ _⟩
  have hadded : desired.addAliases substitutes = .ok substituted := by with_unfolding_all rfl
  have hsorted : ["shop.NewCart", "shop.OpenCart"].mergeSort = ["shop.NewCart", "shop.OpenCart"] :=
    List.mergeSort_of_pairwise (by decide)
  have hambiguous : (Registry.ofList [audit, stall [newCart, openCart]]).load substituted =
      .error (.lookup (.ambiguous ["shop.NewCart", "shop.OpenCart"]) (type "Cart") []) := by
    rw [← hsorted]
    with_unfolding_all rfl
  obtain ⟨hreversed, hload, -⟩ := Registry.load_of_reorders hdistinct hpackages
    substitutes.reverse_perm.symm hadded
  exact ⟨hreversed, hload.trans hambiguous⟩

end Sample

end Wiring
