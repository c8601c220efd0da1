import Wiring.Document.Readers
import Wiring.Format
import Wiring.Proofs.References

/-!
Indexes as documents. What is written for an index is read as the same index again, as long as its
references are legible. Those of an index that was read always are, and they stay so when a package
is qualified.
-/

namespace Wiring

def TypeDecl.refs (decl : TypeDecl) : List TypeRef :=
  decl.fields.map FieldDecl.type

def FunctionDecl.refs (decl : FunctionDecl) : List TypeRef :=
  decl.params ++ decl.results

/-- The references in the declarations of a package. -/
def Package.refs (package : Package) : List TypeRef :=
  package.types.flatMap TypeDecl.refs ++ package.functions.flatMap FunctionDecl.refs

/-- All references of an index can be read once they are written. -/
def PackageIndex.Legible (index : PackageIndex) : Prop :=
  ∀ package ∈ index.packages, ∀ t ∈ package.refs, t.Legible

namespace Source

variable {source : Source} {α : Type} {item : Document → Option α} {document : Document}

section Records

variable {fields : List (String × Document)}

/-- No key of a record that is written stands twice, so each of them has the one value. -/
theorem filter_key (hkeys : (fields.map Prod.fst).Nodup) (key : String) :
    fields.filter (fun field => field.1 == key) = ((fields.lookup key).map (key, ·)).toList := by
  induction fields with
  | nil => rfl
  | cons field fields ih =>
      obtain ⟨first, value⟩ := field
      obtain ⟨hnew, hrest⟩ := List.nodup_cons.mp hkeys
      by_cases heq : first = key
      · subst heq
        have hnone : fields.filter (fun field => field.1 == first) = [] := by
          rw [List.filter_eq_nil_iff]
          intro field hfield hfirst
          exact hnew (List.mem_map.mpr ⟨field, hfield, beq_iff_eq.mp hfirst⟩)
        rw [List.filter_cons_of_pos (by simp), hnone, List.lookup_cons_self]
        rfl
      · have hkey : (key == first) = false := beq_eq_false_iff_ne.mpr (Ne.symm heq)
        rw [List.filter_cons_of_neg (by simpa using heq), ih hrest, List.lookup_cons, hkey]

theorem field?_object (source : Source) (hkeys : (fields.map Prod.fst).Nodup) (key : String) :
    source.field? (fields.map fun (key, value) => (.text key, value)) key =
      some (fields.lookup key) := by
  have hfilter : (fields.map fun (key, value) => (Document.text key, value)).filter
      (fun field => source.text? field.1 == some key) =
        ((fields.lookup key).map (Document.text key, ·)).toList := by
    rw [List.filter_map]
    change (fields.filter fun field => some field.1 == some key).map _ = _
    simp only [Option.some_beq_some]
    rw [filter_key hkeys]
    cases fields.lookup key <;> rfl
  rw [field?, hfilter]
  cases fields.lookup key <;> rfl

/-- A record that was written has the values that it was written with. -/
theorem record?_object (source : Source) (hkeys : (fields.map Prod.fst).Nodup)
    (keys : List String) :
    source.record? keys (.object fields) = some (keys.map fun key => fields.lookup key) := by
  have htexts : (fields.map fun (key, value) => (Document.text key, value)).all
      (fun field => (source.text? field.1).isSome) = true := by
    simp [text?, content, Document.text]
  change (if _ then keys.mapM (source.field? _) else none) = _
  rw [if_pos htexts, funext (field?_object source hkeys)]
  exact List.mapM_pure

end Records

section Writing

variable (source)

/-- Items that are read as they were written make the list that was written. -/
theorem list?_map {write : α → Document} {items : List α}
    (h : ∀ a ∈ items, item (write a) = some a) :
    source.list? item (.list (items.map write)) = some items := by
  change (items.map write).mapM item = some items
  rw [List.mapM_map]
  induction items with
  | nil => rfl
  | cons a items ih =>
      obtain ⟨hfirst, hrest⟩ := List.forall_mem_cons.mp h
      rw [List.mapM_cons, Function.comp, hfirst, ih hrest]
      rfl

theorem text?_text (text : String) : source.text? (.text text) = some text :=
  rfl

theorem typeRef?_toDocument {t : TypeRef} (h : t.Legible) :
    source.typeRef? t.toDocument = some t := by
  change (TypeRef.parse t.display).toOption = some t
  rw [TypeRef.parse_display h]
  rfl

theorem typeKind?_display (kind : TypeKind) :
    source.typeKind? (some (.text kind.display)) = some kind := by
  cases kind <;> rfl

theorem fieldDecl?_toDocument {field : FieldDecl} (h : field.type.Legible) :
    source.fieldDecl? field.toDocument = some field := by
  have hrecord : source.record? ["name", "type"] field.toDocument =
      some [some (.text field.name), some field.type.toDocument] :=
    record?_object source (by simp) _
  rw [fieldDecl?, hrecord]
  simp only [text?_text, typeRef?_toDocument source h]
  rfl

theorem typeDecl?_toDocument {decl : TypeDecl} (h : ∀ t ∈ decl.refs, t.Legible) :
    source.typeDecl? decl.toDocument = some decl := by
  obtain ⟨name, kind, fields⟩ := decl
  -- Fields are left out if there are none, and fields that are left out are none.
  obtain ⟨written, hrecord, hfields⟩ : ∃ written,
      source.record? ["name", "kind", "fields"] (TypeDecl.toDocument ⟨name, kind, fields⟩) =
        some [some (.text name), some (.text kind.display), written] ∧
      source.listOrNil? source.fieldDecl? written = some fields := by
    cases fields with
    | nil => exact ⟨none, record?_object source (by simp) _, rfl⟩
    | cons field fields =>
        refine ⟨_, record?_object source (by simp) _, list?_map source fun field hfield => ?_⟩
        exact fieldDecl?_toDocument source (h field.type (List.mem_map_of_mem hfield))
  rw [typeDecl?, hrecord]
  simp only [text?_text, typeKind?_display, hfields]
  rfl

theorem functionDecl?_toDocument {decl : FunctionDecl} (h : ∀ t ∈ decl.refs, t.Legible) :
    source.functionDecl? decl.toDocument = some decl := by
  obtain ⟨hparams, hresults⟩ := List.forall_mem_append.mp h
  have hrecord : source.record? ["name", "params", "results"] decl.toDocument =
      some [some (.text decl.name), some (.list (decl.params.map TypeRef.toDocument)),
        some (.list (decl.results.map TypeRef.toDocument))] :=
    record?_object source (by simp) _
  rw [functionDecl?, hrecord]
  have hparams' := list?_map source fun t ht => typeRef?_toDocument source (hparams t ht)
  have hresults' := list?_map source fun t ht => typeRef?_toDocument source (hresults t ht)
  simp only [text?_text, listOrNil?, hparams', hresults']
  rfl

/-- The name is there exactly if one is declared, even an empty one. -/
theorem package?_toDocument {package : Package} (h : ∀ t ∈ package.refs, t.Legible) :
    source.package? package.toDocument = some package := by
  obtain ⟨importPath, name, types, functions⟩ := package
  obtain ⟨htypes, hfunctions⟩ := List.forall_mem_append.mp h
  have htypes' : ∀ decl ∈ types, source.typeDecl? decl.toDocument = some decl :=
    fun decl hdecl => typeDecl?_toDocument source fun t ht =>
      htypes t (List.mem_flatMap.mpr ⟨decl, hdecl, ht⟩)
  have hfunctions' : ∀ decl ∈ functions, source.functionDecl? decl.toDocument = some decl :=
    fun decl hdecl => functionDecl?_toDocument source fun t ht =>
      hfunctions t (List.mem_flatMap.mpr ⟨decl, hdecl, ht⟩)
  have hrecord : source.record? ["import", "name", "types", "functions"]
      (Package.toDocument ⟨importPath, name, types, functions⟩) =
        some [some (.text importPath), name.map .text,
          some (.list (types.map TypeDecl.toDocument)),
          some (.list (functions.map FunctionDecl.toDocument))] := by
    cases name <;> exact record?_object source (by simp) _
  have hname : source.optionalText? (name.map .text) = some name := by
    cases name <;> rfl
  rw [package?, hrecord]
  simp only [text?_text, hname, listOrNil?, list?_map source htypes', list?_map source hfunctions']
  rfl

theorem packageIndex?_toDocument {index : PackageIndex} (h : index.Legible) :
    source.packageIndex? index.toDocument = some index := by
  have hpackages := list?_map source fun package hpackage =>
    package?_toDocument source (h package hpackage)
  have hrecord : source.record? ["packages"] index.toDocument =
      some [some (.list (index.packages.map Package.toDocument))] :=
    record?_object source (by simp) _
  rw [packageIndex?, hrecord]
  simp only [listOrNil?, hpackages]
  rfl

end Writing

section Reading

variable {P : α → Prop} {t : TypeRef}

theorem forall_of_mapM {documents : List Document} {items : List α}
    (hitem : ∀ document a, item document = some a → P a)
    (h : documents.mapM item = some items) : ∀ a ∈ items, P a := by
  induction documents generalizing items with
  | nil =>
      cases h
      exact fun a ha => absurd ha List.not_mem_nil
  | cons document documents ih =>
      rw [List.mapM_cons] at h
      obtain ⟨first, hfirst, h⟩ := Option.bind_eq_some_iff.mp h
      obtain ⟨rest, hrest, h⟩ := Option.bind_eq_some_iff.mp h
      cases h
      exact List.forall_mem_cons.mpr ⟨hitem document first hfirst, ih hrest⟩

/-- What holds of every item that is read holds throughout a list that is read. -/
theorem forall_of_listOrNil? {value : Option Document} {items : List α}
    (hitem : ∀ document a, item document = some a → P a)
    (h : source.listOrNil? item value = some items) : ∀ a ∈ items, P a := by
  have hnil : ∀ a ∈ ([] : List α), P a := fun a ha => absurd ha List.not_mem_nil
  cases value with
  | none =>
      cases h
      exact hnil
  | some document =>
      change source.list? item document = some items at h
      unfold list? at h
      split at h
      case h_1 => exact forall_of_mapM hitem h
      case h_2 => exact forall_of_mapM hitem h
      case h_3 =>
        cases h
        exact hnil
      case h_4 =>
        cases h
        exact hnil
      case h_5 => cases h

theorem legible_of_typeRef? (h : source.typeRef? document = some t) : t.Legible := by
  obtain ⟨text, -, h⟩ := Option.bind_eq_some_iff.mp h
  cases hparse : TypeRef.parse text with
  | error e =>
      rw [hparse] at h
      cases h
  | ok u =>
      rw [hparse] at h
      cases h
      exact TypeRef.legible_of_parse hparse

theorem legible_of_fieldDecl? {field : FieldDecl} (h : source.fieldDecl? document = some field) :
    field.type.Legible := by
  unfold fieldDecl? at h
  split at h
  case h_1 name type hrecord =>
    obtain ⟨_, -, h⟩ := Option.bind_eq_some_iff.mp h
    obtain ⟨t, ht, h⟩ := Option.bind_eq_some_iff.mp h
    cases h
    exact legible_of_typeRef? ht
  case h_2 => cases h

theorem legible_of_typeDecl? {decl : TypeDecl} (h : source.typeDecl? document = some decl) :
    ∀ t ∈ decl.refs, t.Legible := by
  unfold typeDecl? at h
  split at h
  case h_1 name kind fields hrecord =>
    obtain ⟨_, -, h⟩ := Option.bind_eq_some_iff.mp h
    obtain ⟨_, -, h⟩ := Option.bind_eq_some_iff.mp h
    obtain ⟨_, hfields, h⟩ := Option.bind_eq_some_iff.mp h
    cases h
    exact List.forall_mem_map.mpr (forall_of_listOrNil? (fun _ _ => legible_of_fieldDecl?) hfields)
  case h_2 => cases h

theorem legible_of_functionDecl? {decl : FunctionDecl}
    (h : source.functionDecl? document = some decl) : ∀ t ∈ decl.refs, t.Legible := by
  unfold functionDecl? at h
  split at h
  case h_1 name params results hrecord =>
    obtain ⟨_, -, h⟩ := Option.bind_eq_some_iff.mp h
    obtain ⟨_, hparams, h⟩ := Option.bind_eq_some_iff.mp h
    obtain ⟨_, hresults, h⟩ := Option.bind_eq_some_iff.mp h
    cases h
    exact List.forall_mem_append.mpr
      ⟨forall_of_listOrNil? (fun _ _ => legible_of_typeRef?) hparams,
        forall_of_listOrNil? (fun _ _ => legible_of_typeRef?) hresults⟩
  case h_2 => cases h

theorem legible_of_package? {package : Package} (h : source.package? document = some package) :
    ∀ t ∈ package.refs, t.Legible := by
  unfold package? at h
  split at h
  case h_1 importPath name types functions hrecord =>
    obtain ⟨_, -, h⟩ := Option.bind_eq_some_iff.mp h
    obtain ⟨_, -, h⟩ := Option.bind_eq_some_iff.mp h
    obtain ⟨_, htypes, h⟩ := Option.bind_eq_some_iff.mp h
    obtain ⟨_, hfunctions, h⟩ := Option.bind_eq_some_iff.mp h
    cases h
    exact List.forall_mem_append.mpr
      ⟨List.forall_mem_flatMap.mpr
          (forall_of_listOrNil? (fun _ _ => legible_of_typeDecl?) htypes),
        List.forall_mem_flatMap.mpr
          (forall_of_listOrNil? (fun _ _ => legible_of_functionDecl?) hfunctions)⟩
  case h_2 => cases h

/-- The references of an index that was read are legible. -/
theorem legible_of_packageIndex? {index : PackageIndex}
    (h : source.packageIndex? document = some index) : index.Legible := by
  unfold packageIndex? at h
  split at h
  case h_1 packages hrecord =>
    obtain ⟨_, hpackages, h⟩ := Option.bind_eq_some_iff.mp h
    cases h
    exact forall_of_listOrNil? (fun _ _ => legible_of_package?) hpackages
  case h_2 => cases h

end Reading

end Source

namespace Package

variable {package : Package} {t : TypeRef} {importPath : String}

theorem legible_qualifyRef (h : t.Legible) (hstart : importPath.toList.head? ≠ some '"')
    (hfinish : importPath.toList.getLast? ≠ some '"') : (qualifyRef importPath t).Legible := by
  unfold qualifyRef
  split
  · exact ⟨h.name, hstart, hfinish⟩
  · exact h

/-- The references of a package in qualified form, one for each that was declared. -/
theorem refs_qualify (package : Package) :
    package.qualify.refs = package.refs.map (qualifyRef package.importPath) := by
  simp only [refs, qualify, List.map_append, List.map_flatMap, List.flatMap_map]
  congr 2
  · funext decl
    simp [TypeDecl.refs]
  · funext decl
    simp [FunctionDecl.refs]

/-- Only a quote at an end of the package's own path can make a reference illegible. -/
theorem legible_refs_qualify (h : ∀ t ∈ package.refs, t.Legible)
    (hstart : package.importPath.toList.head? ≠ some '"')
    (hfinish : package.importPath.toList.getLast? ≠ some '"') :
    ∀ t ∈ package.qualify.refs, t.Legible := by
  rw [refs_qualify]
  exact List.forall_mem_map.mpr fun t ht => legible_qualifyRef (h t ht) hstart hfinish

end Package

/-- What is written for an index, and for its packages in qualified form, is read as the same again,
whatever kind of file it comes from. Nothing is asked of the readers of texts but that they come to
the document that was written. -/
structure PackageIndex.Preserved [Readers] (index : PackageIndex) : Prop where
  readable : ∀ format text, Format.packageIndex? format text = some index → index.Legible
  restored : index.Legible → ∀ source : Source, source.packageIndex? index.toDocument = some index
  reread : index.Legible → ∀ format text source,
    Format.read? format text = some (source, index.toDocument) →
      Format.packageIndex? format text = some index
  qualified : index.Legible → ∀ package ∈ index.packages,
    package.importPath.toList.head? ≠ some '"' → package.importPath.toList.getLast? ≠ some '"' →
      ∀ source : Source, source.package? package.qualify.toDocument = some package.qualify

/-- Nothing of an index is lost when it is written, if its references can be read, as those of an
index that was read can. -/
theorem PackageIndex.preserved [Readers] (index : PackageIndex) : index.Preserved where
  readable format text h := by
    obtain ⟨⟨source, document⟩, -, hindex⟩ := Option.bind_eq_some_iff.mp h
    exact Source.legible_of_packageIndex? hindex
  restored h source := Source.packageIndex?_toDocument source h
  reread h format text source hread := by
    rw [Format.packageIndex?, hread]
    exact Source.packageIndex?_toDocument source h
  qualified h package hpackage hstart hfinish source :=
    Source.package?_toDocument source
      (Package.legible_refs_qualify (h package hpackage) hstart hfinish)

namespace Sample

def pantryFile : String :=
  "packages:\n- import: shop/v1.5\n  types:\n  - name: Shelf\n    fields:\n" ++
    "    - name: Jar\n      type: '*Jar'\n  functions:\n  - name: Open\n" ++
    "    results: [glass.*Jar, error]\n"

/-- The packages of the file. One reference leaves out the path of the package itself. -/
def pantry : PackageIndex where
  packages :=
    [{ importPath := "shop/v1.5"
       name := none
       types := [⟨"Shelf", .struct, [⟨"Jar", ⟨"", "Jar", true⟩⟩]⟩]
       functions := [⟨"Open", [], [⟨"glass", "Jar", true⟩, .error]⟩] }]

theorem read_pantry : Format.packageIndex? .yaml pantryFile = some pantry := by
  decide +kernel

theorem preserved_pantry : Format.packageIndex? .yaml pantryFile = some pantry ∧ pantry.Legible ∧
    (∀ source : Source, source.packageIndex? pantry.toDocument = some pantry) ∧
    ∀ package ∈ pantry.packages, ∀ source : Source,
      source.package? package.qualify.toDocument = some package.qualify := by
  have hpreserved := PackageIndex.preserved pantry
  have hlegible : pantry.Legible := hpreserved.readable .yaml pantryFile read_pantry
  refine ⟨read_pantry, hlegible, hpreserved.restored hlegible, fun package hpackage => ?_⟩
  obtain rfl := List.mem_singleton.mp hpackage
  exact hpreserved.qualified hlegible _ hpackage (by decide +kernel) (by decide +kernel)

end Sample

end Wiring
