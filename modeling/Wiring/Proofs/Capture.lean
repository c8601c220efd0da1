import Wiring.Proofs.Hygiene
import Wiring.Proofs.Registering

/-!
Names that a generated function uses with nothing before them: predeclared ones, and those of the
target package. An import or a variable of the same name hides them. Only keywords are avoided, so
that a hidden name can be told from the names that are asked for while the function is written.
-/

namespace Wiring

namespace Go

/-- The name, if nothing stands before it. -/
def Name.bare (name : Name) : List String :=
  match name.qualifier with
  | some _ => []
  | none => [name.name]

def ResultType.bare : ResultType → List String
  | value type => type.name.bare
  | error => ["error"]

def Zero.bare : Zero → List String
  | nil => ["nil"]
  | emptyString | number => []
  | falsehood => ["false"]
  | literal type => type.name.bare
  | fresh type => "new" :: type.name.bare

/-- An early return gives the error that was declared just before it. -/
def Skipped.bare : Skipped → List String
  | zero value => value.bare
  | failure => []

def Returned.bare : Returned → List String
  | value _ => []
  | noError => ["nil"]

/-- A call that can fail compares its error with nil, and an early return follows it. -/
def Binding.bare (skipped : List Skipped) (b : Binding) : List String :=
  b.constructor.bare ++ if b.provider.fallible then "nil" :: skipped.flatMap Skipped.bare else []

/-- The names that a function uses in their predeclared meaning or as names of its own package. -/
def Function.bare (f : Function) : List String :=
  f.params.flatMap (fun param => param.type.name.bare) ++ f.results.flatMap ResultType.bare ++
    f.body.flatMap (Binding.bare f.skipped) ++ f.returned.flatMap Returned.bare

end Go

namespace Artifact

/-- The names that a file gives to packages and to variables. -/
def introduced (artifact : Artifact) : List String :=
  artifact.imports.map Import.qualifier ++ artifact.function.locals

/-- A name is given to a package or a variable, though it is used with another meaning. -/
def Captures (artifact : Artifact) (name : String) : Prop :=
  name ∈ artifact.function.bare ∧ name ∈ artifact.introduced

instance (artifact : Artifact) (name : String) : Decidable (artifact.Captures name) :=
  inferInstanceAs (Decidable (_ ∧ _))

end Artifact

namespace Catalog

/-- The name that a file of the package `target` asks for when it uses a package. -/
def packageBases (catalog : Catalog) (target path : String) : List String :=
  if path = "" ∨ path = target then [] else [catalog.packageName path]

def typeBases (catalog : Catalog) (target : String) (t : Option TypeRef) : List String :=
  t.toList.flatMap fun t => catalog.packageBases target t.importPath

end Catalog

namespace Graph

def paramBases (g : Graph) (catalog : Catalog) (id : NodeId) : List String :=
  match g.type? id with
  | some t =>
    let package := if t.isBuiltin then "" else catalog.packageName t.importPath
    catalog.packageBases g.target t.importPath ++ [Naming.variableName package t.name]
  | none => []

def resultBases (g : Graph) (catalog : Catalog) (output : Output) : List String :=
  catalog.typeBases g.target output.requested?

def callBases (g : Graph) (catalog : Catalog) (id : NodeId) : List String :=
  match g.nodes[id]? with
  | some (.provider t p _) =>
    catalog.packageBases g.target p.importPath ++ [Naming.variableName p.package t.name]
  | _ => []

/-- The names that are asked for while the function of a graph is written. Those that are taken are
given with a number. -/
def bases (g : Graph) (catalog : Catalog) : List String :=
  g.params.flatMap (g.paramBases catalog) ++ g.outputs.flatMap (g.resultBases catalog) ++
    g.order.flatMap (g.callBases catalog)

/-- The constructors that are called are qualified by the names that a catalog has for their
packages. -/
def PackagesOf (g : Graph) (catalog : Catalog) : Prop :=
  ∀ (id : NodeId) t p edges, g.nodes[id]? = some (.provider t p edges) →
    p.package = catalog.packageName p.importPath

end Graph

namespace Draft

/-- The names that variables and imports have. -/
def taken (draft : Draft) : List String :=
  draft.names ++ draft.imports.qualifiers

/-- The name of an imported package stands for this package or for another one. -/
def Named (catalog : Catalog) (draft : Draft) : Prop :=
  ∀ path ∈ draft.imports.paths, catalog.packageName path ∈ draft.imports.qualifiers

/-- What was added to some names is among the numbered variants of some others. -/
def Adds (bases names names' : List String) : Prop :=
  ∀ name ∈ names', name ∈ names ∨ ∃ base ∈ bases, ∃ i, name = Naming.candidate base i

/-- Some names were asked for, and these or numbered variants of them were given. -/
structure Takes (catalog : Catalog) (draft : Draft) (bases : List String) (draft' : Draft) :
    Prop where
  target : draft'.imports.target = draft.imports.target
  named : draft.Named catalog → draft'.Named catalog
  kept : draft.taken ⊆ draft'.taken
  asked : draft.Named catalog → bases ⊆ draft'.taken
  names : Adds bases draft.names draft'.names
  qualifiers : Adds bases draft.imports.qualifiers draft'.imports.qualifiers

section Takes

variable {catalog : Catalog} {draft mid draft' : Draft}
  {bases more names between names' : List String} {path package : String}

theorem Adds.refl (bases names : List String) : Adds bases names names :=
  fun _ hname => Or.inl hname

theorem Adds.trans (h : Adds bases names between) (h' : Adds more between names') :
    Adds (bases ++ more) names names' := by
  intro name hname
  rcases h' name hname with hmid | ⟨base, hbase, hvariant⟩
  · rcases h name hmid with hold | ⟨base, hbase, hvariant⟩
    · exact Or.inl hold
    · exact Or.inr ⟨base, List.mem_append_left _ hbase, hvariant⟩
  · exact Or.inr ⟨base, List.mem_append_right _ hbase, hvariant⟩

theorem Adds.mono (h : Adds bases names names') (hsub : bases ⊆ more) : Adds more names names' := by
  intro name hname
  refine (h name hname).imp_right ?_
  rintro ⟨base, hbase, hvariant⟩
  exact ⟨base, hsub hbase, hvariant⟩

theorem Takes.refl (catalog : Catalog) (draft : Draft) : draft.Takes catalog [] draft where
  target := rfl
  named h := h
  kept := List.Subset.refl _
  asked _ := List.nil_subset _
  names := .refl _ _
  qualifiers := .refl _ _

theorem Takes.trans (h : draft.Takes catalog bases mid) (h' : mid.Takes catalog more draft') :
    draft.Takes catalog (bases ++ more) draft' where
  target := h'.target.trans h.target
  named hnamed := h'.named (h.named hnamed)
  kept := List.Subset.trans h.kept h'.kept
  asked hnamed :=
    List.append_subset.mpr
      ⟨List.Subset.trans (h.asked hnamed) h'.kept, h'.asked (h.named hnamed)⟩
  names := h.names.trans h'.names
  qualifiers := h.qualifiers.trans h'.qualifiers

/-- Asking for names again makes no difference. -/
theorem Takes.absorb (h : draft.Takes catalog (bases ++ more) draft') (hsub : more ⊆ bases) :
    draft.Takes catalog bases draft' where
  target := h.target
  named := h.named
  kept := h.kept
  asked hnamed := List.Subset.trans (List.subset_append_left _ _) (h.asked hnamed)
  names := h.names.mono (List.append_subset.mpr ⟨List.Subset.refl _, hsub⟩)
  qualifiers := h.qualifiers.mono (List.append_subset.mpr ⟨List.Subset.refl _, hsub⟩)

/-- Noting a type gives no name. -/
theorem takes_note (catalog : Catalog) (draft : Draft) (name type : String) :
    draft.Takes catalog [] { draft with imports := draft.imports.note name type } := by
  have hqualifiers : ∀ other, other ∈ (draft.imports.note name type).qualifiers ↔
      other ∈ draft.imports.qualifiers := fun _ => Imports.mem_qualifiers_note
  refine
    { target := rfl
      named := fun hnamed path hpath => (hqualifiers _).mpr (hnamed path hpath)
      kept := fun other hother => ?_
      asked := fun _ => List.nil_subset _
      names := .refl _ _
      qualifiers := fun other hother => Or.inl ((hqualifiers other).mp hother) }
  exact List.mem_append.mpr ((List.mem_append.mp hother).imp_right (hqualifiers other).mpr)

/-- One name more is given, which is free among some of those that are taken. -/
theorem takes_firstFree {base : String} {avoided : List String}
    (htarget : draft'.imports.target = draft.imports.target)
    (hnamed : draft.Named catalog → draft'.Named catalog) (havoided : avoided ⊆ draft.taken)
    (hkept : draft.taken ⊆ draft'.taken) (hgiven : Naming.firstFree base avoided ∈ draft'.taken)
    (hnames : ∀ name ∈ draft'.names,
      name ∈ draft.names ∨ name = Naming.firstFree base avoided)
    (hqualifiers : ∀ name ∈ draft'.imports.qualifiers,
      name ∈ draft.imports.qualifiers ∨ name = Naming.firstFree base avoided) :
    draft.Takes catalog [base] draft' := by
  have hvariant : ∀ name, name = Naming.firstFree base avoided →
      ∃ asked ∈ [base], ∃ i, name = Naming.candidate asked i := by
    rintro name rfl
    exact ⟨base, List.mem_singleton_self base, Naming.exists_candidate base avoided⟩
  refine
    { target := htarget
      named := hnamed
      kept := hkept
      asked := fun _ => List.cons_subset.mpr ⟨?_, List.nil_subset _⟩
      names := fun name hname => (hnames name hname).imp_right (hvariant name)
      qualifiers := fun name hname => (hqualifiers name hname).imp_right (hvariant name) }
  rcases Naming.firstFree_eq_or_mem base avoided with hfree | hmem
  · exact hfree ▸ hgiven
  · exact hkept (havoided hmem)

/-- A new import asks for the name of its package. -/
theorem takes_enter {name : String} (draft : Draft) (hpackage : package = catalog.packageName path)
    (hname : name = Naming.firstFree package draft.imports.qualifiers) :
    draft.Takes catalog [package]
      { draft with imports := draft.imports.enter path package name } := by
  refine takes_firstFree rfl ?_ (List.subset_append_right draft.names _) ?_ ?_ (fun _ => Or.inl) ?_
  · intro hnamed other hother
    rw [Imports.mem_qualifiers_enter]
    rcases Imports.mem_paths_enter.mp hother with hold | rfl
    · exact Or.inl (hnamed other hold)
    · rw [← hpackage, hname]
      exact (Naming.firstFree_eq_or_mem package _).symm.imp_right Eq.symm
  · intro other hother
    rcases List.mem_append.mp hother with hlocal | hqualifier
    · exact List.mem_append_left _ hlocal
    · exact List.mem_append_right _ (Imports.mem_qualifiers_enter.mpr (Or.inl hqualifier))
  · exact List.mem_append_right _ (Imports.mem_qualifiers_enter.mpr (Or.inr hname.symm))
  · intro other hother
    rw [← hname]
    exact Imports.mem_qualifiers_enter.mp hother

/-- A package that is used asks for its name. -/
theorem takes_add (draft : Draft) (hpackage : package = catalog.packageName path) :
    draft.Takes catalog (catalog.packageBases draft.imports.target path)
      { draft with imports := (draft.imports.add path package).2 } := by
  rcases Imports.add_cases draft.imports path package with
    ⟨hlocal, heq⟩ | ⟨hforeign, name, ⟨hspec, heq⟩ | ⟨-, hname, heq⟩⟩
  · rw [heq, Catalog.packageBases, if_pos (by simpa [Foreign, or_iff_not_imp_left] using hlocal)]
    exact .refl catalog draft
  · rw [heq, Catalog.packageBases, if_neg (not_or.mpr hforeign)]
    refine
      { Takes.refl catalog draft with
        asked := fun hnamed => ?_
        names := .refl _ _
        qualifiers := .refl _ _ }
    refine List.cons_subset.mpr ⟨List.mem_append_right _ ?_, List.nil_subset _⟩
    exact hnamed path (Imports.mem_paths_of_spec hspec)
  · rw [heq, Catalog.packageBases, if_neg (not_or.mpr hforeign), ← hpackage]
    exact takes_enter draft hpackage hname

theorem takes_typeExpr (catalog : Catalog) (t : TypeRef) (draft : Draft) :
    draft.Takes catalog (catalog.packageBases draft.imports.target t.importPath)
      (typeExpr catalog t draft).2 := by
  have hadd := takes_add draft (Eq.refl (catalog.packageName t.importPath))
  rw [typeExpr, Imports.addType_eq]
  cases (draft.imports.add t.importPath (catalog.packageName t.importPath)).1 with
  | none => exact hadd
  | some name =>
      have hnoted := hadd.trans (takes_note catalog _ name t.name)
      rwa [List.append_nil] at hnoted

theorem takes_bind (catalog : Catalog) (draft : Draft) (node : NodeId) (base : String) :
    draft.Takes catalog [base] (draft.bind node base).2 :=
  takes_firstFree rfl id (List.Subset.refl _) (List.subset_cons_self _ _)
    List.mem_cons_self (fun _ hname => (List.mem_cons.mp hname).symm) fun _ => Or.inl

end Takes

section Steps

variable {catalog : Catalog} {g : Graph} {draft draft' : Draft} {node : NodeId}

theorem snd_zero (catalog : Catalog) (t : TypeRef) (draft : Draft) :
    (zero catalog t draft).2 =
      (catalog.zeroType? t).elim draft fun u => (typeExpr catalog u draft).2 := by
  unfold zero Catalog.zeroType?
  by_cases hpointer : t.pointer = true
  · simp only [hpointer, Bool.true_or, if_true]
    rfl
  by_cases hbuiltin : t.isBuiltin = true
  · simp only [hpointer, hbuiltin, Bool.or_true, if_true, Bool.false_eq_true, if_false]
    rfl
  simp only [hpointer, hbuiltin, Bool.or_self, Bool.false_eq_true, if_false]
  rcases (catalog.typeDecl? t).map TypeDecl.kind with _ | kind
  · rfl
  · cases kind <;> rfl

theorem takes_zero (catalog : Catalog) (t : TypeRef) (draft : Draft) :
    draft.Takes catalog (catalog.typeBases draft.imports.target (catalog.zeroType? t))
      (zero catalog t draft).2 := by
  rw [snd_zero]
  cases catalog.zeroType? t with
  | none => exact .refl catalog draft
  | some u =>
      rw [Catalog.typeBases, Option.toList_some, List.flatMap_singleton]
      exact takes_typeExpr catalog u draft

theorem takes_of_param {made : Go.Param} (h : param catalog g node draft = .ok (made, draft'))
    (htarget : draft.imports.target = g.target) :
    draft.Takes catalog (g.paramBases catalog node) draft' := by
  unfold param at h
  split at h
  case h_1 => cases h
  case h_2 t ht =>
    cases h
    simp only [Graph.paramBases, Graph.type?, ht, ← htarget]
    exact (takes_typeExpr catalog t draft).trans (takes_bind catalog _ _ _)

theorem takes_of_resultType {output : Output} {made : Go.ResultType}
    (h : resultType catalog output draft = .ok (made, draft'))
    (htarget : draft.imports.target = g.target) :
    draft.Takes catalog (g.resultBases catalog output) draft' := by
  cases output with
  | error source =>
      cases h
      exact .refl catalog draft
  | value node requested resolved =>
      cases h
      rw [Graph.resultBases, Catalog.typeBases, Output.requested?, Option.toList_some,
        List.flatMap_singleton, ← htarget]
      exact takes_typeExpr catalog requested draft

/-- What an early return asks for, if anything, its result has asked for. -/
theorem takes_of_skipped {output : Output} {made : Go.Skipped}
    (h : skipped catalog output draft = .ok (made, draft'))
    (htarget : draft.imports.target = g.target) :
    draft.Takes catalog
      (catalog.typeBases g.target (output.requested? >>= catalog.zeroType?)) draft' := by
  cases output with
  | error source =>
      cases h
      exact .refl catalog draft
  | value node requested resolved =>
      cases h
      rw [← htarget]
      exact takes_zero catalog requested draft

theorem Writes.takes {t : TypeRef} {p : Provider} {edges more : List Edge} {made : Go.Binding}
    (h : draft.Writes g node t p edges made draft')
    (hnode : g.nodes[node]? = some (.provider t p more))
    (hpackage : p.package = catalog.packageName p.importPath)
    (htarget : draft.imports.target = g.target) :
    draft.Takes catalog (g.callBases catalog node) draft' := by
  simp only [Graph.callBases, hnode, ← htarget]
  rw [h.after]
  exact (takes_add draft hpackage).trans (takes_bind catalog _ _ _)

/-- Steps one after the other ask for the names that each of them asks for. -/
theorem Each.takes {α β : Type} {items : List α} {made : List β} {target : String}
    {bases : α → List String}
    (h : Each (fun item draft _ draft' => draft.imports.target = target →
      draft.Takes catalog (bases item) draft') items draft made draft')
    (htarget : draft.imports.target = target) :
    draft.Takes catalog (items.flatMap bases) draft' := by
  induction h with
  | nil => exact .refl catalog _
  | cons hfirst _ ih =>
      have htakes := hfirst htarget
      rw [List.flatMap_cons]
      exact htakes.trans (ih (htakes.target.trans htarget))

theorem Binds.takes {nodes : List NodeId} {body : List Go.Binding}
    (h : Binds g nodes draft body draft')
    (hpackages : g.PackagesOf catalog) (htarget : draft.imports.target = g.target) :
    draft.Takes catalog (nodes.flatMap (g.callBases catalog)) draft' := by
  induction h with
  | nil => exact .refl catalog _
  | provider hnode hfirst _ ih =>
      have htakes := hfirst.takes hnode (hpackages _ _ _ _ hnode) htarget
      rw [List.flatMap_cons]
      exact htakes.trans (ih (htakes.target.trans htarget))
  | @other node nodes draft draft' body hnode _ ih =>
      have hnone : g.callBases catalog node = [] := by
        unfold Graph.callBases
        split
        · exact absurd ‹_› (hnode _ _ _)
        · rfl
      rw [List.flatMap_cons, hnone, List.nil_append]
      exact ih htarget

theorem Written.takes {f : Go.Function} {signed typed zeroed : Draft}
    (h : Written catalog g (.init g.target) f signed typed zeroed draft')
    (hpackages : g.PackagesOf catalog) :
    (Draft.init g.target).Takes catalog (g.bases catalog) draft' := by
  have hparams := (h.params.mono fun _ _ _ _ => takes_of_param).takes rfl
  have hresults := (h.results.mono fun _ _ _ _ => takes_of_resultType).takes hparams.target
  have hsignature := hparams.trans hresults
  have hskipped := (h.skipped.mono fun _ _ _ _ => takes_of_skipped).takes hsignature.target
  -- A zero value names the type of its result, which the signature has named before.
  have hzeroed := (hsignature.trans hskipped).absorb <| by
    intro base hbase
    obtain ⟨output, hmem, hbase⟩ := List.mem_flatMap.mp hbase
    obtain ⟨t, ht, hbase⟩ := List.mem_flatMap.mp hbase
    obtain ⟨requested, hrequested, hzero⟩ := Option.bind_eq_some_iff.mp (Option.mem_toList.mp ht)
    obtain rfl := Catalog.zeroType?_eq_some hzero
    refine List.mem_append_right _ (List.mem_flatMap.mpr ⟨output, hmem, ?_⟩)
    exact List.mem_flatMap.mpr ⟨t, Option.mem_toList.mpr hrequested, hbase⟩
  exact hzeroed.trans (h.body.takes hpackages hzeroed.target)

end Steps

namespace Written

variable {catalog : Catalog} {g : Graph} {draft' : Draft} {f : Go.Function}
  {signed typed zeroed : Draft}

/-- In the end the names of the variables are those that were given, and that of the errors. -/
theorem mem_names_iff (h : Written catalog g (.init g.target) f signed typed zeroed draft')
    {name : String} : name ∈ draft'.names ↔ name ∈ f.locals ∨ name = "err" := by
  have hgives := h.givesAll_inScope h.body
  rw [hgives.names, Graph.map_snd_inScope h.params_length, init, List.mem_append,
    List.mem_reverse, List.mem_singleton]

/-- Imports and variables have names that were asked for, or numbered variants of them. -/
theorem exists_base (h : Written catalog g (.init g.target) f signed typed zeroed draft')
    (hpackages : g.PackagesOf catalog) {name : String}
    (hname : name ∈ draft'.imports.qualifiers ++ f.locals) :
    ∃ base ∈ g.bases catalog, ∃ i, name = Naming.candidate base i := by
  have htakes := h.takes hpackages
  rcases List.mem_append.mp hname with hqualifier | hlocal
  · exact (htakes.qualifiers name hqualifier).resolve_left List.not_mem_nil
  · refine (htakes.names name (h.mem_names_iff.mpr (Or.inl hlocal))).resolve_left fun herr => ?_
    exact h.locals.2 (List.mem_singleton.mp herr ▸ hlocal)

/-- What was asked for is a name of an import or of a variable, if it is not that of the errors. -/
theorem mem_of_base (h : Written catalog g (.init g.target) f signed typed zeroed draft')
    (hpackages : g.PackagesOf catalog) {name : String}
    (hname : name ∈ g.bases catalog) (herr : name ≠ "err") :
    name ∈ draft'.imports.qualifiers ++ f.locals := by
  have hnone : (Draft.init g.target).Named catalog := fun _ hpath => absurd hpath List.not_mem_nil
  rcases List.mem_append.mp ((h.takes hpackages).asked hnone hname) with hgiven | hqualifier
  · exact List.mem_append_right _ ((h.mem_names_iff.mp hgiven).resolve_right herr)
  · exact List.mem_append_left _ hqualifier

end Written

end Draft

namespace Package

theorem package_of_provider {package : Package} {t : TypeRef} {p : Provider}
    (h : package.provider t = .ok p) :
    p.importPath = package.importPath ∧ p.package = package.packageName := by
  unfold provider at h
  split at h
  case h_1 =>
    split at h
    · cases h
      exact ⟨rfl, rfl⟩
    · cases h
  case h_2 =>
    cases h
    exact ⟨rfl, rfl⟩
  case h_3 => cases h

end Package

namespace Registry

/-- A constructor is qualified by the name that its package has in the registry. -/
theorem package_of_find {packages : List Package} {t : TypeRef} {p : Provider}
    (h : (ofList packages).find t = .ok p) :
    p.package = (ofList packages).packageName p.importPath := by
  unfold find at h
  split at h
  case isTrue => cases h
  case isFalse =>
    split at h
    case h_1 => cases h
    case h_2 package hget =>
      obtain ⟨hpath, hpackage⟩ := Package.package_of_provider h
      rw [hpackage, hpath, importPath_ofList hget, packageName, Catalog.packageName]
      simp only [catalog, hget]

variable {packages : List Package} {request : Request} {g : Graph}

/-- Every graph of a request has a file. A name that is used with nothing before it is hidden only
by one that is asked for or by a numbered variant of that, and a name without a number is hidden
exactly if it is asked for. -/
theorem captures_iff_of_load (h : (ofList packages).load request = .ok g) :
    ∃ artifact, (ofList packages).catalog.generate g = .ok artifact ∧
      (∀ name, artifact.Captures name → ∃ base ∈ g.bases (ofList packages).catalog,
        ∃ i, name = Naming.candidate base i) ∧
      ∀ name, Naming.Unnumbered name → name ≠ "err" →
        (artifact.Captures name ↔
          name ∈ artifact.function.bare ∧ name ∈ g.bases (ofList packages).catalog) := by
  obtain ⟨artifact, after, signed, typed, zeroed, last, hgenerate, hwritten, himports⟩ :=
    written_of_load h (.init (ofList packages).catalog)
  have hpackages : g.PackagesOf (ofList packages).catalog :=
    fun id t p edges hnode => package_of_find (wired_of_load h hnode).found
  have hintroduced : ∀ name, name ∈ artifact.introduced ↔
      name ∈ last.imports.qualifiers ++ artifact.function.locals := by
    intro name
    rw [Artifact.introduced, himports, List.mem_append, List.mem_append,
      hwritten.sound.linked.mem_qualifiers_iff]
  have hgiven : ∀ name, artifact.Captures name → ∃ base ∈ g.bases (ofList packages).catalog,
      ∃ i, name = Naming.candidate base i := fun name hcaptures =>
    hwritten.exists_base hpackages ((hintroduced name).mp hcaptures.2)
  refine ⟨artifact, ?_, hgiven, fun name hunnumbered herr => ⟨fun hcaptures => ?_, ?_⟩⟩
  · rw [Catalog.generate, hgenerate]
    rfl
  · obtain ⟨base, hbase, i, rfl⟩ := hgiven name hcaptures
    rw [hunnumbered.eq_of_candidate] at hcaptures ⊢
    exact ⟨hcaptures.1, hbase⟩
  · rintro ⟨hbare, hbase⟩
    exact ⟨hbare, (hintroduced name).mpr (hwritten.mem_of_base hpackages hbase herr)⟩

end Registry

namespace Sample

/-- What handles the faults of an application. Its package has the name of the builtin errors. -/
def handler : TypeRef :=
  ⟨"app/error", "Handler", false⟩

def handlers : Registry :=
  .ofList
    [{ importPath := "app/error"
       name := none
       types := [⟨"Handler", .struct, []⟩]
       functions := [] }]

def handlerRequest : Request where
  name := "Load"
  target := "app/web"
  params := []
  results := [.type handler, .error]
  aliases := ∅
  hoist := false

def handlerLiteral : Provider where
  importPath := "app/error"
  package := "error"
  name := "Handler"
  kind := .struct
  inputs := []
  result := handler
  fallible := false

def handlerGraph : Graph where
  name := "Load"
  target := "app/web"
  hoist := false
  nodes := #[.provider handler handlerLiteral [], .zeroError]
  params := []
  outputs := [.value 0 handler handler, .error (.zero 1)]

/-- The last result is meant to be an error, but the name stands for a package. -/
def handlerFunction : Go.Function where
  name := "Load"
  params := []
  results := [.value ⟨false, some "error", "Handler"⟩, .error]
  skipped := [.zero (.literal ⟨false, some "error", "Handler"⟩), .failure]
  body := [⟨0, "errorHandler", handlerLiteral, ⟨some "error", "Handler"⟩, []⟩]
  returned := [.value ⟨.direct, "errorHandler"⟩, .noError]

theorem load_handlers : handlers.load handlerRequest = .ok handlerGraph := by
  with_unfolding_all rfl

theorem order_handlerGraph : handlerGraph.order = [0, 1] := by
  cbv

theorem function_handlers : ∃ last,
    Draft.function handlers.catalog handlerGraph (.init handlerGraph.target) =
      .ok (handlerFunction, last) ∧
    last.imports.specs = [("app/error", "error")] := by
  refine Draft.exists_of_map_function ?_
  unfold Draft.function
  rw [order_handlerGraph]
  decide +kernel

theorem captures_iff_handlers : handlers.load handlerRequest = .ok handlerGraph ∧
    ∃ artifact, handlers.catalog.generate handlerGraph = .ok artifact ∧
      (∀ name, artifact.Captures name →
        ∃ base ∈ handlerGraph.bases handlers.catalog, ∃ i, name = Naming.candidate base i) ∧
      ∀ name, Naming.Unnumbered name → name ≠ "err" →
        (artifact.Captures name ↔
          name ∈ artifact.function.bare ∧ name ∈ handlerGraph.bases handlers.catalog) :=
  ⟨load_handlers, Registry.captures_iff_of_load load_handlers⟩

/-- The error result is written with the name of an import, though no package declares a name. -/
theorem captures_error_handlers : handlers.load handlerRequest = .ok handlerGraph ∧
    (∀ package ∈ handlers.toList, package.name = none) ∧
    ∃ artifact, handlers.catalog.generate handlerGraph = .ok artifact ∧
      artifact.Captures "error" := by
  obtain ⟨last, hfunction, hspecs⟩ := function_handlers
  have hgenerate : handlers.catalog.generate handlerGraph =
      .ok ⟨handlers.catalog.packageName handlerGraph.target, last.imports.sorted,
        handlerFunction⟩ := by
    rw [Catalog.generate, Generator.generate_eq, Generator.init, hfunction]
    rfl
  have hspec : ("app/error", "error") ∈ last.imports.specs := by
    rw [hspecs]
    decide
  obtain ⟨signed, typed, zeroed, hwritten⟩ := Draft.exists_written hfunction
  have hlinked := hwritten.sound.linked
  have hbare : "error" ∈ handlerFunction.bare := by decide
  refine ⟨load_handlers, by decide +kernel, _, hgenerate, hbare, ?_⟩
  exact List.mem_append_left _
    (hlinked.mem_qualifiers_iff.mp (hlinked.mem_qualifiers_of_spec hspec))

end Sample

end Wiring
