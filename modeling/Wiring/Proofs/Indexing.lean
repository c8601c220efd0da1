import Mathlib.Data.List.Perm.Basic
import Wiring.Command
import Wiring.Document.Readers
import Wiring.Proofs.Places
import Wiring.Proofs.Reading
import Wiring.Proofs.Reordering

/-!
Which index files there are decides what a command knows of packages. It does not matter how often
and by which paths they are named, nor whether they are found besides. All of this holds for any
readers of the files.
-/

namespace List

theorem nodup_eraseDups {α : Type} [DecidableEq α] : (l : List α) → l.eraseDups.Nodup
  | [] => List.nodup_nil
  | a :: l => by
      rw [List.eraseDups_cons, List.nodup_cons, List.mem_eraseDups]
      exact ⟨by simp, nodup_eraseDups (l.filter fun b => !b == a)⟩
  termination_by l => l.length
  decreasing_by exact Nat.lt_succ_of_le (List.length_filter_le _ _)

end List

namespace Wiring

namespace Workspace

/-- The path that is written for the place where a path leads. -/
def canonical (w : Workspace) (path : String) : Except FileError String :=
  (w.locate path).map Location.path

/-- Some paths lead to the same places as others, or nowhere for the same reasons. -/
def SameFiles (w : Workspace) (paths paths' : List String) : Prop :=
  ∀ answer, answer ∈ paths.map w.canonical ↔ answer ∈ paths'.map w.canonical

theorem SameFiles.symm {w : Workspace} {paths paths' : List String} (h : w.SameFiles paths paths') :
    w.SameFiles paths' paths :=
  fun answer => (h answer).symm

end Workspace

namespace PackageIndex

variable {seen : List String} {packages packages' : List Package} {registry : Registry}

theorem repeated?_eq_none_iff : repeated? seen packages = none ↔
    (packages.map Package.importPath).Nodup ∧ ∀ package ∈ packages, package.importPath ∉ seen := by
  induction packages generalizing seen with
  | nil => simp [repeated?]
  | cons package rest ih =>
      rw [repeated?]
      split
      case isTrue hseen => simp [hseen]
      case isFalse hseen =>
        rw [ih, List.map_cons, List.nodup_cons, List.forall_mem_cons]
        simp only [List.mem_cons, not_or, List.mem_map, not_exists, not_and]
        constructor
        · rintro ⟨hnodup, hrest⟩
          exact ⟨⟨fun other hmem => (hrest other hmem).1, hnodup⟩, hseen,
            fun other hmem => (hrest other hmem).2⟩
        · rintro ⟨⟨hfirst, hnodup⟩, -, hrest⟩
          exact ⟨hnodup, fun other hmem => ⟨hfirst other hmem, hrest other hmem⟩⟩

/-- There is a registry of an index in which every import path is declared once. -/
theorem registry_eq_ok_iff : PackageIndex.registry ⟨packages⟩ = .ok registry ↔
    (packages.map Package.importPath).Nodup ∧ registry = .ofList packages := by
  have hnone : repeated? [] packages = none ↔ (packages.map Package.importPath).Nodup := by
    rw [repeated?_eq_none_iff]
    simp
  rw [PackageIndex.registry, toRegistry, Except.mapError_eq_ok_iff, ← hnone]
  cases repeated? [] packages with
  | none => simp [eq_comm]
  | some path => simp

theorem registry_eq_repeated_iff :
    (∃ path, PackageIndex.registry ⟨packages⟩ = .error (.repeated path)) ↔
      ¬ (packages.map Package.importPath).Nodup := by
  cases hregistry : PackageIndex.registry ⟨packages⟩ with
  | ok registry => simp [(registry_eq_ok_iff.mp hregistry).1]
  | error e =>
      have hrepeated : ¬ (packages.map Package.importPath).Nodup := fun hnodup => by
        rw [registry_eq_ok_iff.mpr ⟨hnodup, rfl⟩] at hregistry
        cases hregistry
      obtain ⟨path, -, rfl⟩ := Except.mapError_eq_error_iff.mp hregistry
      exact iff_of_true ⟨path, rfl⟩ hrepeated

end PackageIndex

namespace Registry

/-- The order in which packages are registered does not matter. -/
theorem ofList_eq_of_perm {packages packages' : List Package}
    (hdistinct : (packages.map Package.importPath).Nodup) (h : packages.Perm packages') :
    ofList packages = ofList packages' := by
  have hdistinct' := (h.map Package.importPath).nodup_iff.mp hdistinct
  have hget : ∀ path, (ofList packages).get? path = (ofList packages').get? path := by
    intro path
    refine Option.ext fun found => ?_
    rw [get?_ofList hdistinct, get?_ofList hdistinct']
    exact exists_congr fun package => and_congr_left fun _ => h.mem_iff
  exact congrArg Registry.mk (Std.ExtTreeMap.ext_getElem? fun {path} => hget path)

end Registry

namespace PackageIndex

variable {w : Workspace} {file : String} {files : List String} {index : PackageIndex}

/-- The index files that a search in a directory finds. -/
def found (w : Workspace) (directory : String) : List String :=
  (discover directory : WorkspaceM (List String)) w

variable [Readers]

theorem eval_ofFiles (w : Workspace) (files : List String) :
    w.eval (ofFiles files) = (files.mapM fun file => w.eval (ofFile file)).map
      fun indexes => ⟨indexes.flatMap packages⟩ := by
  induction files with
  | nil => rfl
  | cons file files ih =>
      rw [ofFiles, Workspace.eval_bind, List.mapM_cons]
      cases w.eval (ofFile file) with
      | error e => rfl
      | ok index =>
          change w.eval (ofFiles files >>= fun other => pure (index.merge other)) = _
          rw [Workspace.eval_bind, ih]
          cases files.mapM fun file => w.eval (ofFile file) <;> rfl

theorem eval_ofFiles_eq_ok_iff : w.eval (ofFiles files) = .ok index ↔ ∃ indexes,
    List.Forall₂ (fun file index => w.eval (ofFile file) = .ok index) files indexes ∧
      ⟨indexes.flatMap packages⟩ = index := by
  simp only [eval_ofFiles, Except.map_eq_ok_iff, List.mapM_eq_ok_iff]

/-- The file of an index is read once. -/
theorem reads_ofFile (h : w.eval (ofFile file) = .ok index) :
    w.Reads (ofFile file) [file] index := by
  unfold ofFile at h ⊢
  cases hformat : Format.ofPath? file with
  | none =>
      rw [hformat] at h
      cases h
  | some format =>
      simp only [hformat, Workspace.eval_bind, Workspace.eval_adapt, Workspace.eval_mk] at h ⊢
      obtain ⟨content, hread, h⟩ := Except.bind_eq_ok_iff.mp h
      have hcontent : w.read file = .ok content := Except.mapError_eq_ok_iff.mp hread
      refine ((Workspace.reads_read hcontent).adapt IndexError.unreadable).bind ?_
      cases hparse : format.packageIndex? content with
      | none =>
          rw [hparse] at h
          cases h
      | some parsed =>
          simp only [hparse] at h ⊢
          have hchecked : parsed.checked file = .ok index := h
          rw [hchecked]
          exact Workspace.reads_pure w index

/-- The files of several indexes are read in order. -/
theorem reads_ofFiles {indexes : List PackageIndex}
    (h : List.Forall₂ (fun file index => w.eval (ofFile file) = .ok index) files indexes) :
    w.Reads (ofFiles files) files ⟨indexes.flatMap packages⟩ := by
  induction h with
  | nil => exact Workspace.reads_pure w ∅
  | @cons file index files indexes hfirst _ ih =>
      have hrest : w.Reads (ofFiles files >>= fun other => pure (index.merge other)) (files ++ [])
          (index.merge ⟨indexes.flatMap packages⟩) := ih.bind (Workspace.reads_pure w _)
      rw [List.append_nil] at hrest
      exact (reads_ofFile hfirst).bind hrest

end PackageIndex

namespace Command

variable {w : Workspace} {module : Module} {command command' : Command} {config config' : Config}
  {files : List String} {packages : List Package} {registry : Registry}

/-- The index files as they are named: by the command, by the configuration, and by the search. -/
def named (command : Command) (module : Module) (config : Config) (w : Workspace) : List String :=
  command.index ++ config.indexPaths.map (Path.join module.directory) ++
    if config.discover then PackageIndex.found w module.directory else []

theorem eval_indexFiles (w : Workspace) :
    w.eval (command.indexFiles module config) =
      ((command.named module config w).mapM fun file =>
        (w.canonical file).mapError (CommandError.indexFile file)).map List.eraseDups := by
  have hlocate : ∀ file, w.eval (locateIndex file) =
      (w.canonical file).mapError (CommandError.indexFile file) := by
    intro file
    rw [Workspace.canonical, locateIndex, Workspace.eval_bind]
    change (w.locate file).mapError _ >>= _ = _
    cases w.locate file <;> rfl
  have hfound : ∀ files : List String,
      w.eval (files.mapM locateIndex >>= fun files => pure files.eraseDups) =
        (files.mapM fun file => (w.canonical file).mapError (CommandError.indexFile file)).map
          List.eraseDups := by
    intro files
    simp only [Workspace.eval_bind, Workspace.eval_mapM, hlocate]
    rfl
  unfold indexFiles named
  cases config.discover with
  | true => exact hfound _
  | false => exact hfound _

theorem eval_indexFiles_eq_ok_iff : w.eval (command.indexFiles module config) = .ok files ↔
    ∃ paths, List.Forall₂ (fun file path => w.canonical file = .ok path)
      (command.named module config w) paths ∧ paths.eraseDups = files := by
  simp only [eval_indexFiles, Except.map_eq_ok_iff, List.mapM_eq_ok_iff, Except.mapError_eq_ok_iff]

/-- To know the index files, none of them is read. -/
theorem reads_indexFiles (h : w.eval (command.indexFiles module config) = .ok files) :
    w.Reads (command.indexFiles module config) [] files := by
  obtain ⟨paths, hpaths, rfl⟩ := eval_indexFiles_eq_ok_iff.mp h
  have hlocate : ∀ file path, w.canonical file = .ok path →
      w.Reads (locateIndex file) [] path := by
    intro file path hpath
    obtain ⟨location, hlocation, rfl⟩ := Except.map_eq_ok_iff.mp hpath
    exact ((Workspace.reads_locate hlocation).adapt _).bind (Workspace.reads_pure w _)
  have hlocated : ∀ files : List String,
      List.Forall₂ (fun file path => w.canonical file = .ok path) files paths →
        w.Reads (files.mapM locateIndex >>= fun files => pure files.eraseDups) []
          paths.eraseDups := by
    intro files hfiles
    exact (Workspace.reads_mapM (hfiles.imp hlocate)).bind (Workspace.reads_pure w _)
  unfold indexFiles
  unfold named at hpaths
  cases hdiscover : config.discover with
  | true =>
      rw [hdiscover] at hpaths
      have hfound : w.Reads (liftM (PackageIndex.discover module.directory : TracedM _) :
          ExceptT CommandError TracedM _) [] (PackageIndex.found w module.directory) := by
        intro before
        rw [List.append_nil]
        rfl
      exact hfound.bind (hlocated _ hpaths)
  | false =>
      rw [hdiscover] at hpaths
      exact hlocated _ hpaths

variable [Readers]

/-- The packages of all index files, in order. -/
def declared (command : Command) (module : Module) (config : Config) (w : Workspace) :
    Except CommandError (List Package) := do
  let files ← w.eval (command.indexFiles module config)
  let index ← (w.eval (PackageIndex.ofFiles files)).mapError CommandError.index
  .ok index.packages

theorem eval_registry (w : Workspace) :
    w.eval (command.registry module config) =
      command.declared module config w >>= fun packages =>
        (PackageIndex.registry ⟨packages⟩).mapError CommandError.registry := by
  rw [registry, Workspace.eval_bind, declared, bind_assoc]
  refine bind_congr fun files => ?_
  rw [Workspace.eval_bind, Workspace.eval_adapt, bind_assoc]
  rfl

theorem declared_eq_ok_iff : command.declared module config w = .ok packages ↔
    ∃ files indexes, w.eval (command.indexFiles module config) = .ok files ∧
      List.Forall₂ (fun file index => w.eval (PackageIndex.ofFile file) = .ok index)
        files indexes ∧
      indexes.flatMap PackageIndex.packages = packages := by
  simp only [declared, Except.bind_eq_ok_iff, Except.mapError_eq_ok_iff,
    PackageIndex.eval_ofFiles_eq_ok_iff]
  constructor
  · rintro ⟨files, hfiles, _, ⟨indexes, hindexes, rfl⟩, h⟩
    cases h
    exact ⟨files, indexes, hfiles, hindexes, rfl⟩
  · rintro ⟨files, indexes, hfiles, hindexes, rfl⟩
    exact ⟨files, hfiles, _, ⟨indexes, hindexes, rfl⟩, rfl⟩

end Command

section Agree

variable {α β : Type}

/-- A command fails since an import path is declared by two packages. -/
def Repeats (x : Except CommandError α) : Prop :=
  ∃ path, x = .error (.registry (.repeated path))

/-- Two commands fail both, or they come to the same; and one of them fails for an import path that
is declared twice only if the other one does. -/
structure Agree (x y : Except CommandError α) : Prop where
  answers : ∀ a, x = .ok a ↔ y = .ok a
  repeats : Repeats x ↔ Repeats y

theorem Agree.refl (x : Except CommandError α) : Agree x x :=
  ⟨fun _ => Iff.rfl, Iff.rfl⟩

theorem repeats_bind_iff {x : Except CommandError α} {f : α → Except CommandError β} :
    Repeats (x >>= f) ↔ Repeats x ∨ ∃ a, x = .ok a ∧ Repeats (f a) := by
  simp only [Repeats, Except.bind_eq_error_iff]
  constructor
  · rintro ⟨path, hfirst | ⟨a, ha, hnext⟩⟩
    · exact Or.inl ⟨path, hfirst⟩
    · exact Or.inr ⟨a, ha, path, hnext⟩
  · rintro (⟨path, hfirst⟩ | ⟨a, ha, path, hnext⟩)
    · exact ⟨path, Or.inl hfirst⟩
    · exact ⟨path, Or.inr ⟨a, ha, hnext⟩⟩

/-- Commands that agree go on to agree if they go on alike. -/
theorem Agree.bind {x y : Except CommandError α} {f g : α → Except CommandError β}
    (h : Agree x y) (hnext : ∀ a, x = .ok a → Agree (f a) (g a)) : Agree (x >>= f) (y >>= g) where
  answers b := by
    rw [Except.bind_eq_ok_iff, Except.bind_eq_ok_iff]
    refine exists_congr fun a => ?_
    rw [← h.answers a]
    exact and_congr_right fun ha => (hnext a ha).answers b
  repeats := by
    rw [repeats_bind_iff, repeats_bind_iff, h.repeats]
    refine or_congr_right (exists_congr fun a => ?_)
    rw [← h.answers a]
    exact and_congr_right fun ha => (hnext a ha).repeats

end Agree

namespace Command

variable {w : Workspace} {module : Module} {command command' : Command} {config config' : Config}
  {files : List String} {packages : List Package} {registry : Registry}

/-- The files that are read are those that some path leads to. -/
theorem mem_files_iff (h : w.eval (command.indexFiles module config) = .ok files) (path : String) :
    path ∈ files ↔ .ok path ∈ (command.named module config w).map w.canonical := by
  obtain ⟨paths, hpaths, rfl⟩ := eval_indexFiles_eq_ok_iff.mp h
  have hmap : (command.named module config w).map w.canonical = paths.map .ok := by
    rw [← List.forall₂_eq_eq_eq, List.forall₂_map_left_iff, List.forall₂_map_right_iff]
    exact hpaths
  rw [List.mem_eraseDups, hmap, List.mem_map_of_injective fun _ _ heq => Except.ok.inj heq]

theorem nodup_files (h : w.eval (command.indexFiles module config) = .ok files) : files.Nodup := by
  obtain ⟨paths, -, rfl⟩ := eval_indexFiles_eq_ok_iff.mp h
  exact List.nodup_eraseDups paths

/-- The same files are listed, in some order. -/
theorem indexFiles_of_sameFiles
    (h : w.SameFiles (command.named module config w) (command'.named module config' w))
    (hfiles : w.eval (command.indexFiles module config) = .ok files) :
    ∃ files', w.eval (command'.indexFiles module config') = .ok files' ∧ files.Perm files' := by
  obtain ⟨paths, hpaths, -⟩ := eval_indexFiles_eq_ok_iff.mp hfiles
  have hexists : ∀ file ∈ command'.named module config' w, ∃ path, w.canonical file = .ok path := by
    intro file hfile
    obtain ⟨first, hfirst, heq⟩ := List.mem_map.mp ((h _).mpr (List.mem_map_of_mem hfile))
    obtain ⟨path, -, hpath⟩ := List.exists_mem_of_forall₂ hpaths hfirst
    exact ⟨path, heq ▸ hpath⟩
  obtain ⟨paths', hpaths'⟩ := List.exists_mapM_ok hexists
  have hfiles' : w.eval (command'.indexFiles module config') = .ok paths'.eraseDups :=
    eval_indexFiles_eq_ok_iff.mpr ⟨paths', List.mapM_eq_ok_iff.mp hpaths', rfl⟩
  refine ⟨_, hfiles', ?_⟩
  refine (List.perm_ext_iff_of_nodup (nodup_files hfiles) (nodup_files hfiles')).mpr fun path => ?_
  rw [mem_files_iff hfiles, mem_files_iff hfiles']
  exact h _

/-- The path of a file that is read is the one that is written for its place. -/
theorem exists_location (hw : w.Grounded) {path : String}
    (h : .ok path ∈ (command.named module config w).map w.canonical) :
    ∃ location, w.locate path = .ok location ∧ location.path = path := by
  obtain ⟨file, -, hfile⟩ := List.mem_map.mp h
  obtain ⟨location, hlocation, rfl⟩ := Except.map_eq_ok_iff.mp hfile
  exact ⟨location, hw.locate_path hlocation, rfl⟩

variable [Readers]

/-- The same packages are declared, in some order. -/
theorem declared_of_sameFiles
    (h : w.SameFiles (command.named module config w) (command'.named module config' w))
    (hdeclared : command.declared module config w = .ok packages) :
    ∃ packages', command'.declared module config' w = .ok packages' ∧
      packages.Perm packages' := by
  obtain ⟨files, indexes, hfiles, hindexes, rfl⟩ := declared_eq_ok_iff.mp hdeclared
  obtain ⟨files', hfiles', hperm⟩ := indexFiles_of_sameFiles h hfiles
  obtain ⟨indexes', hindexes', hperm'⟩ := List.perm_comp_forall₂ hperm.symm hindexes
  exact ⟨_, declared_eq_ok_iff.mpr ⟨files', indexes', hfiles', hindexes', rfl⟩,
    hperm'.symm.flatMap_right _⟩

theorem eval_registry_eq_ok_iff : w.eval (command.registry module config) = .ok registry ↔
    ∃ packages, command.declared module config w = .ok packages ∧
      (packages.map Package.importPath).Nodup ∧ registry = .ofList packages := by
  simp only [eval_registry, Except.bind_eq_ok_iff, Except.mapError_eq_ok_iff,
    PackageIndex.registry_eq_ok_iff]

theorem repeats_registry_iff : Repeats (w.eval (command.registry module config)) ↔
    ∃ packages, command.declared module config w = .ok packages ∧
      ¬ (packages.map Package.importPath).Nodup := by
  have hdeclared : ¬ Repeats (command.declared module config w) := by
    rintro ⟨path, h⟩
    rcases Except.bind_eq_error_iff.mp h with hfiles | ⟨files, -, h⟩
    · rw [eval_indexFiles, Except.map_eq_error_iff] at hfiles
      obtain ⟨file, -, hfile⟩ := List.exists_mem_of_mapM_error hfiles
      obtain ⟨cause, -, heq⟩ := Except.mapError_eq_error_iff.mp hfile
      cases heq
    · rcases Except.bind_eq_error_iff.mp h with hindex | ⟨index, -, h⟩
      · obtain ⟨cause, -, heq⟩ := Except.mapError_eq_error_iff.mp hindex
        cases heq
      · cases h
  rw [eval_registry, repeats_bind_iff, or_iff_right hdeclared]
  refine exists_congr fun packages => and_congr_right fun _ => ?_
  rw [← PackageIndex.registry_eq_repeated_iff]
  simp [Repeats, Except.mapError_eq_error_iff]

/-- What holds of the declared packages in any order holds for both ways to list them. -/
theorem exists_declared_iff
    (h : w.SameFiles (command.named module config w) (command'.named module config' w))
    {P : List Package → Prop} (hP : ∀ packages packages', packages.Perm packages' →
      P packages → P packages') :
    (∃ packages, command.declared module config w = .ok packages ∧ P packages) ↔
      ∃ packages, command'.declared module config' w = .ok packages ∧ P packages := by
  constructor
  · rintro ⟨packages, hdeclared, hpackages⟩
    obtain ⟨packages', hdeclared', hperm⟩ := declared_of_sameFiles h hdeclared
    exact ⟨packages', hdeclared', hP _ _ hperm hpackages⟩
  · rintro ⟨packages, hdeclared, hpackages⟩
    obtain ⟨packages', hdeclared', hperm⟩ := declared_of_sameFiles h.symm hdeclared
    exact ⟨packages', hdeclared', hP _ _ hperm hpackages⟩

theorem agree_registry
    (h : w.SameFiles (command.named module config w) (command'.named module config' w)) :
    Agree (w.eval (command.registry module config))
      (w.eval (command'.registry module config')) where
  answers registry := by
    rw [eval_registry_eq_ok_iff, eval_registry_eq_ok_iff]
    refine exists_declared_iff h ?_
    rintro packages packages' hperm ⟨hdistinct, rfl⟩
    exact ⟨(hperm.map _).nodup_iff.mp hdistinct, Registry.ofList_eq_of_perm hdistinct hperm⟩
  repeats := by
    rw [repeats_registry_iff, repeats_registry_iff]
    exact exists_declared_iff h fun _ _ hperm => mt (hperm.map _).nodup_iff.mpr

/-- What is behind a registry: the files that were read for it, and what they declare. -/
structure Loads (w : Workspace) (command : Command) (module : Module) (config : Config)
    (registry : Registry) (files : List String) : Prop where
  reads : w.Reads (command.registry module config) files registry
  once : files.Nodup
  /-- No two of the paths lead to the same file. -/
  places : w.Grounded → files.Pairwise fun a b => w.locate a ≠ w.locate b
  named : ∀ path, path ∈ files ↔ .ok path ∈ (command.named module config w).map w.canonical
  packages : ∀ file ∈ files, ∃ index, w.eval (PackageIndex.ofFile file) = .ok index ∧
    ∀ package ∈ index.packages, registry.get? package.importPath = some package.qualify

theorem reads_registry {indexes : List PackageIndex}
    (hfiles : w.eval (command.indexFiles module config) = .ok files)
    (hindexes : List.Forall₂ (fun file index => w.eval (PackageIndex.ofFile file) = .ok index)
      files indexes)
    (hregistry : PackageIndex.registry ⟨indexes.flatMap PackageIndex.packages⟩ = .ok registry) :
    w.Reads (command.registry module config) files registry := by
  have hindex := (PackageIndex.reads_ofFiles hindexes).adapt CommandError.index
  have hmade : w.Reads (ExceptT.mk (pure ((PackageIndex.registry
      ⟨indexes.flatMap PackageIndex.packages⟩).mapError CommandError.registry))) [] registry := by
    rw [hregistry]
    exact Workspace.reads_pure w registry
  have hfiles' : [] ++ (files ++ []) = files := List.append_nil files
  rw [← hfiles', Command.registry]
  exact (reads_indexFiles hfiles).bind (hindex.bind hmade)

theorem exists_loads (h : w.eval (command.registry module config) = .ok registry) :
    ∃ files, Loads w command module config registry files := by
  obtain ⟨packages, hdeclared, hdistinct, rfl⟩ := eval_registry_eq_ok_iff.mp h
  obtain ⟨files, indexes, hfiles, hindexes, rfl⟩ := declared_eq_ok_iff.mp hdeclared
  have hnodup := nodup_files hfiles
  refine ⟨files,
    { reads := reads_registry hfiles hindexes
        (PackageIndex.registry_eq_ok_iff.mpr ⟨hdistinct, rfl⟩)
      once := hnodup
      places := fun hw => hnodup.imp_of_mem ?_
      named := mem_files_iff hfiles
      packages := fun file hfile => ?_ }⟩
  · intro a b ha hb hne hsame
    obtain ⟨location, hlocation, rfl⟩ := exists_location hw ((mem_files_iff hfiles a).mp ha)
    obtain ⟨other, hother, rfl⟩ := exists_location hw ((mem_files_iff hfiles b).mp hb)
    rw [hlocation, hother] at hsame
    exact hne (congrArg Location.path (Except.ok.inj hsame))
  · obtain ⟨index, hmem, hindex⟩ := List.exists_mem_of_forall₂ hindexes hfile
    refine ⟨index, hindex, fun package hpackage => ?_⟩
    rw [Registry.get?_ofList hdistinct]
    exact ⟨package, List.mem_flatMap.mpr ⟨index, hmem, hpackage⟩, rfl, rfl⟩

/-- The listed files are still listed, and besides only some that the search finds anyway. -/
def Relists (command : Command) (w : Workspace) (index : List String) : Prop :=
  command.index ⊆ index ∧ ∀ file ∈ index, file ∈ command.index ∨
    ∃ module config, w.eval (Module.find command.directory) = .ok module ∧
      w.eval (Config.load module.directory) = .ok config ∧ config.discover = true ∧
      w.canonical file ∈ (PackageIndex.found w module.directory).map w.canonical

theorem sameFiles_of_relists {index : List String} (h : command.Relists w index)
    (hmodule : w.eval (Module.find command.directory) = .ok module)
    (hconfig : w.eval (Config.load module.directory) = .ok config) :
    w.SameFiles (command.named module config w)
      (({ command with index } : Command).named module config w) := by
  intro answer
  simp only [named, List.map_append, List.mem_append]
  constructor
  · rintro ((hlisted | hconfigured) | hfound)
    · obtain ⟨file, hfile, rfl⟩ := List.mem_map.mp hlisted
      exact Or.inl (Or.inl (List.mem_map_of_mem (h.1 hfile)))
    · exact Or.inl (Or.inr hconfigured)
    · exact Or.inr hfound
  · rintro ((hlisted | hconfigured) | hfound)
    · obtain ⟨file, hfile, rfl⟩ := List.mem_map.mp hlisted
      rcases h.2 file hfile with hold | ⟨module', config', hmodule', hconfig', hdiscover, hfound⟩
      · exact Or.inl (Or.inl (List.mem_map_of_mem hold))
      · obtain rfl := Except.ok.inj (hmodule.symm.trans hmodule')
        obtain rfl := Except.ok.inj (hconfig.symm.trans hconfig')
        rw [if_pos hdiscover]
        exact Or.inr hfound
    · exact Or.inl (Or.inr hconfigured)
    · exact Or.inr hfound

theorem agree_run {index : List String} (h : command.Relists w index) :
    Agree (w.eval command.run) (w.eval ({ command with index } : Command).run) := by
  simp only [run, Workspace.eval_bind]
  refine (Agree.refl _).bind fun module hmodule => ?_
  refine (Agree.refl _).bind fun config hconfig => ?_
  refine (Agree.refl _).bind fun request _ => ?_
  have hmodule' : w.eval (Module.find command.directory) = .ok module :=
    Except.mapError_eq_ok_iff.mp hmodule
  have hconfig' : w.eval (Config.load module.directory) = .ok config :=
    Except.mapError_eq_ok_iff.mp hconfig
  exact (agree_registry (sameFiles_of_relists h hmodule' hconfig')).bind fun registry _ =>
    .refl _

/-- Only the set of the index files matters. Two ways to name the same files come to the same
registry, or both to none; for a registry each file is read once, and every package that is declared
there is found under its import path; and a command comes to the same if it lists files as well that
the search finds anyway. -/
theorem registry_of_sameFiles (w : Workspace) :
    (∀ (module : Module) (command command' : Command) (config config' : Config),
      w.SameFiles (command.named module config w) (command'.named module config' w) →
        Agree (w.eval (command.registry module config))
          (w.eval (command'.registry module config'))) ∧
    (∀ (module : Module) (command : Command) (config : Config) (registry : Registry),
      w.eval (command.registry module config) = .ok registry →
        ∃ files, Loads w command module config registry files) ∧
    ∀ (command : Command) (index : List String), command.Relists w index →
      Agree (w.eval command.run) (w.eval ({ command with index } : Command).run) :=
  ⟨fun _ _ _ _ _ h => agree_registry h, fun _ _ _ _ h => exists_loads h,
    fun _ _ h => agree_run h⟩

end Command

namespace Sample

/-- A module with one index file. -/
def stockroom : Workspace where
  tree :=
    .directory
      [("shop", .directory
        [("go.mod", .file "module shop\n"),
          ("stock.weld.json",
            .file "\x7b\"packages\":[\x7b\"import\":\"shop/stock\"\x7d]\x7d")])]
  current := ⟨["shop"]⟩

def stockModule : Module :=
  ⟨"/shop", "shop"⟩

def stockCommand : Command where
  name := "Load"
  target := "shop"
  map := []
  dependencies := []
  externals := []
  hoist := false
  verbose := false
  dot := false
  index := []
  directory := "."

/-- The index file, listed twice. -/
def stockFiles : List String :=
  ["stock.weld.json", "/shop/./stock.weld.json"]

/-- A configuration without a search. -/
def searchless : Config :=
  ⟨[], false, false⟩

theorem find_stockroom : stockroom.eval (Module.find ".") = .ok stockModule := by
  decide +kernel

theorem config_stockroom : stockroom.eval (Config.load "/shop") = .ok .default := by
  decide +kernel

theorem found_stockroom : PackageIndex.found stockroom "/shop" = ["/shop/stock.weld.json"] := by
  have hfiles : (stockroom.filesBelow "/shop").filter PackageIndex.isIndexFile =
      ["/shop/stock.weld.json"] := by
    decide +kernel
  change ((stockroom.filesBelow "/shop").filter PackageIndex.isIndexFile).mergeSort Path.le = _
  rw [hfiles, List.mergeSort_singleton]

theorem sameFiles_stockroom : stockroom.SameFiles
    (stockCommand.named stockModule .default stockroom)
    (({ stockCommand with index := stockFiles } : Command).named stockModule searchless
      stockroom) := by
  have hsearched : stockCommand.named stockModule .default stockroom =
      PackageIndex.found stockroom "/shop" := rfl
  have hfound : ["/shop/stock.weld.json"].map stockroom.canonical =
      [.ok "/shop/stock.weld.json"] := by
    decide +kernel
  have hlisted : (({ stockCommand with index := stockFiles } : Command).named stockModule searchless
      stockroom).map stockroom.canonical =
        [.ok "/shop/stock.weld.json", .ok "/shop/stock.weld.json"] := by
    decide +kernel
  intro answer
  rw [hsearched, found_stockroom, hfound, hlisted]
  simp

theorem registry_stockroom :
    stockroom.eval (({ stockCommand with index := stockFiles } : Command).registry stockModule
      searchless) = .ok (.ofList [⟨"shop/stock", none, [], []⟩]) := by
  have hdeclared : ({ stockCommand with index := stockFiles } : Command).declared stockModule
      searchless stockroom = .ok [⟨"shop/stock", none, [], []⟩] := by
    decide +kernel
  exact Command.eval_registry_eq_ok_iff.mpr ⟨_, hdeclared, by decide, rfl⟩

theorem relists_stockroom : stockCommand.Relists stockroom stockFiles := by
  have hcanonical : ∀ file ∈ stockFiles,
      stockroom.canonical file ∈ ["/shop/stock.weld.json"].map stockroom.canonical := by
    decide +kernel
  refine ⟨List.nil_subset _, fun file hfile => Or.inr ?_⟩
  refine ⟨stockModule, .default, find_stockroom, config_stockroom, rfl, ?_⟩
  change _ ∈ (PackageIndex.found stockroom "/shop").map stockroom.canonical
  rw [found_stockroom]
  exact hcanonical file hfile

theorem registry_of_sameFiles_stockroom : stockroom.Grounded ∧
    (stockroom.SameFiles (stockCommand.named stockModule .default stockroom)
        (({ stockCommand with index := stockFiles } : Command).named stockModule searchless
          stockroom) ∧
      Agree (stockroom.eval (stockCommand.registry stockModule .default))
        (stockroom.eval (({ stockCommand with index := stockFiles } : Command).registry stockModule
          searchless))) ∧
    (stockroom.eval (({ stockCommand with index := stockFiles } : Command).registry stockModule
        searchless) = .ok (.ofList [⟨"shop/stock", none, [], []⟩]) ∧
      ∃ files, Command.Loads stockroom { stockCommand with index := stockFiles } stockModule
        searchless (.ofList [⟨"shop/stock", none, [], []⟩]) files) ∧
    stockCommand.Relists stockroom stockFiles ∧
      Agree (stockroom.eval stockCommand.run)
        (stockroom.eval ({ stockCommand with index := stockFiles } : Command).run) := by
  obtain ⟨hagree, hloads, hrun⟩ := Command.registry_of_sameFiles stockroom
  have hgrounded : stockroom.locate stockroom.current.path = .ok stockroom.current := by
    decide +kernel
  exact ⟨hgrounded, ⟨sameFiles_stockroom, hagree _ _ _ _ _ sameFiles_stockroom⟩,
    ⟨registry_stockroom, hloads _ _ _ _ registry_stockroom⟩,
    relists_stockroom, hrun _ _ relists_stockroom⟩

end Sample

end Wiring
