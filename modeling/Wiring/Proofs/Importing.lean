import Wiring.Imports
import Wiring.Proofs.Naming

/-!
The import table of a file that is being written. Using packages at most adds to it, so that a name
which stands for a package does so to the end, and the names for different packages differ.
-/

namespace Wiring

/-- What the import block says of a package: its path, and the name that stands for it. -/
def Import.spec (entry : Import) : String × String :=
  (entry.path, entry.qualifier)

/-- The names of a package need its import: it is neither builtin nor the target itself. -/
def Foreign (target path : String) : Prop :=
  path ≠ "" ∧ path ≠ target

/-- What stands before the names of the package at a path: the name that its import gives to the
package if it needs one, and otherwise nothing. -/
def Qualifies (target : String) (specs : List (String × String)) (path : String) :
    Option String → Prop
  | some qualifier => Foreign target path ∧ (path, qualifier) ∈ specs
  | none => ¬ Foreign target path

theorem Qualifies.mono {target path : String} {specs more : List (String × String)}
    {qualifier : Option String} (h : Qualifies target specs path qualifier)
    (hsub : specs ⊆ more) : Qualifies target more path qualifier := by
  cases qualifier with
  | none => exact h
  | some name => exact ⟨h.1, hsub h.2⟩

namespace Imports

variable {imports mid imports' : Imports} {path other package type name : String} {entry : Import}

/-- The packages that have a name, with their names. -/
def specs (imports : Imports) : List (String × String) :=
  imports.byPath.toList

def paths (imports : Imports) : List String :=
  imports.byPath.keys

section Lookups

theorem mem_specs : (path, name) ∈ imports.specs ↔ imports.byPath[path]? = some name :=
  Std.ExtTreeMap.mem_toList_iff_getElem?_eq_some

theorem mem_paths : path ∈ imports.paths ↔ ∃ name, imports.byPath[path]? = some name := by
  rw [paths, Std.ExtTreeMap.mem_keys, Std.ExtTreeMap.mem_iff_isSome_getElem?,
    Option.isSome_iff_exists]

theorem mem_qualifiers :
    name ∈ imports.qualifiers ↔ ∃ entry, imports.byQualifier[name]? = some entry := by
  rw [qualifiers, Std.ExtTreeMap.mem_keys, Std.ExtTreeMap.mem_iff_isSome_getElem?,
    Option.isSome_iff_exists]

theorem isQualifier_iff : imports.isQualifier name = true ↔ name ∈ imports.qualifiers := by
  rw [isQualifier, Std.ExtTreeMap.contains_iff_mem, qualifiers, Std.ExtTreeMap.mem_keys]

theorem getElem?_eq_none_iff : imports.byPath[path]? = none ↔ path ∉ imports.paths := by
  rw [mem_paths, ← Option.isSome_iff_exists, Option.not_isSome_iff_eq_none]

theorem mem_paths_of_spec (h : (path, name) ∈ imports.specs) : path ∈ imports.paths :=
  mem_paths.mpr ⟨name, mem_specs.mp h⟩

theorem exists_spec (h : path ∈ imports.paths) : ∃ name, (path, name) ∈ imports.specs := by
  obtain ⟨name, hname⟩ := mem_paths.mp h
  exact ⟨name, mem_specs.mpr hname⟩

/-- A path has one name. -/
theorem spec_unique {first second : String} (hfirst : (path, first) ∈ imports.specs)
    (hsecond : (path, second) ∈ imports.specs) : first = second :=
  Option.some.inj ((mem_specs.mp hfirst).symm.trans (mem_specs.mp hsecond))

theorem byPath_enter (imports : Imports) (path package name other : String) :
    (imports.enter path package name).byPath[other]? =
      if path = other then some name else imports.byPath[other]? := by
  simp only [enter, Std.ExtTreeMap.getElem?_insert, Std.LawfulEqOrd.compare_eq_iff_eq]

theorem byQualifier_enter (imports : Imports) (path package name other : String) :
    (imports.enter path package name).byQualifier[other]? =
      if name = other then some ⟨path, name, ∅, name != package⟩
      else imports.byQualifier[other]? := by
  simp only [enter, Std.ExtTreeMap.getElem?_insert, Std.LawfulEqOrd.compare_eq_iff_eq]

theorem byQualifier_note (imports : Imports) (name type other : String) :
    (imports.note name type).byQualifier[other]? =
      if name = other then
        imports.byQualifier[name]?.map fun entry =>
          { entry with types := entry.types.insert type }
      else imports.byQualifier[other]? := by
  simp only [note, Std.ExtTreeMap.getElem?_modify, Std.LawfulEqOrd.compare_eq_iff_eq]

theorem mem_paths_enter :
    other ∈ (imports.enter path package name).paths ↔ other ∈ imports.paths ∨ other = path := by
  rw [mem_paths, mem_paths]
  simp only [byPath_enter]
  by_cases heq : path = other
  · simp [heq]
  · simp [heq, Ne.symm heq]

theorem mem_qualifiers_enter :
    other ∈ (imports.enter path package name).qualifiers ↔
      other ∈ imports.qualifiers ∨ other = name := by
  rw [mem_qualifiers, mem_qualifiers]
  simp only [byQualifier_enter]
  by_cases heq : name = other
  · simp [heq]
  · simp [heq, Ne.symm heq]

theorem mem_qualifiers_note :
    other ∈ (imports.note name type).qualifiers ↔ other ∈ imports.qualifiers := by
  simp only [note, qualifiers, Std.ExtTreeMap.mem_keys, Std.ExtTreeMap.mem_modify]

end Lookups

section Linked

/-- The two maps are inverse to each other: what a name stands for has this name and is found by its
path, and the name of a path stands for the package at this path. -/
structure Linked (imports : Imports) : Prop where
  imported : ∀ (name : String) (entry : Import), imports.byQualifier[name]? = some entry →
    entry.qualifier = name ∧ imports.byPath[entry.path]? = some name
  named : ∀ path name : String, imports.byPath[path]? = some name →
    ∃ entry, imports.byQualifier[name]? = some entry ∧ entry.path = path

theorem not_mem_paths_empty (target path : String) : path ∉ (empty target).paths := by
  rw [mem_paths, empty, Std.ExtTreeMap.getElem?_empty]
  simp

theorem linked_empty (target : String) : (empty target).Linked := by
  constructor
  · intro name entry h
    rw [empty, Std.ExtTreeMap.getElem?_empty] at h
    cases h
  · intro path name h
    rw [empty, Std.ExtTreeMap.getElem?_empty] at h
    cases h

/-- The maps stay inverse when a new package is taken in under a new name. -/
theorem Linked.enter (h : imports.Linked) (hpath : path ∉ imports.paths)
    (hname : name ∉ imports.qualifiers) : (imports.enter path package name).Linked := by
  constructor
  · intro other entry hentry
    rw [byQualifier_enter] at hentry
    rw [byPath_enter]
    split at hentry
    case isTrue heq =>
      cases hentry
      exact ⟨heq, by rw [if_pos rfl, heq]⟩
    case isFalse hne =>
      obtain ⟨hqualifier, hfound⟩ := h.imported other entry hentry
      have hold : path ≠ entry.path := fun heq =>
        hpath (heq ▸ mem_paths.mpr ⟨other, hfound⟩)
      exact ⟨hqualifier, by rw [if_neg hold, hfound]⟩
  · intro other found hfound
    rw [byPath_enter] at hfound
    rw [byQualifier_enter]
    split at hfound
    case isTrue heq =>
      cases hfound
      exact ⟨_, if_pos rfl, heq⟩
    case isFalse hne =>
      obtain ⟨entry, hentry, hsame⟩ := h.named other found hfound
      have hold : name ≠ found := fun heq =>
        hname (heq ▸ mem_qualifiers.mpr ⟨entry, hentry⟩)
      exact ⟨entry, by rw [if_neg hold, hentry], hsame⟩

/-- To note a type changes neither a path nor a name. -/
theorem Linked.note (h : imports.Linked) (name type : String) :
    (imports.note name type).Linked := by
  constructor
  · intro other entry hentry
    rw [byQualifier_note] at hentry
    split at hentry
    case isTrue heq =>
      obtain ⟨old, hold, rfl⟩ := Option.map_eq_some_iff.mp hentry
      exact heq ▸ h.imported name old hold
    case isFalse hne => exact h.imported other entry hentry
  · intro path found hfound
    obtain ⟨entry, hentry, hsame⟩ := h.named path found hfound
    rw [byQualifier_note]
    by_cases heq : name = found
    · rw [if_pos heq, heq, hentry]
      exact ⟨_, rfl, hsame⟩
    · rw [if_neg heq, hentry]
      exact ⟨entry, rfl, hsame⟩

theorem Linked.mem_qualifiers_of_spec (h : imports.Linked) (hspec : (path, name) ∈ imports.specs) :
    name ∈ imports.qualifiers := by
  obtain ⟨entry, hentry, -⟩ := h.named path name (mem_specs.mp hspec)
  exact mem_qualifiers.mpr ⟨entry, hentry⟩

end Linked

/-- The two maps agree, and every package that is imported needs it. -/
structure Sound (imports : Imports) : Prop where
  linked : imports.Linked
  foreign : ∀ path ∈ imports.paths, Foreign imports.target path

theorem sound_empty (target : String) : (empty target).Sound where
  linked := linked_empty target
  foreign path hpath := absurd hpath (not_mem_paths_empty target path)

/-- Where the names of a package are qualified, they are by its only import. -/
theorem Sound.eq_some_of_qualifies (h : imports.Sound) {qualifier : Option String}
    (hqualifies : Qualifies imports.target imports.specs path qualifier)
    (hspec : (path, name) ∈ imports.specs) : qualifier = some name := by
  cases qualifier with
  | none => exact absurd (h.foreign path (mem_paths_of_spec hspec)) hqualifies
  | some other => rw [spec_unique hqualifies.2 hspec]

/-- Some packages were used: those that need it are imported from then on, and nothing else is new. -/
structure Covers (imports : Imports) (used : List String) (imports' : Imports) : Prop where
  target : imports'.target = imports.target
  specs : imports.specs ⊆ imports'.specs
  sound : imports.Sound → imports'.Sound
  paths : ∀ path, path ∈ imports'.paths ↔
    path ∈ imports.paths ∨ path ∈ used ∧ Foreign imports.target path

theorem Covers.refl (imports : Imports) : imports.Covers [] imports where
  target := rfl
  specs := List.Subset.refl _
  sound := id
  paths path := by simp

theorem Covers.trans {used more : List String} (h : imports.Covers used mid)
    (h' : mid.Covers more imports') : imports.Covers (used ++ more) imports' where
  target := h'.target.trans h.target
  specs := List.Subset.trans h.specs h'.specs
  sound hsound := h'.sound (h.sound hsound)
  paths path := by
    rw [h'.paths, h.paths, h.target, List.mem_append, or_and_right, or_assoc]

/-- It only matters which packages were used that need an import and did not have it. -/
theorem Covers.congr {used used' : List String} (h : imports.Covers used imports')
    (hsame : ∀ path, Foreign imports.target path → path ∉ imports.paths →
      (path ∈ used ↔ path ∈ used')) : imports.Covers used' imports' where
  target := h.target
  specs := h.specs
  sound := h.sound
  paths path := by
    rw [h.paths]
    by_cases hold : path ∈ imports.paths
    · simp only [hold, true_or]
    · refine or_congr_right (and_congr_left fun hforeign => ?_)
      exact hsame path hforeign hold

/-- Using packages again makes no difference. -/
theorem Covers.absorb {used more : List String} (h : imports.Covers (used ++ more) imports')
    (hsub : more ⊆ used) : imports.Covers used imports' := by
  refine h.congr fun path _ _ => ?_
  rw [List.mem_append]
  exact or_iff_left_of_imp fun hmem => hsub hmem

theorem Covers.qualifies {used : List String} (h : mid.Covers used imports')
    {qualifier : Option String} (hqualifies : Qualifies mid.target mid.specs path qualifier) :
    Qualifies imports'.target imports'.specs path qualifier := by
  rw [h.target]
  exact hqualifies.mono h.specs

/-- A name that was free once a package was used does not come to stand for that package. -/
theorem Covers.ne_of_used {used later : List String} {qualifier : String}
    (h : imports.Covers used mid) (h' : mid.Covers later imports') (hsound : imports.Sound)
    (hpath : path ∈ used) (hspec : (path, qualifier) ∈ imports'.specs)
    (hname : name ∉ mid.qualifiers) : qualifier ≠ name := by
  have hmid : mid.Sound := h.sound hsound
  have hforeign : Foreign imports.target path := by
    have hlast := (h'.sound hmid).foreign path (mem_paths_of_spec hspec)
    rwa [h'.target, h.target] at hlast
  obtain ⟨other, hother⟩ := exists_spec ((h.paths path).mpr (Or.inr ⟨hpath, hforeign⟩))
  rw [spec_unique hspec (h'.specs hother)]
  rintro rfl
  exact hname (hmid.linked.mem_qualifiers_of_spec hother)

/-- Using a package finds its name, or takes it in under a name that no other import has. -/
theorem add_cases (imports : Imports) (path package : String) :
    ¬ Foreign imports.target path ∧ imports.add path package = (none, imports) ∨
    Foreign imports.target path ∧ ∃ name,
      ((path, name) ∈ imports.specs ∧ imports.add path package = (some name, imports)) ∨
      (path ∉ imports.paths ∧ name = Naming.firstFree package imports.qualifiers ∧
        imports.add path package = (some name, imports.enter path package name)) := by
  unfold add
  by_cases hlocal : path = "" ∨ path = imports.target
  · refine Or.inl ⟨fun hforeign => ?_, by rw [if_pos hlocal]⟩
    exact hlocal.elim hforeign.1 hforeign.2
  · rw [if_neg hlocal]
    refine Or.inr ⟨not_or.mp hlocal, ?_⟩
    cases hfind : imports.byPath[path]? with
    | some name => exact ⟨name, Or.inl ⟨mem_specs.mpr hfind, rfl⟩⟩
    | none => exact ⟨_, Or.inr ⟨getElem?_eq_none_iff.mp hfind, rfl, rfl⟩⟩

/-- A package that needs an import and has none gets one. -/
theorem covers_enter (hforeign : Foreign imports.target path) (hpath : path ∉ imports.paths)
    (hname : name ∉ imports.qualifiers) :
    imports.Covers [path] (imports.enter path package name) where
  target := rfl
  specs := by
    rintro ⟨other, found⟩ hspec
    have hne : path ≠ other := fun heq => hpath (heq ▸ mem_paths_of_spec hspec)
    rw [mem_specs, byPath_enter, if_neg hne]
    exact mem_specs.mp hspec
  sound h := by
    refine ⟨h.linked.enter hpath hname, fun other hother => ?_⟩
    rcases mem_paths_enter.mp hother with hold | rfl
    · exact h.foreign other hold
    · exact hforeign
  paths other := by
    rw [mem_paths_enter, List.mem_singleton]
    refine or_congr_right (iff_self_and.mpr ?_)
    rintro rfl
    exact hforeign

theorem covers_add (imports : Imports) (path package : String) :
    imports.Covers [path] (imports.add path package).2 := by
  -- Nothing is added for a path that needs no import or has one, so it counts as used for free.
  rcases add_cases imports path package with
    ⟨hlocal, heq⟩ | ⟨hforeign, name, ⟨hspec, heq⟩ | ⟨hpath, hname, heq⟩⟩
  · rw [heq]
    refine (Covers.refl imports).congr fun other hother _ => ?_
    refine iff_of_false List.not_mem_nil fun hmem => hlocal ?_
    rwa [← List.mem_singleton.mp hmem]
  · rw [heq]
    refine (Covers.refl imports).congr fun other _ hother => ?_
    refine iff_of_false List.not_mem_nil fun hmem => hother ?_
    rw [List.mem_singleton.mp hmem]
    exact mem_paths_of_spec hspec
  · rw [heq]
    exact covers_enter hforeign hpath (hname ▸ Naming.firstFree_not_mem _ _)

/-- What using a package answers is what stands for it in the file. -/
theorem qualifies_add (imports : Imports) (path package : String) :
    Qualifies (imports.add path package).2.target (imports.add path package).2.specs path
      (imports.add path package).1 := by
  rcases add_cases imports path package with
    ⟨hlocal, heq⟩ | ⟨hforeign, name, ⟨hspec, heq⟩ | ⟨-, -, heq⟩⟩
  · rw [heq]
    exact hlocal
  · rw [heq]
    exact ⟨hforeign, hspec⟩
  · rw [heq]
    exact ⟨hforeign, mem_specs.mpr (by rw [byPath_enter, if_pos rfl])⟩

/-- Noting a type uses no package. -/
theorem covers_note (imports : Imports) (name type : String) :
    imports.Covers [] (imports.note name type) where
  target := rfl
  specs := List.Subset.refl _
  sound h := ⟨h.linked.note name type, h.foreign⟩
  paths path := by simp [paths, note]

/-- Using a type is using its package and noting the type, if there is an import to note it in. -/
theorem addType_eq (imports : Imports) (path package type : String) :
    imports.addType path package type =
      ((imports.add path package).1,
        (imports.add path package).1.elim (imports.add path package).2
          fun name => (imports.add path package).2.note name type) := by
  unfold addType
  split
  case h_1 after heq =>
    rw [heq]
    rfl
  case h_2 name after heq =>
    rw [heq]
    rfl

theorem covers_addType (imports : Imports) (path package type : String) :
    imports.Covers [path] (imports.addType path package type).2 := by
  rw [addType_eq]
  cases (imports.add path package).1 with
  | none => exact covers_add imports path package
  | some name => exact (covers_add imports path package).trans (covers_note _ name type)

theorem qualifies_addType (imports : Imports) (path package type : String) :
    Qualifies (imports.addType path package type).2.target
      (imports.addType path package type).2.specs path (imports.addType path package type).1 := by
  have hadd := qualifies_add imports path package
  rw [addType_eq]
  cases hname : (imports.add path package).1 with
  | none => rwa [hname] at hadd
  | some name => rwa [hname] at hadd

section Listing

theorem mem_toList :
    entry ∈ imports.toList ↔ ∃ name : String, imports.byQualifier[name]? = some entry := by
  simp only [toList, List.mem_map, Prod.exists, Std.ExtTreeMap.mem_toList_iff_getElem?_eq_some,
    exists_eq_right]

/-- Sorting does not change what is imported. -/
theorem perm_sorted (imports : Imports) : imports.sorted.Perm imports.toList :=
  List.mergeSort_perm ..

theorem mem_sorted :
    entry ∈ imports.sorted ↔ ∃ name : String, imports.byQualifier[name]? = some entry :=
  (perm_sorted imports).mem_iff.trans mem_toList

theorem Linked.mem_toList_iff (h : imports.Linked) :
    entry ∈ imports.toList ↔ imports.byQualifier[entry.qualifier]? = some entry := by
  refine mem_toList.trans ⟨?_, fun hentry => ⟨_, hentry⟩⟩
  rintro ⟨name, hentry⟩
  rwa [(h.imported name entry hentry).1]

/-- What is imported is what has a name. -/
theorem Linked.mem_specs_iff (h : imports.Linked) {spec : String × String} :
    spec ∈ imports.specs ↔ spec ∈ imports.sorted.map Import.spec := by
  obtain ⟨path, name⟩ := spec
  simp only [List.mem_map, mem_sorted, Import.spec, Prod.mk.injEq]
  constructor
  · intro hspec
    obtain ⟨entry, hentry, hpath⟩ := h.named path name (mem_specs.mp hspec)
    exact ⟨entry, ⟨name, hentry⟩, hpath, (h.imported name entry hentry).1⟩
  · rintro ⟨entry, ⟨other, hentry⟩, rfl, rfl⟩
    obtain ⟨hqualifier, hfound⟩ := h.imported other entry hentry
    exact mem_specs.mpr (hqualifier ▸ hfound)

theorem Linked.mem_paths_iff (h : imports.Linked) :
    path ∈ imports.paths ↔ path ∈ imports.sorted.map Import.path := by
  have hfst : imports.sorted.map Import.path = (imports.sorted.map Import.spec).map Prod.fst := by
    rw [List.map_map]
    rfl
  have hpaths : imports.paths = imports.specs.map Prod.fst :=
    (Std.ExtTreeMap.map_fst_toList_eq_keys).symm
  rw [hfst, hpaths, List.mem_map, List.mem_map]
  exact exists_congr fun spec => and_congr_left fun _ => h.mem_specs_iff

theorem Linked.mem_qualifiers_iff (h : imports.Linked) :
    name ∈ imports.qualifiers ↔ name ∈ imports.sorted.map Import.qualifier := by
  simp only [mem_qualifiers, List.mem_map, mem_sorted]
  constructor
  · rintro ⟨entry, hentry⟩
    exact ⟨entry, ⟨name, hentry⟩, (h.imported name entry hentry).1⟩
  · rintro ⟨entry, ⟨other, hentry⟩, rfl⟩
    exact ⟨entry, (h.imported other entry hentry).1 ▸ hentry⟩

theorem Linked.map_qualifier (h : imports.Linked) :
    imports.toList.map Import.qualifier = imports.qualifiers := by
  rw [toList, List.map_map, qualifiers, ← Std.ExtTreeMap.map_fst_toList_eq_keys]
  refine List.map_congr_left fun (name, entry) hentry => ?_
  exact (h.imported name entry
    (Std.ExtTreeMap.mem_toList_iff_getElem?_eq_some.mp hentry)).1

theorem Linked.nodup_qualifiers (h : imports.Linked) :
    (imports.sorted.map Import.qualifier).Nodup := by
  rw [((perm_sorted imports).map Import.qualifier).nodup_iff, h.map_qualifier]
  exact Std.ExtTreeMap.nodup_keys

/-- No path is listed twice, since the two names would be one. -/
theorem Linked.nodup_paths (h : imports.Linked) : (imports.toList.map Import.path).Nodup := by
  have hnodup : imports.toList.Nodup := by
    refine List.Nodup.of_map Import.qualifier ?_
    rw [h.map_qualifier]
    exact Std.ExtTreeMap.nodup_keys
  refine List.Nodup.map_on (fun a ha b hb hpath => ?_) hnodup
  obtain ⟨name, hname⟩ := mem_toList.mp ha
  obtain ⟨other, hother⟩ := mem_toList.mp hb
  have hfound := (h.imported name a hname).2
  rw [hpath, (h.imported other b hother).2] at hfound
  cases hfound
  exact Option.some.inj (hname.symm.trans hother)

/-- In the import block the paths ascend. -/
theorem Linked.pairwise_sorted (h : imports.Linked) :
    (imports.sorted.map Import.path).Pairwise (· < ·) := by
  have hle : imports.sorted.Pairwise fun a b => decide (a.path ≤ b.path) = true := by
    apply List.pairwise_mergeSort
    · intro a b c hab hbc
      exact decide_eq_true (String.le_trans (of_decide_eq_true hab) (of_decide_eq_true hbc))
    · intro a b
      simpa using String.le_total a.path b.path
  have hsorted : imports.sorted.Pairwise fun a b => a.path ≤ b.path :=
    hle.imp fun hab => of_decide_eq_true hab
  have hdistinct : (imports.sorted.map Import.path).Nodup :=
    ((perm_sorted imports).map Import.path).nodup_iff.mpr h.nodup_paths
  rw [List.pairwise_map]
  refine hsorted.imp₂ (fun a b hle hne => ?_) (List.pairwise_map.mp hdistinct)
  exact String.not_le.mp fun hge => hne (String.le_antisymm hle hge)

end Listing

end Imports

end Wiring
