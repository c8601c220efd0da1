import Mathlib.Data.Set.Card
import Wiring.Proofs.Importing

/-!
The import table against the calls that made it. Since the table was last cleared, each package that
needs an import has one from its first mention on, with the name that was free then, and the types of
all its mentions.
-/

namespace Wiring.Imports

variable {imports : Imports} {target path name type : String} {entry old : Import}

/-- The use of a package, or of one of its types, with the package name that is asked for. -/
structure Mention where
  path : String
  package : String
  type? : Option String

variable {mention : Mention} {mentions : List Mention}

/-- What the names of a mentioned package are qualified with, and the table afterwards. -/
def use (imports : Imports) : Mention → Option String × Imports
  | ⟨path, package, none⟩ => imports.add path package
  | ⟨path, package, some type⟩ => imports.addType path package type

def useAll (imports : Imports) (mentions : List Mention) : Imports :=
  mentions.foldl (fun imports mention => (imports.use mention).2) imports

/-- A call that changes the table. -/
inductive Step where
  | use (mention : Mention)
  | reset (target : String)

def step (imports : Imports) : Step → Imports
  | .use mention => (imports.use mention).2
  | .reset target => imports.reset target

/-- What was asked of the table since it was last cleared. -/
structure History where
  target : String
  mentions : List Mention

namespace History

def step (history : History) : Step → History
  | .use mention => { history with mentions := history.mentions ++ [mention] }
  | .reset target => ⟨target, []⟩

/-- The table that the mentions make. -/
def table (history : History) : Imports :=
  (empty history.target).useAll history.mentions

/-- The packages that were mentioned and need an import. -/
def paths (history : History) : Set String :=
  {path | Foreign history.target path ∧ ∃ mention ∈ history.mentions, mention.path = path}

/-- The types of packages that need an import, with the paths of their packages. -/
def types (history : History) : Set (String × String) :=
  {(path, type) | Foreign history.target path ∧
    ∃ mention ∈ history.mentions, mention.path = path ∧ mention.type? = some type}

end History

/-- The table after some calls. -/
def run (target : String) (steps : List Step) : Imports :=
  steps.foldl step (empty target)

/-- What some calls ask since the last of them that clears the table. -/
def history (target : String) (steps : List Step) : History :=
  steps.foldl History.step ⟨target, []⟩

section Runs

theorem useAll_concat (imports : Imports) (mentions : List Mention) (mention : Mention) :
    imports.useAll (mentions ++ [mention]) = ((imports.useAll mentions).use mention).2 := by
  rw [useAll, List.foldl_concat]
  rfl

theorem History.table_concat (target : String) (mentions : List Mention) (mention : Mention) :
    History.table ⟨target, mentions ++ [mention]⟩ =
      ((History.table ⟨target, mentions⟩).use mention).2 :=
  useAll_concat (empty target) mentions mention

/-- All that the calls before the table was last cleared did is forgotten. -/
theorem run_eq_table (target : String) (steps : List Step) :
    run target steps = (history target steps).table := by
  induction steps using List.reverseRecOn with
  | nil => rfl
  | append_singleton steps last ih =>
      rw [run, history, List.foldl_concat, List.foldl_concat, ← run, ← history, ih]
      cases last with
      | use mention => exact (History.table_concat _ _ mention).symm
      | reset target => rfl

theorem covers_use (imports : Imports) (mention : Mention) :
    imports.Covers [mention.path] (imports.use mention).2 := by
  obtain ⟨path, package, _ | type⟩ := mention
  · exact covers_add imports path package
  · exact covers_addType imports path package type

theorem covers_useAll (imports : Imports) (mentions : List Mention) :
    imports.Covers (mentions.map Mention.path) (imports.useAll mentions) := by
  induction mentions generalizing imports with
  | nil => exact Covers.refl imports
  | cons mention mentions ih => exact (covers_use imports mention).trans (ih _)

theorem qualifies_use (imports : Imports) (mention : Mention) :
    Qualifies (imports.use mention).2.target (imports.use mention).2.specs mention.path
      (imports.use mention).1 := by
  obtain ⟨path, package, _ | type⟩ := mention
  · exact qualifies_add imports path package
  · exact qualifies_addType imports path package type

theorem History.sound_table (history : History) : history.table.Sound :=
  (covers_useAll _ _).sound (sound_empty history.target)

theorem History.target_table (history : History) : history.table.target = history.target :=
  (covers_useAll _ _).target

/-- The packages with a name are those that were mentioned and need an import. -/
theorem History.mem_paths_table {history : History} :
    path ∈ history.table.paths ↔ path ∈ history.paths := by
  rw [table, (covers_useAll _ _).paths, or_iff_right (not_mem_paths_empty _ _), paths,
    Set.mem_ofPred_eq, and_comm, List.mem_map]
  rfl

/-- What qualifies the names of a package is the name of its path. -/
theorem Sound.eq_of_qualifies (h : imports.Sound) {qualifier : Option String}
    (hqualifies : Qualifies imports.target imports.specs path qualifier) :
    qualifier = imports.byPath[path]? := by
  cases hname : imports.byPath[path]? with
  | some name => exact h.eq_some_of_qualifies hqualifies (mem_specs.mpr hname)
  | none =>
      cases qualifier with
      | none => rfl
      | some name =>
          rw [mem_specs.mp hqualifies.2] at hname
          cases hname

end Runs

section Entries

/-- An import after a mention: its types are joined by the one that is mentioned. -/
def mentioned (entry : Import) (mention : Mention) : Import :=
  match mention.type? with
  | none => entry
  | some type =>
    if entry.path = mention.path then { entry with types := entry.types.insert type } else entry

theorem mentioned_keeps (entry : Import) (mention : Mention) :
    (mentioned entry mention).path = entry.path ∧
      (mentioned entry mention).qualifier = entry.qualifier ∧
      (mentioned entry mention).isRenamed = entry.isRenamed := by
  unfold mentioned
  split
  · exact ⟨rfl, rfl, rfl⟩
  · split <;> exact ⟨rfl, rfl, rfl⟩

theorem mentioned_of_ne (h : entry.path ≠ mention.path) : mentioned entry mention = entry := by
  unfold mentioned
  split
  · rfl
  · rw [if_neg h]

theorem mem_types_mentioned : type ∈ (mentioned entry mention).types ↔
    type ∈ entry.types ∨ mention.path = entry.path ∧ mention.type? = some type := by
  unfold mentioned
  split
  case h_1 hnone => simp [hnone]
  case h_2 found hsome =>
    split
    case isTrue heq =>
      rw [Std.ExtTreeSet.mem_insert, Std.LawfulEqOrd.compare_eq_iff_eq]
      simp [hsome, heq, or_comm]
    case isFalse hne => simp [Ne.symm hne]

theorem use_of_not_foreign (h : ¬ Foreign imports.target mention.path) :
    imports.use mention = (none, imports) := by
  have hadd (package : String) : imports.add mention.path package = (none, imports) := by
    rcases add_cases imports mention.path package with ⟨-, heq⟩ | ⟨hforeign, -⟩
    · exact heq
    · exact absurd hforeign h
  obtain ⟨path, package, _ | type⟩ := mention
  · exact hadd package
  · rw [use, addType, hadd]

/-- A mention of a type is noted in the import of its package. -/
theorem byQualifier_use (hsound : imports.Sound) (hforeign : Foreign imports.target mention.path)
    (name : String) :
    (imports.use mention).2.byQualifier[name]? =
      (imports.add mention.path mention.package).2.byQualifier[name]?.map (mentioned · mention) := by
  obtain ⟨path, package, _ | type⟩ := mention
  · exact Option.map_id'.symm
  have hcovers := covers_add imports path package
  have hlinked := (hcovers.sound hsound).linked
  have hqualifies := qualifies_add imports path package
  rw [use, addType_eq]
  cases hanswer : (imports.add path package).1 with
  | none =>
      rw [hanswer, hcovers.target] at hqualifies
      exact absurd hforeign hqualifies
  | some found =>
      rw [hanswer] at hqualifies
      have hfound := mem_specs.mp hqualifies.2
      obtain ⟨own, hown, hpath⟩ := hlinked.named path found hfound
      change ((imports.add path package).2.note found type).byQualifier[name]? = _
      rw [byQualifier_note]
      by_cases heq : found = name
      · rw [if_pos heq, ← heq, hown, Option.map_some, Option.map_some, mentioned]
        simp only [hpath, if_true]
      rw [if_neg heq]
      cases hentry : (imports.add path package).2.byQualifier[name]? with
      | none => rfl
      | some entry =>
          have hown := (hlinked.imported name entry hentry).2
          have hne : entry.path ≠ path := fun hsame =>
            heq (Option.some.inj (hfound.symm.trans (hsame ▸ hown)))
          rw [Option.map_some, mentioned_of_ne hne]

/-- An import that there is after a package was used was there before, or is new. -/
theorem cases_of_byQualifier_add {used package : String}
    (h : (imports.add used package).2.byQualifier[name]? = some entry) :
    imports.byQualifier[name]? = some entry ∨ Foreign imports.target used ∧
      used ∉ imports.paths ∧ name = Naming.firstFree package imports.qualifiers ∧
        entry = ⟨used, name, ∅, name != package⟩ := by
  rcases add_cases imports used package with
    ⟨-, heq⟩ | ⟨hforeign, found, ⟨-, heq⟩ | ⟨hnew, hfound, heq⟩⟩
  · rw [heq] at h
    exact Or.inl h
  · rw [heq] at h
    exact Or.inl h
  · rw [heq, byQualifier_enter] at h
    split at h
    case isTrue hsame =>
      subst hsame
      cases h
      exact Or.inr ⟨hforeign, hnew, hfound, rfl⟩
    case isFalse => exact Or.inl h

/-- An import that there is after a mention was there before, or is made for the mention. -/
theorem exists_of_byQualifier_use (hsound : imports.Sound)
    (h : (imports.use mention).2.byQualifier[name]? = some entry) :
    ∃ old, entry = mentioned old mention ∧ (imports.byQualifier[name]? = some old ∨
      Foreign imports.target mention.path ∧ mention.path ∉ imports.paths ∧
        name = Naming.firstFree mention.package imports.qualifiers ∧
          old = ⟨mention.path, name, ∅, name != mention.package⟩) := by
  by_cases hforeign : Foreign imports.target mention.path
  · rw [byQualifier_use hsound hforeign, Option.map_eq_some_iff] at h
    obtain ⟨old, hold, rfl⟩ := h
    exact ⟨old, rfl, cases_of_byQualifier_add hold⟩
  -- Nothing is noted for a path that needs no import, and no import is there for it.
  · rw [use_of_not_foreign hforeign] at h
    refine ⟨entry, (mentioned_of_ne fun heq => hforeign ?_).symm, Or.inl h⟩
    rw [← heq]
    exact hsound.foreign entry.path (mem_paths.mpr ⟨name, (hsound.linked.imported name entry h).2⟩)

/-- The first of the numbered variants of a package name that stands for no import. Counting with 32
bits is enough to find it, as long as there are fewer imports than names to look at. -/
structure IsFirstFree (imports : Imports) (package name : String) : Prop where
  first : ∃ i, name = Naming.candidate package i ∧ imports.isQualifier name = false ∧
    ∀ j < i, imports.isQualifier (Naming.candidate package j) = true
  searched : imports.size < Naming.reach →
    Naming.search? package imports.qualifiers (imports.size + 1) package 2 = some name

theorem length_qualifiers (imports : Imports) : imports.qualifiers.length = imports.size :=
  Std.ExtTreeMap.length_keys

theorem isFirstFree_firstFree (imports : Imports) (package : String) :
    imports.IsFirstFree package (Naming.firstFree package imports.qualifiers) where
  first := by
    obtain ⟨i, -, heq, hfree, hbefore⟩ := Naming.exists_firstFree package imports.qualifiers
    refine ⟨i, heq, ?_, fun j hj => isQualifier_iff.mpr (hbefore j hj)⟩
    rwa [heq, ← Bool.not_eq_true, isQualifier_iff]
  searched hroom := by
    have hcard : imports.qualifiers.toFinset.card < imports.size + 1 :=
      Nat.lt_succ_of_le (imports.length_qualifiers ▸ List.toFinset_card_le _)
    obtain ⟨i, hi, hfree⟩ := Naming.exists_candidate_not_mem package hcard
    exact Naming.search?_eq_firstFree (by omega) hfree

/-- The import of a package: the first mention named it, and all mentions gave it their types. -/
structure History.Records (history : History) (entry : Import) : Prop where
  introduced : ∃ before first later, history.mentions = before ++ first :: later ∧
    first.path = entry.path ∧ (∀ mention ∈ before, mention.path ≠ entry.path) ∧
    (entry.isRenamed = true ↔ entry.qualifier ≠ first.package) ∧
    (History.table ⟨history.target, before⟩).IsFirstFree first.package entry.qualifier
  types : ∀ type, type ∈ entry.types ↔
    ∃ mention ∈ history.mentions, mention.path = entry.path ∧ mention.type? = some type

theorem History.Records.mentioned (h : History.Records ⟨target, mentions⟩ old) :
    History.Records ⟨target, mentions ++ [mention]⟩ (mentioned old mention) where
  introduced := by
    obtain ⟨before, first, later, hsplit, hfirst⟩ := h.introduced
    obtain ⟨hpath, hqualifier, hrenamed⟩ := mentioned_keeps old mention
    refine ⟨before, first, later ++ [mention], ?_, ?_⟩
    · rw [show mentions = before ++ first :: later from hsplit, List.append_assoc, List.cons_append]
    · rwa [hpath, hqualifier, hrenamed]
  types type := by
    rw [mem_types_mentioned, h.types, (mentioned_keeps old mention).1]
    simp [or_and_right, exists_or]

theorem History.records_of_first (hfirst : ∀ earlier ∈ mentions, earlier.path ≠ mention.path)
    (hname : name = Naming.firstFree mention.package (History.table ⟨target, mentions⟩).qualifiers)
    (hentry : entry = ⟨mention.path, name, ∅, name != mention.package⟩) :
    History.Records ⟨target, mentions ++ [mention]⟩ (Imports.mentioned entry mention) := by
  obtain ⟨hpath, hqualifier, hrenamed⟩ := mentioned_keeps entry mention
  have hsame : entry.path = mention.path := by rw [hentry]
  constructor
  · refine ⟨mentions, mention, [], rfl, ?_, ?_, ?_, ?_⟩
    · rw [hpath, hsame]
    · rwa [hpath, hsame]
    · rw [hqualifier, hrenamed, hentry]
      exact bne_iff_ne
    · rw [hqualifier, hentry, hname]
      exact isFirstFree_firstFree _ mention.package
  · intro type
    rw [mem_types_mentioned, hpath, hsame]
    constructor
    · rintro (hold | hlast)
      · rw [hentry] at hold
        exact absurd hold Std.ExtTreeSet.not_mem_empty
      · exact ⟨mention, List.mem_append_right _ List.mem_cons_self, hlast⟩
    · rintro ⟨found, hfound, hpath', htype⟩
      rcases List.mem_append.mp hfound with hearlier | hlast
      · exact absurd hpath' (hfirst found hearlier)
      · rw [List.mem_singleton.mp hlast] at htype
        exact Or.inr ⟨rfl, htype⟩

/-- Every import in the table is that of a package that was mentioned. -/
theorem records_of_byQualifier
    (h : (History.table ⟨target, mentions⟩).byQualifier[name]? = some entry) :
    History.Records ⟨target, mentions⟩ entry := by
  induction mentions using List.reverseRecOn generalizing entry with
  | nil =>
      rw [History.table, useAll, List.foldl_nil, empty, Std.ExtTreeMap.getElem?_empty] at h
      cases h
  | append_singleton mentions mention ih =>
      rw [History.table_concat] at h
      obtain ⟨old, rfl, hfind | ⟨hforeign, hnew, hname, hold⟩⟩ :=
        exists_of_byQualifier_use (History.sound_table _) h
      · exact (ih hfind).mentioned
      · refine History.records_of_first (fun earlier hearlier hpath => ?_) hname hold
        rw [History.target_table] at hforeign
        exact hnew (History.mem_paths_table.mpr ⟨hforeign, earlier, hearlier, hpath⟩)

/-- The types in the import of a package are those of it that were mentioned. -/
theorem History.mem_types_table {history : History} : (path, type) ∈ history.types ↔
    ∃ (name : String) (entry : Import), history.table.byQualifier[name]? = some entry ∧
      entry.path = path ∧ type ∈ entry.types := by
  have hlinked := history.sound_table.linked
  constructor
  · rintro ⟨hforeign, mention, hmention, hpath, htype⟩
    obtain ⟨name, hname⟩ :=
      mem_paths.mp (mem_paths_table.mpr ⟨hforeign, mention, hmention, hpath⟩)
    obtain ⟨entry, hentry, hsame⟩ := hlinked.named path name hname
    refine ⟨name, entry, hentry, hsame, ((records_of_byQualifier hentry).types type).mpr ?_⟩
    exact ⟨mention, hmention, hpath.trans hsame.symm, htype⟩
  · rintro ⟨name, entry, hentry, rfl, htype⟩
    obtain ⟨mention, hmention, hpath, hsame⟩ :=
      ((records_of_byQualifier hentry).types type).mp htype
    have hknown := mem_paths.mpr ⟨name, (hlinked.imported name entry hentry).2⟩
    exact ⟨(mem_paths_table.mp hknown).1, mention, hmention, hpath, hsame⟩

end Entries

section Counts

theorem encard_of_nodup {α : Type} {items : List α} {s : Set α} (hnodup : items.Nodup)
    (hs : ∀ a, a ∈ s ↔ a ∈ items) : s.encard = items.length := by
  classical
  have hcoe : s = (items.toFinset : Set α) := by
    ext a
    rw [hs, Finset.mem_coe, List.mem_toFinset]
  rw [hcoe, Set.encard_coe_eq_coe_finsetCard, List.toFinset_card_of_nodup hnodup]

theorem Linked.encard_paths (h : imports.Linked) :
    {path | path ∈ imports.paths}.encard = imports.size := by
  have hlength : (imports.toList.map Import.path).length = imports.size := by
    rw [List.length_map, toList, List.length_map]
    exact Std.ExtTreeMap.length_toList
  rw [← hlength]
  refine encard_of_nodup h.nodup_paths fun path => h.mem_paths_iff.trans ?_
  exact ((perm_sorted imports).map Import.path).mem_iff

theorem Linked.encard_renamed (h : imports.Linked) :
    {name : String | ∃ entry, imports.byQualifier[name]? = some entry ∧
      entry.isRenamed = true}.encard = imports.renamed := by
  rw [renamed, List.countP_eq_length_filter, ← List.length_map (f := Import.qualifier)]
  have hnodup : (imports.toList.map Import.qualifier).Nodup :=
    ((perm_sorted imports).map Import.qualifier).nodup_iff.mp h.nodup_qualifiers
  refine encard_of_nodup (hnodup.sublist (List.filter_sublist.map _)) fun name => ?_
  rw [List.mem_map]
  constructor
  · rintro ⟨entry, hentry, hrenamed⟩
    exact ⟨entry, List.mem_filter.mpr ⟨mem_toList.mpr ⟨name, hentry⟩, hrenamed⟩,
      (h.imported name entry hentry).1⟩
  · rintro ⟨entry, hmem, rfl⟩
    obtain ⟨hentry, hrenamed⟩ := List.mem_filter.mp hmem
    exact ⟨entry, h.mem_toList_iff.mp hentry, hrenamed⟩

theorem typeCount_eq_length (imports : Imports) : imports.typeCount =
    (imports.toList.flatMap fun entry => entry.types.toList.map (entry.path, ·)).length := by
  rw [typeCount, List.length_flatMap, List.sum_eq_foldl, List.foldl_map]
  simp only [List.length_map, Std.ExtTreeSet.length_toList]

theorem Linked.encard_types (h : imports.Linked) :
    {(path, type) | ∃ (name : String) (entry : Import), imports.byQualifier[name]? = some entry ∧
      entry.path = path ∧ type ∈ entry.types}.encard = imports.typeCount := by
  rw [typeCount_eq_length]
  refine encard_of_nodup (List.nodup_flatMap.mpr ⟨fun entry _ => ?_, ?_⟩) fun (path, type) => ?_
  · refine List.Nodup.map (fun a b hab => congrArg Prod.snd hab) ?_
    exact Std.ExtTreeSet.distinct_toList.imp fun hne heq =>
      hne (Std.LawfulEqOrd.compare_eq_iff_eq.mpr heq)
  · refine (List.pairwise_map.mp h.nodup_paths).imp fun hne => ?_
    rintro ⟨path, type⟩ hleft hright
    obtain ⟨_, -, heq⟩ := List.mem_map.mp hleft
    obtain ⟨_, -, heq'⟩ := List.mem_map.mp hright
    exact hne ((congrArg Prod.fst heq).trans (congrArg Prod.fst heq').symm)
  · simp only [List.mem_flatMap, List.mem_map, Std.ExtTreeSet.mem_toList]
    constructor
    · rintro ⟨name, entry, hentry, rfl, htype⟩
      exact ⟨entry, mem_toList.mpr ⟨name, hentry⟩, type, htype, rfl⟩
    · rintro ⟨entry, hentry, type, htype, heq⟩
      cases heq
      obtain ⟨name, hname⟩ := mem_toList.mp hentry
      exact ⟨name, entry, hname, rfl, htype⟩

end Counts

/-- Every mention is answered with the name that its package has in the end. -/
theorem History.answer_eq {history : History} {before later : List Mention}
    (hsplit : history.mentions = before ++ mention :: later) :
    ((History.table ⟨history.target, before⟩).use mention).1 =
      history.table.byPath[mention.path]? := by
  refine history.sound_table.eq_of_qualifies ?_
  have hlater : history.table =
      ((History.table ⟨history.target, before⟩).use mention).2.useAll later := by
    rw [table, hsplit, useAll, List.foldl_append]
    rfl
  rw [hlater]
  exact (covers_useAll _ later).qualifies (qualifies_use _ mention)

/-- The table tells what was asked of it: which packages and types were mentioned, and by what name
each package has gone from the first mention on. The map of the names and the map of the paths are
inverse to each other. -/
structure Reflects (imports : Imports) (history : History) : Prop where
  replayed : imports = history.table
  target : imports.target = history.target
  keyed : ∀ (name : String) (entry : Import), imports.byQualifier[name]? = some entry →
    entry.qualifier = name
  inverse : ∀ path name : String, imports.byPath[path]? = some name ↔
    imports.byQualifier[name]?.map Import.path = some path
  recorded : ∀ path : String, imports.byPath[path]?.isSome = true ↔ path ∈ history.paths
  foreign : ∀ path : String, imports.byPath[path]?.isSome = true →
    path ≠ "" ∧ path ≠ history.target
  records : ∀ (name : String) (entry : Import), imports.byQualifier[name]? = some entry →
    history.Records entry
  answers : ∀ before mention later, history.mentions = before ++ mention :: later →
    ((History.table ⟨history.target, before⟩).use mention).1 = imports.byPath[mention.path]?
  listed : ∀ entry, entry ∈ imports.sorted ↔
    imports.byQualifier[entry.qualifier]? = some entry
  ascending : (imports.sorted.map Import.path).Pairwise (· < ·)
  size : history.paths.encard = imports.size
  renamed : {name : String | ∃ entry, imports.byQualifier[name]? = some entry ∧
    entry.isRenamed = true}.encard = imports.renamed
  typeCount : history.types.encard = imports.typeCount

theorem Linked.inverse (h : imports.Linked) : imports.byPath[path]? = some name ↔
    imports.byQualifier[name]?.map Import.path = some path := by
  rw [Option.map_eq_some_iff]
  constructor
  · exact h.named path name
  · rintro ⟨entry, hentry, rfl⟩
    exact (h.imported name entry hentry).2

theorem History.reflects_table (history : History) : history.table.Reflects history where
  replayed := rfl
  target := history.target_table
  keyed name entry hentry := (history.sound_table.linked.imported name entry hentry).1
  inverse _ _ := history.sound_table.linked.inverse
  recorded _ := by rw [Option.isSome_iff_exists, ← mem_paths, mem_paths_table]
  foreign _ hsome := by
    rw [Option.isSome_iff_exists, ← mem_paths, mem_paths_table] at hsome
    exact hsome.1
  records _ _ := records_of_byQualifier
  answers _ _ _ := answer_eq
  listed _ := (perm_sorted _).mem_iff.trans history.sound_table.linked.mem_toList_iff
  ascending := history.sound_table.linked.pairwise_sorted
  size := by
    rw [← history.sound_table.linked.encard_paths]
    congr 1
    ext path
    exact mem_paths_table.symm
  renamed := history.sound_table.linked.encard_renamed
  typeCount := by
    rw [← history.sound_table.linked.encard_types]
    congr 1
    ext ⟨path, type⟩
    exact mem_types_table

/-- After any calls the table tells what they asked since the last that clears it. -/
theorem reflects_run (target : String) (steps : List Step) :
    (run target steps).Reflects (history target steps) := by
  rw [run_eq_table]
  exact (history target steps).reflects_table

/-- A number that is the end of another package's own name is passed over. -/
example : (run "app/web" [.reset "app/api", .use ⟨"app/db2", "db2", none⟩,
      .use ⟨"app/db", "db", some "Conn"⟩, .use ⟨"legacy/db", "db", none⟩]).specs =
    [("app/db", "db"), ("app/db2", "db2"), ("legacy/db", "db3")] := by
  decide +kernel

end Wiring.Imports
