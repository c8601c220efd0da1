import Wiring.Proofs.Directories

/-!
Relative paths in a module. A path that is followed from the module's directory, however that is
written, has the steps of the path after those of the directory. So a relative path has the import
path of its steps, as long as none of them leads back.
-/

namespace Wiring

namespace Text

variable {sep : Char} {pieces pieces' : List (List Char)}

theorem intercalate_cons (sep : Char) (first : List Char) (pieces : List (List Char)) :
    [sep].intercalate (first :: pieces) = first ++ [sep].intercalate ([] :: pieces) := by
  cases pieces with
  | nil => simp
  | cons next pieces => simp

/-- What is joined behind a common start can be told apart, whatever the start is. -/
theorem intercalate_cons_inj (first : List Char) (hpieces : ∀ piece ∈ pieces, sep ∉ piece)
    (hpieces' : ∀ piece ∈ pieces', sep ∉ piece) :
    [sep].intercalate (first :: pieces) = [sep].intercalate (first :: pieces') ↔
      pieces = pieces' := by
  refine ⟨fun hsame => ?_, fun hsame => hsame ▸ rfl⟩
  rw [intercalate_cons sep first pieces, intercalate_cons sep first pieces',
    List.append_cancel_left_eq] at hsame
  have hsplit := congrArg (List.splitOn sep) hsame
  have hnone : sep ∉ ([] : List Char) := List.not_mem_nil
  rwa [List.splitOn_intercalate sep (List.forall_mem_cons.mpr ⟨hnone, hpieces⟩) (by simp),
    List.splitOn_intercalate sep (List.forall_mem_cons.mpr ⟨hnone, hpieces'⟩) (by simp),
    List.cons_inj_right] at hsplit

end Text

namespace Path

variable {base segment path : String}

/-- The steps of a path: its segments without those that do not lead anywhere. -/
def steps (path : String) : List String :=
  (segments path).filter fun segment => segment ≠ "" ∧ segment ≠ "."

theorem mem_steps (h : segment ∈ steps path) :
    segment ≠ "" ∧ segment ≠ "." ∧ '/' ∉ segment.toList := by
  obtain ⟨hmem, hleads⟩ := List.mem_filter.mp h
  obtain ⟨hne, hhere⟩ := of_decide_eq_true hleads
  exact ⟨hne, hhere, fun hc => (mem_of_segments hmem hc).2 rfl⟩

section Join

theorem segments_of_separated (h : '/' ∉ segment.toList) : segments segment = [segment] := by
  rw [segments, List.splitOn_eq_singleton h, List.map_singleton, String.ofList_toList]

theorem segments_append (before after : String) :
    segments (before ++ "/" ++ after) = segments before ++ segments after := by
  have htext : (before ++ "/" ++ after).toList = before.toList ++ '/' :: after.toList := by
    rw [String.toList_append, String.toList_append, List.append_assoc]
    rfl
  rw [segments, htext, List.splitOn_append_cons_self, List.map_append, segments, segments]

theorem head?_segments_append (path : String) (more : List String) :
    (segments path ++ more).head? = (segments path).head? := by
  obtain ⟨first, rest, hpath⟩ := List.exists_cons_of_ne_nil (segments_ne_nil path)
  rw [hpath]
  rfl

theorem endsWith_slash_iff : path.endsWith "/" = true ↔ ∃ before, path = before ++ "/" := by
  rw [String.endsWith_eq_endsWith_toSlice, String.Slice.endsWith_string_iff, String.copy_toSlice]
  constructor
  · rintro ⟨before, hbefore⟩
    exact ⟨String.ofList before, String.toList_inj.mp (by simp [← hbefore])⟩
  · rintro ⟨before, rfl⟩
    exact ⟨before.toList, (String.toList_append).symm⟩

theorem isAbsolute_append (hbase : base ≠ "") (more : String) :
    isAbsolute (base ++ more) = isAbsolute base := by
  obtain ⟨c, cs, hcs⟩ := List.exists_cons_of_ne_nil (mt String.toList_eq_nil_iff.mp hbase)
  rw [isAbsolute, isAbsolute, Bool.eq_iff_iff, String.startsWith_string_iff,
    String.startsWith_string_iff, String.toList_append, hcs]
  change ['/'] <+: c :: (cs ++ more.toList) ↔ ['/'] <+: c :: cs
  simp only [List.cons_prefix_cons, List.nil_prefix]

/-- A path that goes on from the segments of another one has its components first. -/
theorem components_of_segments {front : List String} (habsolute : isAbsolute path = isAbsolute base)
    (hsegments : segments path = front ++ [segment]) (hhead : front.head? = (segments base).head?)
    (hfront : front.filterMap component? = (segments base).filterMap component?) :
    components path = components base ++ (component? segment).toList := by
  have hfirst : (segments path).head? = (segments base).head? := by
    rw [hsegments, List.head?_append, hhead, ← List.head?_append, head?_segments_append]
  have hrest : (segments path).filterMap component? =
      (segments base).filterMap component? ++ (component? segment).toList := by
    rw [hsegments, List.filterMap_append, hfront]
    cases hlast : component? segment <;> simp [hlast]
  rw [components, components, habsolute, hfirst, hrest, List.append_assoc]

/-- A name that is followed from a path is the last component. -/
theorem components_join (hhere : segment ≠ ".") (hseparated : '/' ∉ segment.toList) :
    components (join base segment) = components base ++ (component? segment).toList := by
  have hrelative : isAbsolute segment = false := by
    rw [isAbsolute, ← Bool.not_eq_true, String.startsWith_string_iff]
    exact fun hstart => hseparated (hstart.subset List.mem_cons_self)
  have hsegments := segments_of_separated hseparated
  rw [join, hrelative, Bool.false_or]
  by_cases hbase : base = ""
  · subst hbase
    have hempty : components "" = [] := by decide +kernel
    rw [if_pos (by simp), hempty, components, hrelative, hsegments]
    cases hlast : component? segment <;> simp [hlast, hhere]
  rw [if_neg (by simpa using hbase)]
  split
  case isTrue hslash =>
    obtain ⟨before, rfl⟩ := endsWith_slash_iff.mp hslash
    have hbefore : segments (before ++ "/") = segments before ++ [""] := by
      have hlast : segments "" = [""] := segments_of_separated (by simp)
      rw [← String.append_empty (s := before ++ "/"), segments_append, hlast]
    refine components_of_segments (isAbsolute_append hbase segment)
      ((segments_append before segment).trans (congrArg _ hsegments)) ?_ ?_
    · rw [hbefore, head?_segments_append]
    · rw [hbefore, List.filterMap_append]
      exact (List.append_nil _).symm
  case isFalse =>
    refine components_of_segments ?_ ((segments_append base segment).trans (congrArg _ hsegments))
      rfl rfl
    rw [String.append_assoc]
    exact isAbsolute_append hbase _

/-- The components of a path that is followed step by step. -/
theorem components_foldl_join {names : List String}
    (hnames : ∀ name ∈ names, name ≠ "" ∧ name ≠ "." ∧ '/' ∉ name.toList) :
    components (names.foldl join base) = components base ++ names.filterMap component? := by
  induction names generalizing base with
  | nil => exact (List.append_nil _).symm
  | cons name names ih =>
      obtain ⟨⟨-, hhere, hseparated⟩, hrest⟩ := List.forall_mem_cons.mp hnames
      rw [List.foldl_cons, ih hrest, components_join hhere hseparated, List.append_assoc]
      cases hname : component? name <;> simp [hname]

end Join

end Path

namespace Module

variable {module : Module} {directory : String} {names names' : List String}

theorem components_directoryOf (module : Module) (relative : String) :
    Path.components (module.directoryOf relative) =
      Path.components module.directory ++ (Path.steps relative).filterMap Path.component? :=
  Path.components_foldl_join fun _ => Path.mem_steps

/-- Names that do not lead back are put behind the module's path; a step back is an error. -/
theorem importOf_filterMap (hnames : ∀ name ∈ names, name ≠ "" ∧ name ≠ ".") (path : String) :
    importOf module directory (names.filterMap Path.component?) path =
      if ".." ∈ names then .error (.escapes directory)
      else .ok ("/".intercalate (path :: names)) := by
  induction names generalizing path with
  | nil => rfl
  | cons name names ih =>
      obtain ⟨⟨hne, hhere⟩, hrest⟩ := List.forall_mem_cons.mp hnames
      by_cases hback : name = ".."
      · subst hback
        exact (if_pos List.mem_cons_self).symm
      · have hname : Path.component? name = some (.name name) := by
          rw [Path.component?, if_neg (not_or.mpr ⟨hne, hhere⟩), if_neg hback]
        have hlater : ".." ∈ name :: names ↔ ".." ∈ names := by
          rw [List.mem_cons, or_iff_right (Ne.symm hback)]
        rw [List.filterMap_cons_some hname, importOf, ih hrest]
        simp only [hlater]
        rfl

/-- The import path of what a relative path leads to. -/
theorem importPath_directoryOf (module : Module) (relative : String) :
    module.importPath (module.directoryOf relative) =
      if ".." ∈ Path.steps relative then .error (.escapes (module.directoryOf relative))
      else .ok (module.below (Path.steps relative)) := by
  rw [importPath, components_directoryOf, Text.dropStart_append]
  refine importOf_filterMap (fun name hname => ?_) module.path
  obtain ⟨hne, hhere, -⟩ := Path.mem_steps hname
  exact ⟨hne, hhere⟩

/-- Different names lead down to different import paths. -/
theorem below_inj (hnames : ∀ name ∈ names, '/' ∉ name.toList)
    (hnames' : ∀ name ∈ names', '/' ∉ name.toList) :
    module.below names = module.below names' ↔ names = names' := by
  rw [below, below, ← String.toList_inj, String.toList_intercalate, String.toList_intercalate,
    List.map_cons, List.map_cons]
  refine (Text.intercalate_cons_inj _ (List.forall_mem_map.mpr hnames)
    (List.forall_mem_map.mpr hnames')).trans ?_
  exact (List.map_injective_iff.mpr fun _ _ => String.toList_inj.mp).eq_iff

/-- The import paths of a module retrace the steps of relative paths from its directory. Steps that
lead back have none, even where they stay within the module. -/
structure Retraces (module : Module) : Prop where
  below : ∀ relative, ".." ∉ Path.steps relative →
    module.importPath (module.directoryOf relative) = .ok (module.below (Path.steps relative))
  escapes : ∀ relative, ".." ∈ Path.steps relative →
    module.importPath (module.directoryOf relative) =
      .error (.escapes (module.directoryOf relative))
  same_iff : ∀ relative other, ".." ∉ Path.steps relative → ".." ∉ Path.steps other →
    (module.importPath (module.directoryOf relative) =
        module.importPath (module.directoryOf other) ↔
      Path.steps relative = Path.steps other)

/-- This is so for every directory and every import path that a module has. -/
theorem retraces (module : Module) : module.Retraces where
  below relative hback := by rw [importPath_directoryOf, if_neg hback]
  escapes relative hback := by rw [importPath_directoryOf, if_pos hback]
  same_iff relative other hback hback' := by
    rw [importPath_directoryOf, importPath_directoryOf, if_neg hback, if_neg hback',
      Except.ok.injEq]
    exact below_inj (fun _ hname => (Path.mem_steps hname).2.2)
      fun _ hname => (Path.mem_steps hname).2.2

end Module

namespace Sample

/-- The directory is written with a step back and as if it stood at the end of a path. -/
def annex : Module :=
  ⟨"./shop/..//annex/", "example.com/annex"⟩

theorem retraces_annex :
    annex.importPath (annex.directoryOf "/front//./desk/") = .ok "example.com/annex/front/desk" ∧
    annex.importPath (annex.directoryOf "front/../desk") =
      .error (.escapes "./shop/..//annex/front/../desk") ∧
    annex.importPath (annex.directoryOf "/front//./desk/") =
      annex.importPath (annex.directoryOf "front/desk") := by
  have hretraces := annex.retraces
  have hsteps : Path.steps "/front//./desk/" = ["front", "desk"] := by decide +kernel
  have hsteps' : Path.steps "front/desk" = ["front", "desk"] := by decide +kernel
  have hback : ".." ∉ ["front", "desk"] := by decide
  refine ⟨?_, ?_, ?_⟩
  · rw [hretraces.below _ (hsteps ▸ hback), hsteps]
    decide +kernel
  · rw [hretraces.escapes _ (by decide +kernel)]
    decide +kernel
  · exact (hretraces.same_iff _ _ (hsteps ▸ hback) (hsteps' ▸ hback)).mpr
      (hsteps.trans hsteps'.symm)

end Sample

end Wiring
