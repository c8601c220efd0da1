import Wiring.Module
import Wiring.Proofs.Failure
import Wiring.Proofs.Places
import Wiring.Proofs.Reading

/-!
Directories of a module. A module that is found stands at a place of the tree and has an import path;
the import path of a place within it is that path with the names that lead down to the place.
-/

namespace Wiring

theorem Text.dropStart_append {α : Type} [BEq α] [LawfulBEq α] (start rest : List α) :
    dropStart start (start ++ rest) = some rest := by
  rw [dropStart, if_pos (List.isPrefixOf_iff_prefix.mpr (List.prefix_append start rest)),
    List.drop_left]

namespace Path

variable {name : String} {names : List String}

theorem Proper.component?_eq (h : Proper name) : component? name = some (.name name) := by
  rw [component?, if_neg (not_or.mpr ⟨h.nonempty, h.notHere⟩), if_neg h.notParent]

/-- The components of a written path are the root and the names. -/
theorem components_path (hproper : ∀ name ∈ names, Proper name) :
    components (Location.path ⟨names⟩) = .root :: names.map .name := by
  have hnames : names.filterMap component? = names.map .name := by
    rw [← List.filterMap_eq_map]
    exact List.filterMap_congr fun name hname => (hproper name hname).component?_eq
  cases names with
  | nil => decide +kernel
  | cons name names =>
      rw [components, Location.isAbsolute_path, if_pos rfl,
        Location.segments_path (List.cons_ne_nil _ _) hproper, ← hnames]
      rfl

end Path

namespace Module

variable {w : Workspace} {module : Module} {start content directory path : String}
  {base names : List String} {places : List Location}

/-- The import path of what some names lead down to from the module's directory. -/
def below (module : Module) (names : List String) : String :=
  "/".intercalate (module.path :: names)

/-- A path leads down into a module, from its directory by some names. -/
def Leads (module : Module) (w : Workspace) (path : String) (names : List String) : Prop :=
  ∃ base, w.locate module.directory = .ok base ∧ w.locate path = .ok ⟨base.names ++ names⟩

theorem below_ne_empty (h : module.path ≠ "") (names : List String) : module.below names ≠ "" := by
  intro hempty
  have htext := congrArg String.toList hempty
  rw [below, String.toList_intercalate, List.map_cons] at htext
  cases names with
  | nil => simp [h] at htext
  | cons name names => simp at htext

theorem importOf_names (module : Module) (directory path : String) (names : List String) :
    importOf module directory (names.map .name) path = .ok ("/".intercalate (path :: names)) := by
  induction names generalizing path with
  | nil => rfl
  | cons name names ih => exact ih (path ++ "/" ++ name)

theorem importPath_below (hdirectory : module.directory = Location.path ⟨base⟩)
    (hproper : ∀ name ∈ base ++ names, Path.Proper name) :
    module.importPath (Location.path ⟨base ++ names⟩) = .ok (module.below names) := by
  have hbase : ∀ name ∈ base, Path.Proper name := fun name hname =>
    hproper name (List.mem_append_left names hname)
  rw [importPath, hdirectory, Path.components_path hbase, Path.components_path hproper,
    List.map_append, ← List.cons_append, Text.dropStart_append]
  exact importOf_names module _ module.path names

section Find

/-- A `go.mod` file that declares an import path does not declare an empty one. -/
theorem ne_empty_of_declaredPath? (h : declaredPath? content = some path) : path ≠ "" := by
  obtain ⟨line, -, hline⟩ := List.exists_of_findSome?_eq_some h
  obtain ⟨rest, -, hrest⟩ := Option.bind_eq_some_iff.mp hline
  simp only at hrest
  split at hrest
  case isTrue hdeclared =>
    cases hrest
    rw [Bool.and_eq_true, decide_eq_true_eq] at hdeclared
    exact mt String.ofList_eq_empty_iff.mp hdeclared.2
  case isFalse => cases hrest

/-- A module that is found stands at one of the places that are searched. -/
theorem exists_of_search (h : w.eval (search start places) = .ok module) :
    ∃ place ∈ places, module.directory = place.path ∧ module.path ≠ "" := by
  induction places with
  | nil => cases h
  | cons place places ih =>
      rw [search, Workspace.eval_bind] at h
      obtain ⟨isFile, -, h⟩ := Except.bind_eq_ok_iff.mp h
      cases isFile with
      | false =>
          obtain ⟨other, hother, hfound⟩ := ih h
          exact ⟨other, List.mem_cons_of_mem place hother, hfound⟩
      | true =>
          rw [if_pos rfl, Workspace.eval_bind] at h
          obtain ⟨content, -, h⟩ := Except.bind_eq_ok_iff.mp h
          split at h
          case h_1 path hdeclared =>
            cases h
            exact ⟨place, List.mem_cons_self, rfl, ne_empty_of_declaredPath? hdeclared⟩
          case h_2 => cases h

/-- A module that is found stands in the tree, above the directory where the search began. -/
theorem exists_of_find (hw : w.Grounded) (h : w.eval (find start) = .ok module) :
    ∃ base, Workspace.Stands w.tree base ∧ module.directory = Location.path ⟨base⟩ ∧
      module.path ≠ "" := by
  rw [find, Workspace.eval_bind] at h
  obtain ⟨location, hlocation, h⟩ := Except.bind_eq_ok_iff.mp h
  have hstands := hw.stands (Except.mapError_eq_ok_iff.mp hlocation)
  obtain ⟨place, hplace, hdirectory, hpath⟩ := exists_of_search h
  obtain ⟨count, -, rfl⟩ := List.mem_map.mp hplace
  rw [← List.take_append_drop count location.names] at hstands
  exact ⟨_, hstands.of_append, hdirectory, hpath⟩

/-- The import path of what a path leads to within a module that was found. -/
theorem Leads.importPath_eq (hw : w.Grounded) (hfind : w.eval (find start) = .ok module)
    (h : module.Leads w path names) : ∃ location, w.locate path = .ok location ∧
      module.importPath location.path = .ok (module.below names) := by
  obtain ⟨base, hbase, hpath⟩ := h
  obtain ⟨place, hstands, hdirectory, -⟩ := exists_of_find hw hfind
  have hplace : w.locate module.directory = .ok ⟨place⟩ := by
    rw [hdirectory]
    exact Workspace.locate_path hstands
  cases hbase.symm.trans hplace
  exact ⟨_, hpath, importPath_below hdirectory (hw.stands hpath).proper⟩

end Find

end Module

end Wiring
