import Wiring.Files.Tree

/-!
Paths that lead to places of a directory tree. The path that is written for a place leads back to
it, so two places never have the same path.
-/

namespace Wiring

namespace Text

variable {sep c : Char} {cs piece : List Char}

/-- A piece has the characters of the text, but not the separator. -/
theorem mem_of_splitOn (h : piece ∈ cs.splitOn sep) (hc : c ∈ piece) : c ∈ cs ∧ c ≠ sep := by
  induction cs generalizing piece with
  | nil =>
      rw [List.splitOn_nil, List.mem_singleton] at h
      subst h
      cases hc
  | cons first cs ih =>
      rw [List.splitOn_cons_eq_if_modifyHead] at h
      split at h
      case isTrue heq =>
        rcases List.mem_cons.mp h with rfl | hrest
        · cases hc
        · exact (ih hrest hc).imp_left (List.mem_cons_of_mem first)
      case isFalse hne =>
        obtain ⟨head, pieces, hcut⟩ := List.exists_cons_of_ne_nil (List.splitOn_ne_nil sep cs)
        rw [hcut, List.modifyHead_cons] at h
        rcases List.mem_cons.mp h with rfl | hrest
        · rcases List.mem_cons.mp hc with rfl | hc
          · exact ⟨List.mem_cons_self, fun heq => hne (beq_iff_eq.mpr heq)⟩
          · exact (ih (hcut ▸ List.mem_cons_self) hc).imp_left (List.mem_cons_of_mem first)
        · have hlater := ih (hcut ▸ List.mem_cons_of_mem head hrest) hc
          exact hlater.imp_left (List.mem_cons_of_mem first)

theorem mem_of_intercalate {pieces : List (List Char)} (h : c ∈ [sep].intercalate pieces) :
    c = sep ∨ ∃ piece ∈ pieces, c ∈ piece := by
  induction pieces with
  | nil => cases h
  | cons piece rest ih =>
      cases rest with
      | nil => exact Or.inr ⟨piece, List.mem_cons_self, by simpa using h⟩
      | cons next rest =>
          simp only [List.intercalate_cons_cons, List.mem_append, List.mem_singleton] at h
          rcases h with (hpiece | rfl) | hrest
          · exact Or.inr ⟨piece, List.mem_cons_self, hpiece⟩
          · exact Or.inl rfl
          · refine (ih hrest).imp_right ?_
            rintro ⟨later, hlater, hc⟩
            exact ⟨later, List.mem_cons_of_mem piece hlater, hc⟩

end Text

namespace Path

/-- A name that a directory can have an entry under. -/
structure Proper (name : String) : Prop where
  nonempty : name ≠ ""
  notHere : name ≠ "."
  notParent : name ≠ ".."
  separated : '/' ∉ name.toList
  allowed : '\x00' ∉ name.toList

variable {path segment : String} {names : List String}

theorem segments_ne_nil (path : String) : segments path ≠ [] :=
  mt List.map_eq_nil_iff.mp (List.splitOn_ne_nil '/' path.toList)

theorem mem_of_segments {c : Char} (h : segment ∈ segments path) (hc : c ∈ segment.toList) :
    c ∈ path.toList ∧ c ≠ '/' := by
  obtain ⟨piece, hpiece, rfl⟩ := List.mem_map.mp h
  rw [String.toList_ofList] at hc
  exact Text.mem_of_splitOn hpiece hc

end Path

namespace Location

variable {names : List String}

theorem toList_path (location : Location) :
    location.path.toList = '/' :: ['/'].intercalate (location.names.map String.toList) := by
  rw [path, String.toList_append, String.toList_intercalate]
  rfl

theorem isAbsolute_path (location : Location) : Path.isAbsolute location.path = true := by
  rw [Path.isAbsolute, String.startsWith_string_iff, toList_path]
  exact ⟨_, rfl⟩

theorem path_ne_empty (location : Location) : location.path ≠ "" := by
  intro h
  have hlist := congrArg String.toList h
  rw [toList_path] at hlist
  cases hlist

/-- The segments of a written path are the names, after the nothing that stands before the root. -/
theorem segments_path (hnames : names ≠ []) (hproper : ∀ name ∈ names, Path.Proper name) :
    Path.segments (path ⟨names⟩) = "" :: names := by
  have hseparated : ∀ piece ∈ names.map String.toList, '/' ∉ piece := by
    intro piece hpiece
    obtain ⟨name, hname, rfl⟩ := List.mem_map.mp hpiece
    exact (hproper name hname).separated
  rw [Path.segments, toList_path, List.splitOn_cons_eq_if_modifyHead]
  simp only [beq_self_eq_true, if_true]
  rw [List.splitOn_intercalate _ hseparated (mt List.map_eq_nil_iff.mp hnames), List.map_cons,
    List.map_map]
  simp

theorem allowed_path (hproper : ∀ name ∈ names, Path.Proper name) :
    '\x00' ∉ (path ⟨names⟩).toList := by
  rw [toList_path]
  intro hmem
  rcases List.mem_cons.mp hmem with heq | hmem
  · exact absurd heq (by decide)
  · rcases Text.mem_of_intercalate hmem with heq | ⟨piece, hpiece, hc⟩
    · exact absurd heq (by decide)
    · obtain ⟨name, hname, rfl⟩ := List.mem_map.mp hpiece
      exact (hproper name hname).allowed hc

end Location

namespace Workspace

variable {tree : Tree} {w : Workspace} {names place segments : List String} {path segment : String}
  {location : Location}

/-- The names lead from the root to a place of the tree, each of them as an entry of the directory
before. -/
structure Stands (tree : Tree) (names : List String) : Prop where
  root : ∃ entries, tree = .directory entries
  proper : ∀ name ∈ names, Path.Proper name
  entry : ∀ before name after, names = before ++ name :: after →
    ∃ entries, tree.find? before = some (.directory entries) ∧ (entries.lookup name).isSome

theorem stands_nil (hroot : ∃ entries, tree = .directory entries) : Stands tree [] where
  root := hroot
  proper := by simp
  entry := by simp

theorem Stands.of_append {more : List String} (h : Stands tree (place ++ more)) :
    Stands tree place where
  root := h.root
  proper name hname := h.proper name (List.mem_append_left more hname)
  entry before name after heq := h.entry before name (after ++ more) (by simp [heq])

theorem Stands.dropLast (h : Stands tree place) : Stands tree place.dropLast := by
  obtain ⟨more, heq⟩ := List.dropLast_prefix place
  exact Stands.of_append (heq.symm ▸ h)

theorem Stands.push (h : Stands tree place) (hproper : Path.Proper segment)
    {entries : List (String × Tree)} (hdirectory : tree.find? place = some (.directory entries))
    (hentry : (entries.lookup segment).isSome) : Stands tree (place ++ [segment]) where
  root := h.root
  proper name hname := by
    rcases List.mem_append.mp hname with hold | hnew
    · exact h.proper name hold
    · exact List.mem_singleton.mp hnew ▸ hproper
  entry before name after heq := by
    rcases List.eq_nil_or_concat after with rfl | ⟨rest, last, rfl⟩
    · obtain ⟨rfl, hlast⟩ := List.append_inj' heq rfl
      obtain rfl := List.singleton_inj.mp hlast
      exact ⟨entries, hdirectory, hentry⟩
    · rw [List.concat_eq_append, ← List.cons_append, ← List.append_assoc] at heq
      obtain ⟨hplace, -⟩ := List.append_inj' heq rfl
      exact h.entry before name rest hplace

/-- Following segments goes from one place of the tree to another. -/
theorem stands_of_follow (h : Stands tree place)
    (hsegments : ∀ segment ∈ segments, '/' ∉ segment.toList ∧ '\x00' ∉ segment.toList)
    (hfollow : follow tree segments place = .ok location) : Stands tree location.names := by
  induction segments generalizing place with
  | nil =>
      cases hfollow
      exact h
  | cons segment segments ih =>
      obtain ⟨⟨hseparated, hallowed⟩, hrest⟩ := List.forall_mem_cons.mp hsegments
      rw [follow] at hfollow
      split at hfollow
      case h_1 => cases hfollow
      case h_2 => cases hfollow
      case h_3 => cases hfollow
      case h_4 entries hdirectory =>
        split at hfollow
        case isTrue => exact ih h hrest hfollow
        case isFalse hhere =>
          split at hfollow
          case isTrue => exact ih h.dropLast hrest hfollow
          case isFalse hparent =>
            split at hfollow
            case isTrue hentry =>
              obtain ⟨hnonempty, hnotHere⟩ := not_or.mp hhere
              exact ih (h.push ⟨hnonempty, hnotHere, hparent, hseparated, hallowed⟩ hdirectory
                hentry) hrest hfollow
            case isFalse => cases hfollow

/-- Names that lead on to a place are followed there. -/
theorem follow_of_stands (h : Stands tree (place ++ names)) :
    follow tree names place = .ok ⟨place ++ names⟩ := by
  induction names generalizing place with
  | nil => rw [follow, List.append_nil]
  | cons name names ih =>
      obtain ⟨entries, hdirectory, hentry⟩ := h.entry place name names rfl
      have hproper := h.proper name (List.mem_append_right _ List.mem_cons_self)
      rw [follow, hdirectory]
      simp only [hproper.nonempty, hproper.notHere, hproper.notParent, hentry, or_self, if_false,
        if_true]
      rw [ih (by simpa using h)]
      simp

theorem root_of_follow (hne : segments ≠ []) (h : follow tree segments [] = .ok location) :
    ∃ entries, tree = .directory entries := by
  cases segments with
  | nil => exact absurd rfl hne
  | cons segment segments =>
      cases tree with
      | file content => simp [follow, Tree.find?] at h
      | binary => simp [follow, Tree.find?] at h
      | directory entries => exact ⟨entries, rfl⟩

theorem locate_eq_ok_iff : w.locate path = .ok location ↔
    path ≠ "" ∧ '\x00' ∉ path.toList ∧
      follow w.tree (Path.segments path) (if Path.isAbsolute path then [] else w.current.names) =
        .ok location := by
  unfold locate
  split
  case isTrue hempty => simp [hempty]
  case isFalse hempty =>
    split
    case isTrue hnul => simp_all
    case isFalse hnul => simp_all

/-- The path that is written for a place leads there. -/
theorem locate_path (h : Stands w.tree location.names) : w.locate location.path = .ok location := by
  refine locate_eq_ok_iff.mpr ⟨location.path_ne_empty, Location.allowed_path h.proper, ?_⟩
  rw [location.isAbsolute_path, if_pos rfl]
  obtain ⟨entries, hroot⟩ := h.root
  obtain ⟨names⟩ := location
  have hstart : ∀ segments, follow w.tree ("" :: segments) [] = follow w.tree segments [] := by
    intro segments
    rw [follow, hroot]
    simp [Tree.find?]
  cases names with
  | nil =>
      have hsegments : Path.segments (Location.path ⟨[]⟩) = ["", ""] := by decide +kernel
      rw [hsegments, hstart, hstart, follow]
  | cons name names =>
      rw [Location.segments_path (List.cons_ne_nil _ _) h.proper, hstart]
      exact follow_of_stands (show Stands w.tree ([] ++ name :: names) from h)

/-- The path of the current directory leads to it. -/
def Grounded (w : Workspace) : Prop :=
  w.locate w.current.path = .ok w.current

theorem segments_of_allowed (hallowed : '\x00' ∉ path.toList) :
    ∀ segment ∈ Path.segments path, '/' ∉ segment.toList ∧ '\x00' ∉ segment.toList :=
  fun _ hsegment => ⟨fun hmem => (Path.mem_of_segments hsegment hmem).2 rfl,
    fun hmem => hallowed (Path.mem_of_segments hsegment hmem).1⟩

/-- What an absolute path leads to is a place of the tree. -/
theorem stands_of_absolute (habsolute : Path.isAbsolute path = true)
    (h : w.locate path = .ok location) : Stands w.tree location.names := by
  obtain ⟨-, hallowed, hfollow⟩ := locate_eq_ok_iff.mp h
  rw [habsolute, if_pos rfl] at hfollow
  have hroot := root_of_follow (Path.segments_ne_nil path) hfollow
  exact stands_of_follow (stands_nil hroot) (segments_of_allowed hallowed) hfollow

theorem Grounded.stands (hw : w.Grounded) (h : w.locate path = .ok location) :
    Stands w.tree location.names := by
  cases habsolute : Path.isAbsolute path with
  | true => exact stands_of_absolute habsolute h
  | false =>
      obtain ⟨-, hallowed, hfollow⟩ := locate_eq_ok_iff.mp h
      rw [habsolute, if_neg Bool.false_ne_true] at hfollow
      have hcurrent : Stands w.tree w.current.names :=
        stands_of_absolute w.current.isAbsolute_path hw
      exact stands_of_follow hcurrent (segments_of_allowed hallowed) hfollow

/-- Where a path leads, the path that is written for the place leads as well. -/
theorem Grounded.locate_path (hw : w.Grounded) (h : w.locate path = .ok location) :
    w.locate location.path = .ok location :=
  Workspace.locate_path (hw.stands h)

end Workspace

end Wiring
