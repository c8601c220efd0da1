import Wiring.Command
import Wiring.Proofs.Directories
import Wiring.Proofs.References

/-!
References of a command. They are read as those of an index file are, except that a directory of the
module may stand for its import path.
-/

namespace Wiring

namespace TypeRef

variable {text p : String} {star : Bool} {before part : List Char} {t : TypeRef}

/-- The import part of a reference: what stands before the last dot and after the star, without the
blanks around it, nor the quotes within these. -/
def importPart? (text : String) : Option String :=
  (Text.breakLast '.' (splitStar (Text.trimBlank text.toList)).2).map fun (before, _) =>
    Text.unquote (Text.trim (String.ofList before))

theorem exists_importPart? (h : '.' ∈ text.toList) : ∃ p, importPart? text = some p := by
  have hbreak := mt Text.breakLast_eq_none_iff.mp (not_not_intro (dot_mem_splitStar_iff.mpr h))
  obtain ⟨cut, hcut⟩ := Option.ne_none_iff_exists'.mp hbreak
  exact ⟨_, Option.map_eq_some_iff.mpr ⟨cut, hcut, rfl⟩⟩

theorem splitStar_suffix (cs : List Char) : (splitStar cs).2 <:+ cs := by
  unfold splitStar
  split
  · exact List.suffix_cons '*' _
  · exact List.suffix_refl cs

/-- A reference is cut at its last dot. -/
structure Cut (text : String) (star : Bool) (before part : List Char) : Prop where
  body : splitStar (Text.trimBlank text.toList) = (star, before ++ '.' :: part)
  dotless : '.' ∉ part

theorem exists_cut (h : importPart? text = some p) : ∃ star before part,
    Cut text star before part ∧ p = Text.unquote (Text.trim (String.ofList before)) := by
  obtain ⟨⟨before, part⟩, hbreak, rfl⟩ := Option.map_eq_some_iff.mp h
  obtain ⟨hrest, hdotless⟩ := Text.eq_append_of_breakLast hbreak
  exact ⟨_, before, part, ⟨Prod.ext rfl hrest, hdotless⟩, rfl⟩

/-- No blank stands at the end of the name part. -/
theorem Cut.not_isBlank_last (h : Cut text star before part) {c : Char}
    (hc : part.getLast? = some c) : Text.isBlank c = false := by
  have hrest : (before ++ '.' :: part).getLast? = some c := by
    cases part with
    | nil => cases hc
    | cons first rest =>
        rw [List.getLast?_append_of_ne_nil _ (List.cons_ne_nil _ _), List.getLast?_cons_cons]
        exact hc
  refine (Text.trimmed_trimWith Text.isBlank text.toList).last c ?_
  have hsuffix : before ++ '.' :: part <:+ Text.trimBlank text.toList := by
    have hcut := splitStar_suffix (Text.trimBlank text.toList)
    rwa [h.body] at hcut
  obtain ⟨lead, hlead⟩ := hsuffix
  change (Text.trimBlank text.toList).getLast? = some c
  rw [← hlead, List.getLast?_append, hrest]
  rfl

theorem parseName_and_ne_empty_iff {reference : String} {path : List Char} (hne : path ≠ []) :
    parseName reference path star part = .ok t ∧ t.importPath ≠ "" ↔
      isIdentifier (splitStar part).2 = true ∧
        t = ⟨String.ofList path, String.ofList (splitStar part).2, star || (splitStar part).1⟩ := by
  rw [parseName_eq_ok_iff]
  constructor
  · exact And.left
  · rintro ⟨hname, rfl⟩
    exact ⟨⟨hname, rfl⟩, mt String.ofList_eq_empty_iff.mp hne⟩

/-- A reference of an index file is good if its import part is there and its name is an
identifier. -/
theorem Cut.parseQualified_eq_ok_iff (h : Cut text star before part) :
    parseQualified text = .ok t ↔ Text.trimQuotes (Text.trimBlank before) ≠ [] ∧
      isIdentifier (splitStar part).2 = true ∧
        t = ⟨String.ofList (Text.trimQuotes (Text.trimBlank before)),
          String.ofList (splitStar part).2, star || (splitStar part).1⟩ := by
  have hbody : Text.trimBlank text.toList ≠ [] := by
    intro hnil
    have hrest := congrArg Prod.snd h.body
    rw [hnil] at hrest
    simp [splitStar] at hrest
  rw [TypeRef.parseQualified_eq_ok_iff, parse]
  simp only [hbody, if_false, h.body, Text.breakLast_append h.dotless]
  split
  case isTrue hempty => simp [hempty]
  case isFalse hne => rw [parseName_and_ne_empty_iff hne, and_iff_right hne]

/-- A command puts quotes around the import path that it finds, and has the rest read again. -/
theorem Cut.parseQualified_quoted_iff (h : Cut text star before part) {path : String}
    (hpath : path ≠ "") (htrimmed : Text.Trimmed (· == '"') path.toList) :
    parseQualified ("\"" ++ path ++ "\"." ++ String.ofList part) = .ok t ↔
      isIdentifier (splitStar part).2 = true ∧
        t = ⟨path, String.ofList (splitStar part).2, (splitStar part).1⟩ := by
  have hne : path.toList ≠ [] := by simpa using hpath
  rw [TypeRef.parseQualified_eq_ok_iff, parse_eq_parseName_of_quoted hne htrimmed h.dotless
    (fun c => h.not_isBlank_last) (by simp), parseName_and_ne_empty_iff hne, String.ofList_toList,
    Bool.false_or]

end TypeRef

namespace Command

open TypeRef

variable {w : Workspace} {module : Module} {text start path p : String} {star : Bool}
  {before part : List Char} {t : TypeRef} {names : List String}

/-- Without a directory at the path, the path itself is taken. -/
theorem eval_importPath_of_not_isDirectory
    (h : w.isDirectory (module.directoryOf (Text.unquote (Text.trim text))) = false) :
    w.eval (importPath module text) = .ok (Text.unquote (Text.trim text)) := by
  rw [importPath, Workspace.eval_bind, Workspace.eval_isDirectory, h]
  rfl

theorem eval_importPath_of_isDirectory {location : Location}
    (h : w.isDirectory (module.directoryOf (Text.unquote (Text.trim text))) = true)
    (hlocate : w.locate (module.directoryOf (Text.unquote (Text.trim text))) = .ok location)
    (hpath : module.importPath location.path = .ok path) :
    w.eval (importPath module text) = .ok path := by
  rw [importPath, Workspace.eval_bind, Workspace.eval_isDirectory, h]
  refine Except.bind_eq_ok_iff.mpr ⟨true, rfl, ?_⟩
  rw [if_pos rfl, Workspace.eval_bind, Workspace.eval_adapt, Workspace.eval_locate]
  refine Except.bind_eq_ok_iff.mpr ⟨location, Except.mapError_eq_ok_iff.mpr hlocate, ?_⟩
  exact Except.mapError_eq_ok_iff.mpr hpath

theorem splitReference?_of_dotless (h : '.' ∉ text.toList) : splitReference? text = none := by
  rw [splitReference?]
  simp [Text.breakLast_eq_none_iff.mpr (mt dot_mem_splitStar_iff.mp h)]

theorem splitReference?_of_cut (h : Cut text star before part) : splitReference? text =
    if Text.trimQuotes (Text.trimBlank before) = [] then none
    else some (star, String.ofList before, String.ofList part) := by
  rw [splitReference?, h.body]
  simp [Text.breakLast_append h.dotless]

theorem not_reference_of_split (h : splitReference? text = none) (t : TypeRef) :
    w.eval (reference module text) ≠ .ok t := by
  rw [reference, h]
  exact nofun

/-- A reference of a command is good if its name is an identifier, once an import path is found for
its import part. -/
theorem reference_eq_ok_iff (h : Cut text star before part)
    (hne : Text.trimQuotes (Text.trimBlank before) ≠ [])
    (himport : w.eval (importPath module (String.ofList before)) = .ok path) (hpath : path ≠ "")
    (htrimmed : Text.Trimmed (· == '"') path.toList) :
    w.eval (reference module text) = .ok t ↔ isIdentifier (splitStar part).2 = true ∧
      t = ⟨path, String.ofList (splitStar part).2, star || (splitStar part).1⟩ := by
  rw [reference, splitReference?_of_cut h, if_neg hne]
  change w.eval (importPath module (String.ofList before) >>= _) = _ ↔ _
  rw [Workspace.eval_bind, himport, Except.bind_eq_ok_iff]
  simp only [Except.ok.injEq, exists_eq_left']
  cases hread : TypeRef.parseQualified ("\"" ++ path ++ "\"." ++ String.ofList part) with
  | ok u =>
      obtain ⟨hname, rfl⟩ := (h.parseQualified_quoted_iff hpath htrimmed).mp hread
      have hpointer : (if star = true then
          withPointer ⟨path, String.ofList (splitStar part).2, (splitStar part).1⟩ true
          else ⟨path, String.ofList (splitStar part).2, (splitStar part).1⟩) =
            ⟨path, String.ofList (splitStar part).2, star || (splitStar part).1⟩ := by
        cases star <;> rfl
      rw [Workspace.eval_pure, hpointer, Except.ok.injEq, and_iff_right hname, eq_comm]
  | error e =>
      refine iff_of_false nofun fun hgood => ?_
      rw [(h.parseQualified_quoted_iff hpath htrimmed).mpr ⟨hgood.1, rfl⟩] at hread
      cases hread

/-- A command reads a reference as index files have it read, unless its import part names a directory
of the module. It then reads it with the import path of the directory. -/
structure ReadsAlike (w : Workspace) (module : Module) (text : String) : Prop where
  dotted : '.' ∈ text.toList → ∃ p, importPart? text = some p
  dotless : '.' ∉ text.toList → (∀ t, w.eval (reference module text) ≠ .ok t) ∧
    ∀ t, TypeRef.parseQualified text ≠ .ok t
  verbatim : ∀ p, importPart? text = some p → w.isDirectory (module.directoryOf p) = false →
    ∀ t, w.eval (reference module text) = .ok t ↔ TypeRef.parseQualified text = .ok t
  directory : ∀ p names, importPart? text = some p → w.isDirectory (module.directoryOf p) = true →
    module.Leads w (module.directoryOf p) names →
    (module.below names).toList.head? ≠ some '"' → (module.below names).toList.getLast? ≠ some '"' →
      ∀ t, w.eval (reference module text) = .ok t ↔
        ∃ u, TypeRef.parseQualified text = .ok u ∧ t = u.withImportPath (module.below names)

/-- If a command finds an import path for the import part of a reference, it reads the reference with
that path where index files have it read with the import part itself. -/
theorem reference_eq_ok_iff_parseQualified (hpart : importPart? text = some p)
    (himport : ∀ source, p = Text.unquote (Text.trim source) →
      w.eval (importPath module source) = .ok path)
    (hpath : p ≠ "" → path ≠ "") (htrimmed : Text.Trimmed (· == '"') path.toList) :
    w.eval (reference module text) = .ok t ↔
      ∃ u, TypeRef.parseQualified text = .ok u ∧ t = u.withImportPath path := by
  obtain ⟨star, before, part, hcut, hp⟩ := exists_cut hpart
  have hpart' : p = String.ofList (Text.trimQuotes (Text.trimBlank before)) := by
    simpa only [Text.unquote, Text.trim, String.toList_ofList] using hp
  simp only [hcut.parseQualified_eq_ok_iff]
  by_cases hempty : Text.trimQuotes (Text.trimBlank before) = []
  · have hnone : splitReference? text = none := by
      rw [splitReference?_of_cut hcut, if_pos hempty]
    refine iff_of_false (not_reference_of_split hnone t) ?_
    rintro ⟨u, ⟨hne, -⟩, -⟩
    exact hne hempty
  · have hne : p ≠ "" := by
      rw [hpart']
      exact mt String.ofList_eq_empty_iff.mp hempty
    rw [reference_eq_ok_iff hcut hempty (himport _ hp) (hpath hne) htrimmed]
    constructor
    · rintro ⟨hname, rfl⟩
      exact ⟨_, ⟨hempty, hname, rfl⟩, rfl⟩
    · rintro ⟨u, ⟨-, hname, rfl⟩, rfl⟩
      exact ⟨hname, rfl⟩

theorem trimmed_of_importPart? (h : importPart? text = some p) :
    Text.Trimmed (· == '"') p.toList := by
  obtain ⟨star, before, part, -, rfl⟩ := exists_cut h
  rw [Text.unquote, String.toList_ofList]
  exact Text.trimmed_trimWith _ _

theorem importPath_of_importPart? {u : TypeRef} (h : importPart? text = some p)
    (hu : TypeRef.parseQualified text = .ok u) : u.importPath = p := by
  obtain ⟨star, before, part, hcut, rfl⟩ := exists_cut h
  obtain ⟨-, -, rfl⟩ := hcut.parseQualified_eq_ok_iff.mp hu
  simp only [Text.unquote, Text.trim, String.toList_ofList]

/-- Commands that run in a module and index files read references alike. -/
theorem readsAlike_of_find (hw : w.Grounded) (h : w.eval (Module.find start) = .ok module)
    (text : String) : ReadsAlike w module text where
  dotted := exists_importPart?
  dotless hdot :=
    ⟨not_reference_of_split (splitReference?_of_dotless hdot), not_parseQualified_of_dotless hdot⟩
  verbatim p hpart hdirectory t := by
    have himport : ∀ source, p = Text.unquote (Text.trim source) →
        w.eval (importPath module source) = .ok p := by
      rintro source rfl
      exact eval_importPath_of_not_isDirectory hdirectory
    have hsame : ∀ u, TypeRef.parseQualified text = .ok u → u.withImportPath p = u := by
      intro u hu
      rw [← importPath_of_importPart? hpart hu]
      rfl
    rw [reference_eq_ok_iff_parseQualified hpart himport id (trimmed_of_importPart? hpart)]
    constructor
    · rintro ⟨u, hu, rfl⟩
      rwa [hsame u hu]
    · intro ht
      exact ⟨t, ht, (hsame t ht).symm⟩
  directory p names hpart hdirectory hleads hstart hfinish t := by
    obtain ⟨location, hlocate, hpath⟩ := hleads.importPath_eq hw h
    obtain ⟨base, -, -, hmodule⟩ := Module.exists_of_find hw h
    refine reference_eq_ok_iff_parseQualified hpart ?_
      (fun _ => Module.below_ne_empty hmodule names) (Text.trimmed_quote_iff.mpr ⟨hstart, hfinish⟩)
    rintro source rfl
    exact eval_importPath_of_isDirectory hdirectory hlocate hpath

end Command

namespace Sample

/-- A module with one directory in it, which is the current one. -/
def warehouse : Workspace where
  tree :=
    .directory
      [("shop", .directory [("go.mod", .file "module example.com/shop\n"), ("stock", .directory [])])]
  current := ⟨["shop", "stock"]⟩

def shopModule : Module :=
  ⟨"/shop", "example.com/shop"⟩

theorem find_warehouse : warehouse.eval (Module.find ".") = .ok shopModule := by
  decide +kernel

/-- The directory is written in a roundabout way. -/
theorem leads_warehouse : shopModule.Leads warehouse
    (shopModule.directoryOf "stock/.././stock") ["stock"] := by
  refine ⟨⟨["shop"]⟩, ?_, ?_⟩ <;> decide +kernel

theorem readsAlike_warehouse : warehouse.Grounded ∧
    warehouse.eval (Module.find ".") = .ok shopModule ∧
    (∀ t, warehouse.eval (Command.reference shopModule "Item") ≠ .ok t) ∧
    warehouse.eval (Command.reference shopModule " *other/stock .*Item") =
      .ok ⟨"other/stock", "Item", true⟩ ∧
    warehouse.eval (Command.reference shopModule "stock/.././stock.*Item") =
      .ok ⟨"example.com/shop/stock", "Item", true⟩ := by
  have hgrounded : warehouse.locate warehouse.current.path = .ok warehouse.current := by
    decide +kernel
  have halike := Command.readsAlike_of_find hgrounded find_warehouse
  refine ⟨hgrounded, find_warehouse, ((halike "Item").dotless (by decide)).1, ?_, ?_⟩
  · refine ((halike _).verbatim "other/stock" ?_ ?_ _).mpr ?_ <;> decide +kernel
  · refine ((halike _).directory "stock/.././stock" ["stock"] ?_ ?_ leads_warehouse ?_ ?_ _).mpr
      ⟨⟨"stock/.././stock", "Item", true⟩, ?_, rfl⟩ <;> decide +kernel

end Sample

end Wiring
