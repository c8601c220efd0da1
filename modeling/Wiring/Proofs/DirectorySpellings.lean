import Wiring.Proofs.CommandReferences
import Wiring.Proofs.RelativePaths

/-!
Texts of a command that name directories of its module. Blanks, quotes, repeated slashes, dots and
ways back make no difference: the import path that is found is that of the directory itself, and
another directory has another one.
-/

namespace Wiring

namespace Module

variable {w : Workspace} {module : Module} {path path' : String} {names names' : List String}

/-- The names that lead down into a module are names that directories can have entries under. -/
theorem Leads.proper (hw : w.Grounded) (h : module.Leads w path names) :
    ∀ name ∈ names, Path.Proper name := by
  obtain ⟨base, -, hpath⟩ := h
  exact fun name hname => (hw.stands hpath).proper name (List.mem_append_right _ hname)

/-- Two paths into a module lead to one place if the names do that lead down to it. -/
theorem Leads.locate_eq_iff (h : module.Leads w path names) (h' : module.Leads w path' names') :
    w.locate path = w.locate path' ↔ names = names' := by
  obtain ⟨base, hbase, hpath⟩ := h
  obtain ⟨base', hbase', hpath'⟩ := h'
  cases hbase.symm.trans hbase'
  rw [hpath, hpath', Except.ok.injEq, Location.mk.injEq, List.append_cancel_left_eq]

end Module

namespace Command

variable {w : Workspace} {module : Module} {start text p q : String} {names names' : List String}

/-- The path of the directory that a text may stand for: the text without the blanks around it, nor
the quotes within these, from the module's directory. -/
def spelled (module : Module) (text : String) : String :=
  module.directoryOf (Text.unquote (Text.trim text))

/-- A text names the directory of the module that some names lead down to. -/
structure NamesDirectory (w : Workspace) (module : Module) (text : String) (names : List String) :
    Prop where
  isDirectory : w.isDirectory (spelled module text) = true
  leads : module.Leads w (spelled module text) names

theorem NamesDirectory.importPath_eq (hw : w.Grounded)
    (hfind : w.eval (Module.find start) = .ok module) (h : NamesDirectory w module text names) :
    w.eval (importPath module text) = .ok (module.below names) := by
  obtain ⟨location, hlocate, hpath⟩ := h.leads.importPath_eq hw hfind
  exact eval_importPath_of_isDirectory h.isDirectory hlocate hpath

/-- All spellings of a directory of a module that was found have the import path of the directory,
and spellings of two directories have two. -/
theorem importPath_eq_iff_locate_eq (hw : w.Grounded)
    (hfind : w.eval (Module.find start) = .ok module) (hp : NamesDirectory w module p names)
    (hq : NamesDirectory w module q names') :
    w.eval (importPath module p) = .ok (module.below names) ∧
      w.eval (importPath module q) = .ok (module.below names') ∧
      (w.eval (importPath module p) = w.eval (importPath module q) ↔
        w.locate (spelled module p) = w.locate (spelled module q)) := by
  have hpathp := hp.importPath_eq hw hfind
  have hpathq := hq.importPath_eq hw hfind
  refine ⟨hpathp, hpathq, ?_⟩
  have hbelow : module.below names = module.below names' ↔ names = names' :=
    Module.below_inj (fun name hname => (hp.leads.proper hw name hname).separated)
      fun name hname => (hq.leads.proper hw name hname).separated
  rw [hpathp, hpathq, Except.ok.injEq, hbelow, hp.leads.locate_eq_iff hq.leads]

end Command

namespace Sample

/-- A module with a directory in a directory, and the way out of it. -/
def emporium : Workspace where
  tree :=
    .directory
      [("shop", .directory
        [("go.mod", .file "module example.com/shop\n"),
          ("hall", .directory [("desk", .directory [])])])]
  current := ⟨["shop"]⟩

theorem find_emporium : emporium.eval (Module.find ".") = .ok shopModule := by
  decide +kernel

theorem namesDirectory_emporium :
    Command.NamesDirectory emporium shopModule "hall/desk" ["hall", "desk"] ∧
    Command.NamesDirectory emporium shopModule " \"./hall//desk/../desk/\" " ["hall", "desk"] ∧
    Command.NamesDirectory emporium shopModule "../shop/hall/desk/.." ["hall"] := by
  refine ⟨⟨?_, ⟨["shop"]⟩, ?_, ?_⟩, ⟨?_, ⟨["shop"]⟩, ?_, ?_⟩, ⟨?_, ⟨["shop"]⟩, ?_, ?_⟩⟩ <;>
    decide +kernel

theorem importPath_emporium : emporium.Grounded ∧
    emporium.eval (Module.find ".") = .ok shopModule ∧
    emporium.eval (Command.importPath shopModule "hall/desk") =
      .ok "example.com/shop/hall/desk" ∧
    emporium.eval (Command.importPath shopModule "hall/desk") =
      emporium.eval (Command.importPath shopModule " \"./hall//desk/../desk/\" ") ∧
    emporium.eval (Command.importPath shopModule "hall/desk") ≠
      emporium.eval (Command.importPath shopModule "../shop/hall/desk/..") := by
  have hgrounded : emporium.locate emporium.current.path = .ok emporium.current := by
    decide +kernel
  obtain ⟨hdesk, hspelled, hhall⟩ := namesDirectory_emporium
  obtain ⟨hpath, -, hsame⟩ :=
    Command.importPath_eq_iff_locate_eq hgrounded find_emporium hdesk hspelled
  obtain ⟨-, -, hother⟩ :=
    Command.importPath_eq_iff_locate_eq hgrounded find_emporium hdesk hhall
  refine ⟨hgrounded, find_emporium, ?_, hsame.mpr ?_, mt hother.mp ?_⟩
  · rw [hpath]
    decide +kernel
  · decide +kernel
  · decide +kernel

end Sample

end Wiring
