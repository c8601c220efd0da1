import Wiring.Files.Tree
import Wiring.Proofs.Failure

/-!
Programs that run on a file system which is given as a value: what they come to, and which files
they read on the way.
-/

namespace Wiring

namespace Workspace

variable {ε ε' α β : Type} {w : Workspace}

/-- What a program comes to. -/
def eval (w : Workspace) (program : ExceptT ε WorkspaceM α) : Except ε α :=
  program.run.run w

theorem eval_pure (w : Workspace) (a : α) :
    w.eval (pure a : ExceptT ε WorkspaceM α) = .ok a :=
  rfl

theorem eval_mk (w : Workspace) (answer : WorkspaceM (Except ε α)) :
    w.eval (ExceptT.mk answer) = answer.run w :=
  rfl

theorem eval_bind (w : Workspace) (program : ExceptT ε WorkspaceM α)
    (next : α → ExceptT ε WorkspaceM β) :
    w.eval (program >>= next) = w.eval program >>= fun a => w.eval (next a) := by
  rw [eval, ExceptT.run_bind, ReaderT.run_bind, eval]
  cases program.run.run w <;> rfl

theorem eval_adapt (w : Workspace) (f : ε → ε') (program : ExceptT ε WorkspaceM α) :
    w.eval (program.adapt f) = (w.eval program).mapError f :=
  rfl

theorem eval_isDirectory (w : Workspace) (path : String) :
    w.eval (liftM (FileSystem.isDirectory path : WorkspaceM Bool) : ExceptT ε WorkspaceM Bool) =
      .ok (w.isDirectory path) :=
  rfl

theorem eval_locate (w : Workspace) (path : String) :
    w.eval (ExceptT.mk (FileSystem.locate path : WorkspaceM (Except FileError Location))) =
      w.locate path :=
  rfl

theorem eval_mapM (w : Workspace) (f : α → ExceptT ε WorkspaceM β) (items : List α) :
    w.eval (items.mapM f) = items.mapM fun item => w.eval (f item) := by
  induction items with
  | nil => rfl
  | cons item items ih =>
      simp only [List.mapM_cons, eval_bind, eval_pure, ih]
      rfl

end Workspace

/-- Computations that note the paths they read. -/
abbrev TracedM := StateT (List String) WorkspaceM

instance : FileSystem TracedM where
  locate path := liftM (FileSystem.locate path : WorkspaceM _)
  isFile path := liftM (FileSystem.isFile path : WorkspaceM _)
  isDirectory path := liftM (FileSystem.isDirectory path : WorkspaceM _)
  read path := do
    modify (· ++ [path])
    (FileSystem.read path : WorkspaceM _)
  filesBelow path := liftM (FileSystem.filesBelow path : WorkspaceM _)

namespace Workspace

variable {ε ε' α β : Type} {w : Workspace} {a : α} {b : β} {files more : List String}

/-- A program succeeds, and it reads certain files in order. -/
def Reads (w : Workspace) (program : ExceptT ε TracedM α) (files : List String) (a : α) : Prop :=
  ∀ before, (program.run.run before).run w = (.ok a, before ++ files)

theorem reads_pure (w : Workspace) (a : α) : w.Reads (pure a : ExceptT ε TracedM α) [] a := by
  intro before
  rw [List.append_nil]
  rfl

theorem Reads.bind {program : ExceptT ε TracedM α} {next : α → ExceptT ε TracedM β}
    (h : w.Reads program files a) (h' : w.Reads (next a) more b) :
    w.Reads (program >>= next) (files ++ more) b := by
  intro before
  rw [ExceptT.run_bind, StateT.run_bind, ReaderT.run_bind, h before, ← List.append_assoc]
  exact h' (before ++ files)

/-- Steps that read nothing. -/
theorem reads_mapM {f : α → ExceptT ε TracedM β} {items : List α} {made : List β}
    (h : List.Forall₂ (fun item b => w.Reads (f item) [] b) items made) :
    w.Reads (items.mapM f) [] made := by
  induction h with
  | nil => exact reads_pure w []
  | cons hfirst _ ih =>
      rw [List.mapM_cons]
      exact hfirst.bind (ih.bind (reads_pure w _))

theorem Reads.adapt {program : ExceptT ε TracedM α} (h : w.Reads program files a) (f : ε → ε') :
    w.Reads (program.adapt f) files a := by
  intro before
  change (((Except.mapError f <$> program.run).run before).run w) = _
  rw [StateT.run_map, ReaderT.run_map, h before]
  rfl

theorem reads_locate {path : String} {location : Location} (h : w.locate path = .ok location) :
    w.Reads (ExceptT.mk (FileSystem.locate path)) [] location := by
  intro before
  rw [List.append_nil]
  change (w.locate path, before) = _
  rw [h]

theorem reads_read {path content : String} (h : w.read path = .ok content) :
    w.Reads (ExceptT.mk (FileSystem.read path)) [path] content := by
  intro before
  change (w.read path, before ++ [path]) = _
  rw [h]

end Workspace

end Wiring
