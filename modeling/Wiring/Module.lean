import Wiring.Files.System
import Wiring.Text.Quoted

/-!
Go modules. A module is a directory with a `go.mod` file, which declares the import path of the
directory; directories within it are imported by that path and the names that lead to them.
-/

namespace Wiring

structure Module where
  directory : String
  path : String
deriving DecidableEq, Repr

inductive ModuleError where
  | unreadable (e : FileError)
  /-- Neither the directory nor any directory above it is a module. -/
  | notFound (start : String)
  /-- A `go.mod` file declares no import path. -/
  | undeclared (file : String)
  | outside (directory module : String)
  /-- A path leads out of a directory on its way. -/
  | escapes (directory : String)
deriving DecidableEq, Repr

namespace ModuleError

def texts : ModuleError → List String
  | unreadable e => ["IO error: " ++ e.message, e.message]
  | notFound start =>
    ["No go.mod found in " ++ Text.quoted start ++ " or any parent directory"]
  | undeclared file => ["Invalid go.mod " ++ Text.quoted file ++ ": missing module directive"]
  | outside directory module =>
    ["Unable to resolve import for " ++ Text.quoted directory ++ ": not inside module " ++ module]
  | escapes directory =>
    ["Unable to resolve import for " ++ Text.quoted directory ++ ": path escapes the module"]

end ModuleError

namespace Module

/-- What stands before a comment. -/
def dropComment : List Char → List Char
  | '/' :: '/' :: _ => []
  | c :: cs => c :: dropComment cs
  | [] => []

/-- The import path that a line declares: the directive, white space, and a path that is not
empty. -/
def declaredIn? (line : String) : Option String := do
  let rest ← Text.dropStart "module".toList (Text.trimBlank (dropComment line.toList))
  let path := Text.trimQuotes (Text.trimBlank rest)
  if (rest.head?.any Text.isBlank) && path ≠ [] then some (String.ofList path) else none

/-- The import path that a `go.mod` file declares first. -/
def declaredPath? (content : String) : Option String :=
  (Text.lines content).findSome? declaredIn?

/-- The path of a directory of the module by its relative path. -/
def directoryOf (module : Module) (relative : String) : String :=
  (Path.segments relative).filter (fun segment => segment ≠ "" ∧ segment ≠ ".")
    |>.foldl Path.join module.directory

/-- The import path of the names that lead down from the module's directory. -/
def importOf (module : Module) (directory : String) :
    List Path.Component → String → Except ModuleError String
  | [], path => .ok path
  | .name name :: rest, path => importOf module directory rest (path ++ "/" ++ name)
  | .here :: rest, path => importOf module directory rest path
  | _, _ => .error (.escapes directory)

def importPath (module : Module) (directory : String) : Except ModuleError String :=
  match Text.dropStart (Path.components module.directory) (Path.components directory) with
  | none => .error (.outside directory module.path)
  | some rest => importOf module directory rest module.path

variable {m : Type → Type} [Monad m] [FileSystem m]

/-- The module of the first directory that has a `go.mod` file. -/
def search (start : String) : List Location → ExceptT ModuleError m Module
  | [] => throw (.notFound start)
  | place :: places => do
    let file := Path.join place.path "go.mod"
    if ← (FileSystem.isFile file : m Bool) then
      let content ← (ExceptT.mk (FileSystem.read file)).adapt ModuleError.unreadable
      match declaredPath? content with
      | some path => pure ⟨place.path, path⟩
      | none => throw (.undeclared file)
    else
      search start places

def find (start : String) : ExceptT ModuleError m Module := do
  let location ← (ExceptT.mk (FileSystem.locate start)).adapt ModuleError.unreadable
  search location.path location.ancestors

end Module

end Wiring
