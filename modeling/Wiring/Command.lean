import Wiring.Config
import Wiring.Generation
import Wiring.Graph.Dot
import Wiring.Graph.Tree
import Wiring.IndexFiles
import Wiring.Module
import Wiring.Resolution.Load

/-!
The command that generates a function. Its references may name directories of the module it runs in
instead of import paths; the declarations it resolves them against come from the index files that are
listed, configured and discovered.
-/

namespace Wiring

structure Command where
  name : String
  target : String
  map : List (String × String)
  /-- The values the function returns, in order. -/
  dependencies : List String
  /-- The values the function accepts, in order. -/
  externals : List String
  hoist : Bool
  /-- The graph is shown as a tree as well. -/
  verbose : Bool
  /-- The graph is the output, not the function. -/
  dot : Bool
  index : List String
  directory : String
deriving DecidableEq, Repr, Inhabited

inductive CommandError where
  | module (start : String) (e : ModuleError)
  | config (e : ConfigError)
  /-- A directory that a path names is gone. -/
  | directory (directory : String) (e : FileError)
  | importPath (e : ModuleError)
  | reference (e : ReferenceError)
  | substitution (e : AliasError)
  | indexFile (file : String) (e : FileError)
  | index (e : IndexError)
  | registry (e : IndexError)
  | resolution (function : String) (e : ResolveError)
  | generation (function : String) (e : GenerationError)
deriving DecidableEq, Repr

namespace CommandError

def texts : CommandError → List String
  | module start e => ("Failed to find a Go module from " ++ start) :: e.texts
  | config e => e.texts
  | directory path e => ["Failed to resolve directory " ++ path, e.message]
  | importPath e => e.texts
  | reference e => [e.message]
  | substitution e => [e.message]
  | indexFile file e => ["Failed to read package index " ++ file, e.message]
  | index e => "Failed to load package indexes" :: e.texts
  | registry e => e.texts
  | resolution function e => ["Failed to resolve " ++ function, e.message]
  | generation function e => ["Failed to generate " ++ function, e.message]

end CommandError

structure Generated where
  artifact : Artifact
  /-- The graph as a tree, if it was asked for. -/
  tree : Option String
  dot : Option String

namespace Generated

def output (generated : Generated) : String :=
  generated.dot.getD generated.artifact.file

end Generated

namespace Command

/-- The star, the import part and the name of a reference; none if there is no dot between two parts
or the import part is blank. -/
def splitReference? (text : String) : Option (Bool × String × String) := do
  let (star, rest) := TypeRef.splitStar (Text.trimBlank text.toList)
  let (before, name) ← Text.breakLast '.' rest
  if Text.trimQuotes (Text.trimBlank before) = [] then none
  else some (star, String.ofList before, String.ofList name)

variable {m : Type → Type} [Monad m] [FileSystem m]

/-- The import path that a text stands for: that of a directory of the module if it names one, else
the text itself. -/
def importPath (module : Module) (text : String) : ExceptT CommandError m String := do
  let path := Text.unquote (Text.trim text)
  let directory := module.directoryOf path
  if ← (FileSystem.isDirectory directory : m Bool) then
    let location ←
      (ExceptT.mk (FileSystem.locate directory)).adapt (CommandError.directory directory)
    ExceptT.mk (pure ((module.importPath location.path).mapError CommandError.importPath))
  else
    pure path

def reference (module : Module) (text : String) : ExceptT CommandError m TypeRef := do
  let some (star, importPart, name) := splitReference? text
    | throw (.reference (.malformed text))
  let path ← importPath module importPart
  match TypeRef.parseQualified ("\"" ++ path ++ "\"." ++ name) with
  | .ok t => pure (if star then t.withPointer true else t)
  | .error e => throw (.reference e)

def addSubstitution (module : Module) (request : Request) (pair : String × String) :
    ExceptT CommandError m Request := do
  let source ← reference module pair.1
  let target ← reference module pair.2
  ExceptT.mk (pure ((request.addAlias source target).mapError CommandError.substitution))

/-- The function to generate. A function that returns anything returns an error as well. -/
def request (command : Command) (module : Module) (config : Config) :
    ExceptT CommandError m Request := do
  let target ← importPath module command.target
  let made ← command.map.foldlM (addSubstitution module)
    (.init command.name target (command.hoist || config.hoist))
  let params ← command.externals.mapM (reference module)
  let results ← command.dependencies.mapM (reference module)
  let failure := if command.dependencies.isEmpty then [] else [.error]
  pure { made with params := params.map .param, results := results.map .ofType ++ failure }

def locateIndex (file : String) : ExceptT CommandError m String := do
  let location ← (ExceptT.mk (FileSystem.locate file)).adapt (CommandError.indexFile file)
  pure location.path

/-- The index files of the command, of the configuration and of the module, each of them once. -/
def indexFiles (command : Command) (module : Module) (config : Config) :
    ExceptT CommandError m (List String) := do
  let configured := config.indexPaths.map (Path.join module.directory)
  let discovered ←
    if config.discover then (PackageIndex.discover module.directory : m (List String))
    else pure []
  let files ← (command.index ++ configured ++ discovered).mapM locateIndex
  pure files.eraseDups

variable [Readers]

def registry (command : Command) (module : Module) (config : Config) :
    ExceptT CommandError m Registry := do
  let files ← command.indexFiles module config
  let index ← (PackageIndex.ofFiles files).adapt CommandError.index
  ExceptT.mk (pure (index.registry.mapError CommandError.registry))

def run (command : Command) : ExceptT CommandError m Generated := do
  let module ← (Module.find command.directory).adapt (CommandError.module command.directory)
  let config ← (Config.load module.directory).adapt CommandError.config
  let request ← command.request module config
  let registry ← command.registry module config
  let graph ← ExceptT.mk
    (pure ((registry.load request).mapError (CommandError.resolution request.name)))
  let artifact ← ExceptT.mk
    (pure ((registry.catalog.generate graph).mapError (CommandError.generation request.name)))
  pure
    { artifact
      tree := if command.verbose then some graph.print else none
      dot := if command.dot then some graph.dot else none }

end Command

end Wiring
