import Wiring.Document.Basic
import Wiring.Files.System

/-!
The configuration file of a module. Every section and every entry may be left out, and unknown ones
are ignored.
-/

namespace Wiring

structure Config where
  /-- Index files, relative to the module's directory. -/
  indexPaths : List String
  /-- Index files are searched for in the module. -/
  discover : Bool
  hoist : Bool
deriving DecidableEq, Repr

inductive ConfigError where
  | unreadable (file : String) (e : FileError)
  | malformed (file : String)
deriving DecidableEq, Repr

namespace ConfigError

def texts : ConfigError → List String
  | unreadable file e => ["Failed to read config file: " ++ file, e.message]
  | malformed file => ["Failed to parse config file: " ++ file]

end ConfigError

namespace Source

/-- A truth value that may be left out. -/
def boolOr? (source : Source) (default : Bool) : Option Document → Option Bool
  | none => some default
  | some document => source.bool? document

/-- The fields of a section that may be left out. -/
def section? (source : Source) (keys : List String) : Option Document →
    Option (List (Option Document))
  | none => some (keys.map fun _ => none)
  | some document => source.record? keys document

def config? (source : Source) (document : Document) : Option Config := do
  let [index, generate] ← source.record? ["index", "generate"] document | none
  let [paths, discover] ← source.section? ["paths", "discover"] index | none
  let [hoist] ← source.section? ["hoist"] generate | none
  let indexPaths ← match paths with
    | none => some []
    | some paths => source.list? source.text? paths
  some ⟨indexPaths, ← source.boolOr? true discover, ← source.boolOr? false hoist⟩

end Source

namespace Config

def fileName : String :=
  "weld.toml"

/-- The configuration in effect without a file. -/
def default : Config :=
  ⟨[], true, false⟩

variable [Readers]

def ofText? (text : String) : Option Config := do
  let (source, document) ← Readers.toml? text
  source.config? document

variable {m : Type → Type} [Monad m] [FileSystem m]

def ofFile (file : String) : ExceptT ConfigError m Config := do
  let content ← (ExceptT.mk (FileSystem.read file)).adapt (ConfigError.unreadable file)
  match ofText? content with
  | some config => pure config
  | none => throw (.malformed file)

def load (directory : String) : ExceptT ConfigError m Config := do
  let file := Path.join directory fileName
  if ← (FileSystem.isFile file : m Bool) then ofFile file else pure default

end Config

end Wiring
