import Wiring.Files.System
import Wiring.Format

/-!
Package indexes in files. The name of a file tells its format; files with certain names are found
without being listed.
-/

namespace Wiring

namespace Format

/-- The format of a file by its extension. -/
def ofPath? (path : String) : Option Format :=
  match Path.extension? path with
  | some "json" => some .json
  | some "yaml" | some "yml" => some .yaml
  | _ => none

end Format

inductive IndexError where
  | unreadable (e : FileError)
  | malformed (format : Format)
  /-- The name of a file does not tell its format. -/
  | unknownFormat (file : String)
  /-- A package has a blank import path. -/
  | blankImport (file : String) (package : Option String)
  /-- Two packages have the same import path. -/
  | repeated (importPath : String)
deriving DecidableEq, Repr

namespace IndexError

def invalid (file cause : String) : String :=
  "Invalid package index " ++ Text.quoted file ++ ": " ++ cause

def texts : IndexError → List String
  | unreadable e => ["IO error: " ++ e.message, e.message]
  | malformed .json => ["JSON error: no package index"]
  | malformed .yaml => ["YAML error: no package index"]
  | unknownFormat file => [invalid file "expected a .json, .yaml or .yml file"]
  | blankImport file package =>
    [invalid file ("package " ++ Text.quotedOption package ++ " has an empty import path")]
  | repeated importPath => ["Package " ++ Text.quoted importPath ++ " is declared more than once"]

end IndexError

namespace PackageIndex

/-- The endings of the names of files that are found without being listed. -/
def suffixes : List String :=
  [".weld.yaml", ".weld.yml", ".weld.json"]

def isIndexFile (path : String) : Bool :=
  let name := (Path.fileName? path).getD path
  suffixes.any fun suffix => name.endsWith suffix

/-- An index in which every package has an import path that is not blank. -/
def checked (file : String) (index : PackageIndex) : Except IndexError PackageIndex :=
  match index.packages.find? fun package => Text.trim package.importPath == "" with
  | some package => .error (.blankImport file package.name)
  | none => .ok index

/-- The registry of an index, in which no import path is declared twice. -/
def registry (index : PackageIndex) : Except IndexError Registry :=
  index.toRegistry.mapError IndexError.repeated

variable {m : Type → Type} [Monad m] [FileSystem m]

/-- The index files in a directory and below, in the order of their paths. -/
def discover (directory : String) : m (List String) := do
  let files ← FileSystem.filesBelow directory
  pure ((files.filter isIndexFile).mergeSort Path.le)

variable [Readers]

def ofFile (file : String) : ExceptT IndexError m PackageIndex := do
  let some format := Format.ofPath? file | throw (.unknownFormat file)
  let content ← (ExceptT.mk (FileSystem.read file)).adapt IndexError.unreadable
  let some index := format.packageIndex? content | throw (.malformed format)
  ExceptT.mk (pure (index.checked file))

/-- The packages of several files in one index. -/
def ofFiles : List String → ExceptT IndexError m PackageIndex
  | [] => pure ∅
  | file :: files => do
    let index ← ofFile file
    pure (index.merge (← ofFiles files))

end PackageIndex

end Wiring
