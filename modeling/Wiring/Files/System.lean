import Wiring.Files.Path

/-!
What is asked of a file system. Programs are written against these questions, so that they can be run
on real files as well as on a directory tree that is given as a value.
-/

namespace Wiring

inductive FileError where
  | notFound
  | notDirectory
  | isDirectory
  /-- The path holds a character that no path can hold. -/
  | invalidPath
  /-- The bytes of the file are no text. -/
  | notText
  | other (text : String)
deriving DecidableEq, Repr

namespace FileError

def message : FileError → String
  | notFound => "No such file or directory (os error 2)"
  | notDirectory => "Not a directory (os error 20)"
  | isDirectory => "Is a directory (os error 21)"
  | invalidPath => "file name contained an unexpected NUL byte"
  | notText => "stream did not contain valid UTF-8"
  | other text => text

end FileError

/-- A place in a file system: the names on the way down from the root. -/
structure Location where
  names : List String
deriving DecidableEq, Repr

namespace Location

def path (location : Location) : String :=
  "/" ++ "/".intercalate location.names

/-- The place itself, then the directories it is in, innermost first. -/
def ancestors (location : Location) : List Location :=
  (List.range (location.names.length + 1)).reverse.map fun count => ⟨location.names.take count⟩

end Location

class FileSystem (m : Type → Type) where
  /-- The place that a path leads to. -/
  locate : String → m (Except FileError Location)
  isFile : String → m Bool
  isDirectory : String → m Bool
  read : String → m (Except FileError String)
  /-- The path itself if it is a file, and all files below it if it is a directory. -/
  filesBelow : String → m (List String)

end Wiring
