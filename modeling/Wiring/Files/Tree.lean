import Wiring.Files.System

/-!
Directory trees as values. A path is followed segment by segment; every segment, even an empty one,
needs a directory to start from.
-/

namespace Wiring

inductive Tree where
  | file (content : String)
  /-- A file whose bytes are no text. -/
  | binary
  | directory (entries : List (String × Tree))
deriving Inhabited

namespace Tree

def find? : List String → Tree → Option Tree
  | [], tree => some tree
  | name :: names, directory entries =>
    match entries.lookup name with
    | some tree => find? names tree
    | none => none
  | _ :: _, file _ | _ :: _, binary => none

/-- The same entries, except for what stands under one name. -/
def put (name : String) (tree : Tree) : List (String × Tree) → List (String × Tree)
  | [] => [(name, tree)]
  | (n, t) :: rest => if n = name then (n, tree) :: rest else (n, t) :: put name tree rest

/-- Puts a tree at a place. Directories on the way are made where there is nothing. -/
def insert (new : Tree) : List String → Tree → Tree
  | [], _ => new
  | name :: names, directory entries =>
    directory (put name (insert new names ((entries.lookup name).getD (directory []))) entries)
  | name :: names, file _ | name :: names, binary =>
    directory [(name, insert new names (directory []))]

mutual

/-- The paths of all files of a tree that stands at a path. -/
def files (path : String) : Tree → List String
  | file _ | binary => [path]
  | directory entries => filesOf path entries

def filesOf (path : String) : List (String × Tree) → List String
  | [] => []
  | (name, tree) :: rest => files (Path.join path name) tree ++ filesOf path rest

end

end Tree

/-- A file system as a value: everything in it, and the directory that relative paths start from. -/
structure Workspace where
  tree : Tree
  current : Location

namespace Workspace

/-- Follows segments from a place. -/
def follow (tree : Tree) : (segments place : List String) → Except FileError Location
  | [], place => .ok ⟨place⟩
  | segment :: segments, place =>
    match tree.find? place with
    | none => .error .notFound
    | some (.file _) | some .binary => .error .notDirectory
    | some (.directory entries) =>
      if segment = "" ∨ segment = "." then follow tree segments place
      else if segment = ".." then follow tree segments place.dropLast
      else if (entries.lookup segment).isSome then follow tree segments (place ++ [segment])
      else .error .notFound

/-- The place that a path leads to. An empty path leads nowhere. -/
def locate (w : Workspace) (path : String) : Except FileError Location :=
  if path = "" then .error .notFound
  else if path.toList.contains '\x00' then .error .invalidPath
  else follow w.tree (Path.segments path) (if Path.isAbsolute path then [] else w.current.names)

def get (w : Workspace) (path : String) : Except FileError Tree := do
  let location ← w.locate path
  match w.tree.find? location.names with
  | some tree => .ok tree
  | none => .error .notFound

def isFile (w : Workspace) (path : String) : Bool :=
  match w.get path with
  | .ok (.file _) | .ok .binary => true
  | _ => false

def isDirectory (w : Workspace) (path : String) : Bool :=
  match w.get path with
  | .ok (.directory _) => true
  | _ => false

def read (w : Workspace) (path : String) : Except FileError String :=
  match w.get path with
  | .ok (.file content) => .ok content
  | .ok .binary => .error .notText
  | .ok (.directory _) => .error .isDirectory
  | .error e => .error e

def filesBelow (w : Workspace) (path : String) : List String :=
  match w.get path with
  | .ok tree => tree.files path
  | .error _ => []

/-- Writes a file in a directory that is there. The path must end with a name; slashes after it are
right for directories only. -/
def write (w : Workspace) (path content : String) : Except FileError Workspace :=
  match (Path.segments path).reverse.dropWhile (· = "") with
  | [] => .error (if path = "" then .notFound else .isDirectory)
  | name :: above => do
    let place ←
      if path.toList.contains '\x00' then .error .invalidPath
      else follow w.tree above.reverse (if Path.isAbsolute path then [] else w.current.names)
    match w.tree.find? place.names with
    | none => .error .notFound
    | some (.file _) | some .binary => .error .notDirectory
    | some (.directory entries) =>
      match Path.component? name, entries.lookup name with
      | some (.name _), some (.directory _) => .error .isDirectory
      | some (.name _), _ =>
        if path.endsWith "/" then .error .isDirectory
        else .ok { w with tree := Tree.insert (.file content) (place.names ++ [name]) w.tree }
      | _, _ => .error .isDirectory

end Workspace

/-- A computation that reads a given file system. -/
abbrev WorkspaceM := ReaderM Workspace

instance : FileSystem WorkspaceM where
  locate path w := w.locate path
  isFile path w := w.isFile path
  isDirectory path w := w.isDirectory path
  read path w := w.read path
  filesBelow path w := w.filesBelow path

end Wiring
