import Wiring.Text.Split

/-!
Paths as texts. A path keeps the text it was written with; what it names is read off its components,
in which repeated separators and inner dots do not count.
-/

namespace Wiring.Path

inductive Component where
  | root
  /-- A dot at the start. -/
  | here
  | parent
  | name (text : String)
deriving DecidableEq, Repr

namespace Component

def rank : Component → Nat
  | root => 0
  | here => 1
  | parent => 2
  | .name _ => 3

def text : Component → String
  | root => "/"
  | here => "."
  | parent => ".."
  | .name text => text

instance : Ord Component where
  compare a b := (compare a.rank b.rank).then (compare a.text b.text)

end Component

def segments (path : String) : List String :=
  (path.toList.splitOn '/').map String.ofList

def isAbsolute (path : String) : Bool :=
  path.startsWith "/"

/-- The component of a segment. Nothing and a dot do not lead anywhere. -/
def component? (segment : String) : Option Component :=
  if segment = "" ∨ segment = "." then none
  else if segment = ".." then some .parent
  else some (.name segment)

def components (path : String) : List Component :=
  let parts := segments path
  let start : List Component :=
    if isAbsolute path then [.root] else if parts.head? = some "." then [.here] else []
  start ++ parts.filterMap component?

/-- A path followed from another one. An absolute path stands alone. -/
def join (base path : String) : String :=
  if isAbsolute path || base = "" then path
  else if base.endsWith "/" then base ++ path
  else base ++ "/" ++ path

/-- Paths are ordered by their components. -/
def le (a b : String) : Bool :=
  (compare (components a) (components b)).isLE

def fileName? (path : String) : Option String :=
  match (components path).getLast? with
  | some (.name name) => some name
  | _ => none

/-- What stands after the last dot of the last name, unless the dot comes first. -/
def extension? (path : String) : Option String := do
  let name ← fileName? path
  match Text.breakLast '.' name.toList with
  | some (_ :: _, extension) => some (String.ofList extension)
  | _ => none

end Wiring.Path
