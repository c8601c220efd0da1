import Wiring.TypeRef

/-!
Names for Go identifiers that no declaration gives: the name of a package from its import path, the
name of a variable from its type, and a numbered variant of a name that is taken.
-/

namespace Wiring.Naming

def keywords : List String := [
  "break", "case", "chan", "const", "continue", "default", "defer", "else", "fallthrough", "for",
  "func", "go", "goto", "if", "import", "interface", "map", "package", "range", "return", "select",
  "struct", "switch", "type", "var"]

def isKeyword (name : String) : Bool :=
  keywords.contains name

/-- A letter `v` followed by ASCII digits, as in `v2`. -/
def isMajorVersion : List Char → Bool
  | 'v' :: digits => !digits.isEmpty && digits.all Char.isDigit
  | _ => false

/-- Drops what cannot stand in an identifier, puts an underscore before a leading number and one
after a keyword. Nothing at all becomes `pkg`. -/
def sanitize (name : List Char) : String :=
  match name.filter fun c => Text.isAlphanumeric c || c == '_' with
  | [] => "pkg"
  | first :: rest =>
    let kept := String.ofList (if Text.isNumeric first then '_' :: first :: rest else first :: rest)
    if isKeyword kept then kept ++ "_" else kept

/-- The last segment of an import path; a major version gives way to the segment before it. -/
def lastSegment (importPath : List Char) : List Char :=
  match ((Text.trimQuotes importPath).splitOn '/').filter (· ≠ []) |>.reverse with
  | [] => []
  | [only] => only
  | last :: previous :: _ => if isMajorVersion last then previous else last

/-- The name of a package that declares none. -/
def packageName (importPath : String) : String :=
  sanitize (lastSegment importPath.toList)

def camelCase (name : String) : String :=
  match name.toList with
  | [] => ""
  | first :: rest => String.ofList (Text.lowercase first ++ rest)

/-- The name of a variable that holds a value of `typeName` from package `package`. A builtin type,
which has no package, gets a suffix so that its own name is not hidden. -/
def variableName (package typeName : String) : String :=
  if package = "" then
    camelCase typeName ++ "Value"
  else
    let name := camelCase package ++ typeName
    if isKeyword name then name ++ "_" else name

/-- The name `base` with a number: `base`, `base2`, `base3` and so on, counted from zero. -/
def candidate (base : String) (i : Nat) : String :=
  if i = 0 then base else base ++ toString (i + 1)

/-- Looks at a name and, as long as names are taken, at the base with the next number, one a round.
The counter of the numbers has 32 bits: there is no name once it runs over. -/
def search? (base : String) (taken : List String) : Nat → String → Int32 → Option String
  | 0, _, _ => none
  | rounds + 1, name, number =>
    if !taken.contains name then some name
    else if number = Int32.maxValue then none
    else search? base taken rounds (base ++ toString number) (number + 1)

/-- The first candidate that is not taken, however large its number is. One candidate more than there
are taken names is enough. -/
def firstCandidate (base : String) (taken : List String) : String :=
  candidate base <|
    ((List.range (taken.length + 1)).find? fun i => !taken.contains (candidate base i)).getD 0

/-- The first of `base`, `base2`, `base3` and so on that is not taken. Only if more names are taken
than the counter of the search has numbers, the name is found without it. -/
def firstFree (base : String) (taken : List String) : String :=
  (search? base taken (taken.length + 1) base 2).getD (firstCandidate base taken)

end Wiring.Naming
