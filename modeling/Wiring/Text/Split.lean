import Wiring.Text.Class

/-!
Cutting text into pieces. The functions work on lists of characters; none of them adds or changes
a character.
-/

namespace Wiring.Text

/-- Drops the characters of a class at both ends. -/
def trimWith (p : Char → Bool) (cs : List Char) : List Char :=
  ((cs.dropWhile p).reverse.dropWhile p).reverse

def trimBlank (cs : List Char) : List Char :=
  trimWith isBlank cs

def trimQuotes (cs : List Char) : List Char :=
  trimWith (· == '"') cs

/-- What stands before and after the first occurrence of a separator. -/
def breakFirst (sep : Char) : List Char → Option (List Char × List Char)
  | [] => none
  | c :: cs =>
    if c = sep then
      some ([], cs)
    else
      (breakFirst sep cs).map fun (before, after) => (c :: before, after)

/-- What stands before and after the last occurrence of a separator. -/
def breakLast (sep : Char) : List Char → Option (List Char × List Char)
  | [] => none
  | c :: cs =>
    match breakLast sep cs with
    | some (before, after) => some (c :: before, after)
    | none => if c = sep then some ([], cs) else none

/-- The rest after a required start. -/
def dropStart {α : Type} [BEq α] (start items : List α) : Option (List α) :=
  if start.isPrefixOf items then some (items.drop start.length) else none

def trim (text : String) : String :=
  String.ofList (trimBlank text.toList)

def unquote (text : String) : String :=
  String.ofList (trimQuotes text.toList)

/-- A carriage return at the end of a line belongs to the line feed that follows it. -/
def dropReturn (line : List Char) : List Char :=
  if line.getLast? = some '\r' then line.dropLast else line

/-- The lines of a text: what stands before each line feed, and what stands after the last one
unless that is nothing. -/
def lines (text : String) : List String :=
  let pieces := text.toList.splitOn '\n'
  let ended := pieces.dropLast.map dropReturn
  let rest := pieces.getLast?.toList.filter (· ≠ [])
  (ended ++ rest).map String.ofList

end Wiring.Text
