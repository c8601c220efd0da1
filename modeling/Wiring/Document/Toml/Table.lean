import Wiring.Document.Basic

/-!
TOML tables while they are put together. A table may be opened by a header, be implied by the header
of a table within it, or be implied by a dotted key; how it came to be decides what may still be
added to it. No key is given twice.
-/

namespace Wiring.Toml

/-- How a table came to be. -/
inductive Origin where
  /-- It has a header, is the whole file, or is written in braces. -/
  | explicit
  /-- The header of a table within it names it. -/
  | header
  /-- A dotted key names it. -/
  | dotted
deriving DecidableEq

inductive Entry where
  | value (document : Document)
  | table (origin : Origin) (entries : List (String × Entry))
  /-- A list of tables, latest first; each header opens one more. -/
  | tables (items : List (List (String × Entry)))
deriving Inhabited

abbrev Entries := List (String × Entry)

namespace Entries

def put (key : String) (entry : Entry) : Entries → Entries
  | [] => [(key, entry)]
  | (k, e) :: rest => if k = key then (k, entry) :: rest else (k, e) :: put key entry rest

/-- Changes the table at the end of a path. Tables on the way that are not there yet are made. A
dotted key may not pass through a table that has a header. -/
def descend? (dotted : Bool) (change : Origin → Entries → Option Entries) :
    (path : List String) → Origin → Entries → Option Entries
  | [], origin, entries => change origin entries
  | key :: path, _, entries => do
    let entry ← match entries.lookup key with
      | none =>
        let origin := if dotted then Origin.dotted else Origin.header
        Entry.table origin <$> descend? dotted change path origin []
      | some (.table origin inner) =>
        if dotted && origin = .explicit then none
        else Entry.table origin <$> descend? dotted change path origin inner
      | some (.tables (last :: earlier)) => do
        let last ← descend? dotted change path .explicit last
        some (Entry.tables (last :: earlier))
      | some (.tables []) | some (.value _) => none
    some (put key entry entries)

def addValue? (path : List String) (key : String) (value : Document) (entries : Entries) :
    Option Entries :=
  descend? true (fun origin inner =>
    if (origin == .dotted) == path.isEmpty || (inner.lookup key).isSome then none
    else some (put key (.value value) inner)) path .explicit entries

/-- Opens the table of a header. A table that was only implied by headers may get its own. -/
def openTable? (path : List String) (key : String) (entries : Entries) : Option Entries :=
  descend? false (fun _ inner =>
    match inner.lookup key with
    | none => some (put key (.table .explicit []) inner)
    | some (.table .header old) => some (put key (.table .explicit old) inner)
    | _ => none) path .explicit entries

/-- Opens one more table of the list that a header names. -/
def openItem? (path : List String) (key : String) (entries : Entries) : Option Entries :=
  descend? false (fun _ inner =>
    match inner.lookup key with
    | none => some (put key (.tables [[]]) inner)
    | some (.tables items) => some (put key (.tables ([] :: items)) inner)
    | _ => none) path .explicit entries

/-- Adds a value to the table that the latest header has opened. -/
def addWithin? (header path : List String) (key : String) (value : Document) (entries : Entries) :
    Option Entries :=
  descend? false (fun _ inner => addValue? path key value inner) header .explicit entries

end Entries

mutual

def Entry.toDocument : Entry → Document
  | .value document => document
  | .table _ entries => .record (entriesToFields entries)
  | .tables items => .list (itemsToList items).reverse

def entriesToFields : List (String × Entry) → List (Document × Document)
  | [] => []
  | (key, entry) :: rest => (.text key, entry.toDocument) :: entriesToFields rest

def itemsToList : List (List (String × Entry)) → List Document
  | [] => []
  | item :: rest => .record (entriesToFields item) :: itemsToList rest

end

end Wiring.Toml
