/-!
Documents: the trees that data files are read into, before anything is known about what they
should hold. Records keep every field they were written with, in order; whether a repeated or an
unknown field matters is for the reader of the record to say.
-/

namespace Wiring

inductive Document where
  | null
  | bool (value : Bool)
  /-- A number, whose value nothing asks for. -/
  | number
  /-- A text. A plain one was written without quotes and may stand for something else. -/
  | scalar (plain : Bool) (text : String)
  | list (items : List Document)
  /-- Keys and values in written order. -/
  | record (fields : List (Document × Document))
  /-- A value with an explicit type. -/
  | tagged (tag : String) (content : Document)
  /-- The value marked by the anchor of this number. -/
  | anchor (number : Nat)
deriving Inhabited, Repr

namespace Document

def text (s : String) : Document :=
  .scalar false s

/-- A record whose keys are quoted texts. -/
def object (fields : List (String × Document)) : Document :=
  .record (fields.map fun (key, value) => (text key, value))

end Document

/-- What is needed to read the values of one file. -/
structure Source where
  /-- A list may stand for a record; its items are the fields in declared order. -/
  positional : Bool
  /-- Such a list may have more items than the record has fields. -/
  surplus : Bool
  anchors : List (Nat × Document)

/-- Readers of the formats of data files. The text of a file that is in the format is read into a
document. -/
class Readers where
  json? : String → Option (Source × Document)
  yaml? : String → Option (Source × Document)
  toml? : String → Option (Source × Document)

namespace Source

/-- A file in which only records are records and nothing is anchored. -/
def strict : Source :=
  ⟨false, false, []⟩

/-- The value itself where an anchor stands for it. -/
def content (source : Source) : Document → Document
  | .anchor number => (source.anchors.lookup number).getD .null
  | document => document

/-- Words that mean nothing at all when they are written plain. -/
def isNullWord (word : String) : Bool :=
  ["~", "null", "Null", "NULL"].contains word

/-- The tag that asks for nothing at all. -/
def nullTag : String :=
  "tag:yaml.org,2002:null"

def text? (source : Source) (document : Document) : Option String :=
  match source.content document with
  | .scalar _ text | .tagged _ (.scalar _ text) => some text
  | _ => none

/-- A text that may be left out or be written as nothing. -/
def optionalText? (source : Source) : Option Document → Option (Option String)
  | none => some none
  | some document =>
    match source.content document with
    | .null => some none
    | .scalar true text => some (if text = "" ∨ isNullWord text then none else some text)
    | .tagged tag (.scalar true text) =>
      if tag ≠ nullTag then some (some text)
      else if isNullWord text then some none
      else none
    | .scalar false text | .tagged _ (.scalar false text) => some (some text)
    | _ => none

def bool? (source : Source) (document : Document) : Option Bool :=
  match source.content document with
  | .bool value => some value
  | _ => none

/-- The items of a list, each read by `item`. A plain empty text is an empty list. -/
def list? {α : Type} (source : Source) (item : Document → Option α) (document : Document) :
    Option (List α) :=
  match source.content document with
  | .list items | .tagged _ (.list items) => items.mapM item
  | .scalar true "" | .tagged _ (.scalar true "") => some []
  | _ => none

/-- One of several names: a text, a tag on nothing, or the only key of a record that holds
nothing. -/
def choice? (source : Source) (document : Document) : Option String :=
  match source.content document with
  | .scalar _ text => some text
  | .tagged tag (.scalar true text) =>
    if text = "" ∨ isNullWord text then
      some (if tag.startsWith "!" then (tag.drop 1).toString else tag)
    else
      none
  | .record [(key, .null)] => source.text? key
  | _ => none

/-- The value of a field of a record, absent if no field has the key and rejected if two have. -/
def field? (source : Source) (fields : List (Document × Document)) (key : String) :
    Option (Option Document) :=
  match fields.filter fun field => source.text? field.1 == some key with
  | [] => some none
  | [(_, value)] => some (some value)
  | _ => none

/-- The values of the fields named by `keys`, in the order of the keys. Other fields are ignored,
but every key must be a text. A plain empty text is a record without fields. -/
def record? (source : Source) (keys : List String) (document : Document) :
    Option (List (Option Document)) :=
  match source.content document with
  | .record fields | .tagged _ (.record fields) =>
    if fields.all fun field => (source.text? field.1).isSome then
      keys.mapM (source.field? fields)
    else
      none
  | .scalar true "" | .tagged _ (.scalar true "") => some (keys.map fun _ => none)
  | .list items =>
    if source.positional && (source.surplus || items.length ≤ keys.length) then
      some ((List.range keys.length).map fun i => items[i]?)
    else
      none
  | _ => none

end Source

end Wiring
