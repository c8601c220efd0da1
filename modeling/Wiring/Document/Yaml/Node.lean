import Wiring.Document.Basic
import Wiring.Document.Yaml.Token

/-!
The document of a YAML text. The tokens are read as nested lists and records; an anchored value is
kept once under a number, and the uses of the anchor refer to that number. A text must hold a single
document; an empty text holds an empty plain scalar.
-/

namespace Wiring.Yaml

/-- The anchors met so far. An anchor has as its number how many names there were before it; a name
given once more takes a new number in the same way, and of two values with one number the later one
counts. -/
structure Anchors where
  names : List (String × Nat)
  /-- The number of each anchored value and the place of the value, latest first. -/
  places : List (Nat × Nat)
  /-- The anchored values by their places. -/
  values : List (Nat × Document)

namespace Anchors

def empty : Anchors :=
  ⟨[], [], []⟩

def declare (anchors : Anchors) (name : String) : Anchors :=
  let number := anchors.names.length
  { anchors with
    names := (name, number) :: anchors.names.filter (·.1 ≠ name)
    places := (number, anchors.places.length) :: anchors.places }

def define (anchors : Anchors) (place : Nat) (value : Document) : Anchors :=
  { anchors with values := (place, value) :: anchors.values }

def table (anchors : Anchors) : List (Nat × Document) :=
  anchors.places.filterMap fun (number, place) =>
    (anchors.values.lookup place).map fun value => (number, value)

end Anchors

/-- The tokens that are left, and what the tokens before them have declared. -/
structure Reader where
  tokens : List Token
  anchors : Anchors
  handles : List (String × String)

namespace Reader

def on (r : Reader) (tokens : List Token) : Reader :=
  { r with tokens }

def seesAny (r : Reader) (tokens : List Token) : Bool :=
  r.tokens.head?.any tokens.contains

/-- What stands for a value that is left out. -/
def missing : Document :=
  .scalar true ""

structure Properties where
  anchor : Option String
  tag : Option String

/-- The full tag of a handle and a suffix. -/
def expand? (r : Reader) (handle suffix : String) : Option String :=
  if handle.isEmpty then some suffix else (r.handles.lookup handle).map (· ++ suffix)

/-- An anchor and a tag in either order, each of them at most once. -/
def properties? (r : Reader) : Option (Properties × Reader) :=
  match r.tokens with
  | .anchor name :: .tag handle suffix :: rest | .tag handle suffix :: .anchor name :: rest => do
    some (⟨name, ← r.expand? handle suffix⟩, r.on rest)
  | .anchor name :: rest => some (⟨name, none⟩, r.on rest)
  | .tag handle suffix :: rest => do some (⟨none, ← r.expand? handle suffix⟩, r.on rest)
  | _ => some (⟨none, none⟩, r)

def tagged (tag : Option String) (document : Document) : Document :=
  match tag with
  | some tag => .tagged tag document
  | none => document

/-- A value that only its properties tell of. -/
def absent? (properties : Properties) (r : Reader) : Option (Document × Reader) :=
  if properties.anchor.isSome || properties.tag.isSome then
    some (tagged properties.tag missing, r)
  else
    none

mutual

/-- A value. Block collections are allowed within `block`; a list whose dashes stand in the column
of the enclosing record is allowed within `indentless`. -/
def node? (block indentless : Bool) : (fuel : Nat) → Reader → Option (Document × Reader)
  | 0, _ => none
  | fuel + 1, r =>
    match r.tokens with
    | .use name :: rest => do
      some (.anchor (← r.anchors.names.lookup name), r.on rest)
    | _ => do
      let (properties, r) ← r.properties?
      match properties.anchor with
      | none => content? block indentless properties fuel r
      | some name =>
        let place := r.anchors.places.length
        let (document, r) ← content? block indentless properties fuel
          { r with anchors := r.anchors.declare name }
        some (document, { r with anchors := r.anchors.define place document })

/-- A value without its properties, which are given. -/
def content? (block indentless : Bool) (properties : Properties) :
    (fuel : Nat) → Reader → Option (Document × Reader)
  | 0, _ => none
  | fuel + 1, r =>
    match r.tokens with
    | .item :: _ =>
      if indentless then do
        let (items, r) ← items? true fuel r
        some (tagged properties.tag (.list items), r)
      else
        absent? properties r
    | .scalar plain text :: rest => some (tagged properties.tag (.scalar plain text), r.on rest)
    | .flowListStart :: rest => do
      let (items, r) ← flowItems? true fuel (r.on rest)
      some (tagged properties.tag (.list items), r)
    | .flowRecordStart :: rest => do
      let (fields, r) ← flowFields? true fuel (r.on rest)
      some (tagged properties.tag (.record fields), r)
    | .blockListStart :: rest =>
      if block then do
        let (items, r) ← items? false fuel (r.on rest)
        some (tagged properties.tag (.list items), r)
      else
        absent? properties r
    | .blockRecordStart :: rest =>
      if block then do
        let (fields, r) ← fields? fuel (r.on rest)
        some (tagged properties.tag (.record fields), r)
      else
        absent? properties r
    | _ => absent? properties r

/-- A value, unless one of the given tokens comes next. -/
def valueUnless? (ends : List Token) (block : Bool) :
    (fuel : Nat) → Reader → Option (Document × Reader)
  | 0, _ => none
  | fuel + 1, r => if r.seesAny ends then some (missing, r) else node? block block fuel r

/-- The value of a field after its colon; without a colon it is missing. -/
def fieldValue? (ends : List Token) (block : Bool) :
    (fuel : Nat) → Reader → Option (Document × Reader)
  | 0, _ => none
  | fuel + 1, r =>
    match r.tokens with
    | .value :: rest => valueUnless? ends block fuel (r.on rest)
    | _ => some (missing, r)

/-- The items of a block list up to its end. A list in the column of the enclosing record has no
token at its end. -/
def items? (indentless : Bool) : (fuel : Nat) → Reader → Option (List Document × Reader)
  | 0, _ => none
  | fuel + 1, r =>
    match r.tokens with
    | .item :: rest => do
      let r := r.on rest
      let ends : List Token :=
        if indentless then [.item, .key, .value, .blockEnd] else [.item, .blockEnd]
      let (item, r) ← if r.seesAny ends then some (missing, r) else node? true false fuel r
      let (items, r) ← items? indentless fuel r
      some (item :: items, r)
    | .blockEnd :: rest => some ([], if indentless then r else r.on rest)
    | _ => if indentless then some ([], r) else none

def fields? : (fuel : Nat) → Reader → Option (List (Document × Document) × Reader)
  | 0, _ => none
  | fuel + 1, r =>
    match r.tokens with
    | .key :: rest => do
      let ends : List Token := [.key, .value, .blockEnd]
      let (key, r) ← valueUnless? ends true fuel (r.on rest)
      let (value, r) ← fieldValue? ends true fuel r
      let (fields, r) ← fields? fuel r
      some ((key, value) :: fields, r)
    | .blockEnd :: rest => some ([], r.on rest)
    | _ => none

/-- The items of a list in brackets up to its end. A field among them is a record by itself. -/
def flowItems? (first : Bool) : (fuel : Nat) → Reader → Option (List Document × Reader)
  | 0, _ => none
  | fuel + 1, r =>
    match r.tokens, first with
    | .flowListEnd :: rest, _ => some ([], r.on rest)
    | .comma :: .flowListEnd :: rest, false => some ([], r.on rest)
    | .comma :: rest, false => flowItem? fuel (r.on rest)
    | _, true => flowItem? fuel r
    | _, false => none

/-- An item of a list in brackets and the items after it. -/
def flowItem? : (fuel : Nat) → Reader → Option (List Document × Reader)
  | 0, _ => none
  | fuel + 1, r => do
    let (item, r) ← match r.tokens with
      | .key :: rest => do
        let (key, r) ← flowKey? fuel (r.on rest)
        let (value, r) ← fieldValue? [.comma, .flowListEnd] false fuel r
        some (Document.record [(key, value)], r)
      | _ => node? false false fuel r
    let (items, r) ← flowItems? false fuel r
    some (item :: items, r)

/-- The key of a field in a list in brackets. The token that shows a key to be missing is passed. -/
def flowKey? : (fuel : Nat) → Reader → Option (Document × Reader)
  | 0, _ => none
  | fuel + 1, r =>
    if r.seesAny [.value, .comma, .flowListEnd] then some (missing, r.on r.tokens.tail)
    else node? false false fuel r

def flowFields? (first : Bool) :
    (fuel : Nat) → Reader → Option (List (Document × Document) × Reader)
  | 0, _ => none
  | fuel + 1, r =>
    match r.tokens, first with
    | .flowRecordEnd :: rest, _ => some ([], r.on rest)
    | .comma :: .flowRecordEnd :: rest, false => some ([], r.on rest)
    | .comma :: rest, false => flowField? fuel (r.on rest)
    | _, true => flowField? fuel r
    | _, false => none

/-- A field of a record in braces and the fields after it. A value alone is a key. -/
def flowField? : (fuel : Nat) → Reader → Option (List (Document × Document) × Reader)
  | 0, _ => none
  | fuel + 1, r => do
    let ((key, value), r) ← match r.tokens with
      | .key :: rest => do
        let (key, r) ← valueUnless? [.value, .comma, .flowRecordEnd] false fuel (r.on rest)
        let (value, r) ← fieldValue? [.comma, .flowRecordEnd] false fuel r
        some ((key, value), r)
      | _ => do
        let (key, r) ← node? false false fuel r
        some ((key, missing), r)
    let (fields, r) ← flowFields? false fuel r
    some ((key, value) :: fields, r)

end

/-- Reads the directives of a document. A version must be 1.1 or 1.2 and be given once, and so must
the expansion of a handle. -/
def directives? (versioned : Bool) (handles : List (String × String)) :
    List Token → Option (List (String × String) × List Token)
  | .version major minor :: rest =>
    if versioned || major ≠ 1 || (minor ≠ 1 && minor ≠ 2) then none
    else directives? true handles rest
  | .tagHandle handle expansion :: rest =>
    if (handles.lookup handle).isSome then none
    else directives? versioned ((handle, expansion) :: handles) rest
  | tokens => some (handles, tokens)

/-- The tag handles that every document has. -/
def defaultHandles : List (String × String) :=
  [("!", "!"), ("!!", "tag:yaml.org,2002:")]

/-- The content of a document after its start. -/
def document? (explicit : Bool) (handles : List (String × String)) (tokens : List Token) :
    Option (Document × Reader) :=
  let r : Reader := ⟨tokens, .empty, handles ++ defaultHandles⟩
  match explicit, tokens with
  | true, [] | true, .version .. :: _ | true, .tagHandle .. :: _ | true, .documentStart :: _
  | true, .documentEnd :: _ => some (missing, r)
  | _, _ => node? true false (8 * tokens.length + 8) r

/-- The only document of a stream of tokens. -/
def stream? (tokens : List Token) : Option (Document × Reader) :=
  match tokens with
  | [] => document? true [] []
  | .version .. :: _ | .tagHandle .. :: _ | .documentStart :: _ => do
    let (handles, tokens) ← directives? false [] tokens
    let .documentStart :: tokens := tokens | none
    document? true handles tokens
  | _ => document? false [] tokens

end Reader

def read? (text : String) : Option (Source × Document) := do
  let (document, r) ← Reader.stream? (← tokens? text)
  if (r.tokens.dropWhile (· == .documentEnd)).isEmpty then
    some (⟨false, false, r.anchors.table⟩, document)
  else
    none

end Wiring.Yaml
