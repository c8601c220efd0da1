import Wiring.Document.Toml.Scalar
import Wiring.Document.Toml.Table

/-!
The document of a TOML text. Each line is a header or gives one key a value; the lines are applied in
turn to the table of the whole file.
-/

namespace Wiring.Toml

def dropBlanks (cs : List Char) : List Char :=
  cs.dropWhile fun c => c == ' ' || c == '\t'

/-- Drops a comment. It goes on to the end of the line. -/
def dropComment : List Char → List Char
  | '#' :: cs => cs.dropWhile isTextChar
  | cs => cs

/-- What follows the end of a line, before which there may be blanks and a comment. -/
def lineEnd? (cs : List Char) : Option (List Char) :=
  match dropComment (dropBlanks cs) with
  | [] => some []
  | rest => newline? rest

def dropSpace : (fuel : Nat) → List Char → List Char
  | 0, cs => cs
  | fuel + 1, cs =>
    match newline? (dropComment (dropBlanks cs)) with
    | some rest => dropSpace fuel rest
    | none => dropBlanks cs

def isBareChar (c : Char) : Bool :=
  c.isAlphanum || c == '_' || c == '-'

def bareKey? (cs : List Char) : Option (List Char × List Char) :=
  match cs.takeWhile isBareChar with
  | [] => none
  | part => some (part, cs.drop part.length)

def keyPart? (cs : List Char) : Option (List Char × List Char) :=
  match cs with
  | '"' :: rest => basic? rest.length rest
  | '\'' :: rest => literal? rest
  | _ => bareKey? cs

/-- The deepest nesting of values and of keys. -/
def depthLimit : Nat := 80

def keyParts? : (fuel : Nat) → List Char → Option (List String × List Char)
  | 0, _ => none
  | fuel + 1, cs => do
    let (part, rest) ← keyPart? (dropBlanks cs)
    match dropBlanks rest with
    | '.' :: rest => do
      let (parts, rest) ← keyParts? fuel rest
      some (String.ofList part :: parts, rest)
    | rest => some ([String.ofList part], rest)

/-- A key as the tables it passes through and its last part, and what follows it. -/
def key? (cs : List Char) : Option ((List String × String) × List Char) := do
  let (parts, rest) ← keyParts? (depthLimit - 1) cs
  let last ← parts.getLast?
  some ((parts.dropLast, last), rest)

/-- A number, a date or a truth value. A date counts as a record without any known key. -/
def word? (cs : List Char) : Option Document :=
  if cs = "true".toList then some (.bool true)
  else if cs = "false".toList then some (.bool false)
  else if isInteger cs || isFloat cs then some .number
  else if isDateTime cs then some (.record [])
  else none

/-- The characters of a word, and what follows it. One blank may stand between a date and a time. -/
def takeWord (cs : List Char) : List Char × List Char :=
  let isWordChar (c : Char) : Bool := isBareChar c || c == '+' || c == '.' || c == ':'
  let word := cs.takeWhile isWordChar
  let rest := cs.dropWhile isWordChar
  match rest with
  | ' ' :: h :: m :: ':' :: more =>
    if date? word == some [] && h.isDigit && m.isDigit then
      (word ++ [' ', h, m, ':'] ++ more.takeWhile isWordChar, more.dropWhile isWordChar)
    else
      (word, rest)
  | _ => (word, rest)

def items? (value : List Char → Option (Document × List Char)) :
    (fuel : Nat) → List Char → Option (List Document × List Char)
  | 0, _ => none
  | fuel + 1, cs =>
    match dropSpace cs.length cs with
    | ']' :: rest => some ([], rest)
    | start => do
      let (item, rest) ← value start
      match dropSpace rest.length rest with
      | ']' :: rest => some ([item], rest)
      | ',' :: rest => do
        let (items, rest) ← items? value fuel rest
        some (item :: items, rest)
      | _ => none

/-- The fields of a table in braces, of which there is one at least, up to the closing brace. -/
def fields? (value : List Char → Option (Document × List Char)) :
    (fuel : Nat) → Entries → List Char → Option (Entries × List Char)
  | 0, _, _ => none
  | fuel + 1, entries, cs => do
    let ((path, key), rest) ← key? cs
    let rest ← after? '=' rest
    let (document, rest) ← value (dropBlanks rest)
    let entries ← entries.addValue? path key document
    match dropBlanks rest with
    | '\x7d' :: rest => some (entries, rest)
    | ',' :: rest => fields? value fuel entries rest
    | _ => none

/-- A value that nests at most `depth` lists and tables, and what follows it. -/
def value? : (depth : Nat) → List Char → Option (Document × List Char)
  | _, '"' :: cs => do
    let (text, rest) ← text? '"' cs
    some (.text (String.ofList text), rest)
  | _, '\'' :: cs => do
    let (text, rest) ← text? '\'' cs
    some (.text (String.ofList text), rest)
  | depth + 1, '[' :: cs => do
    let (items, rest) ← items? (value? depth) (cs.length + 1) cs
    some (.list items, rest)
  | depth + 1, '\x7b' :: cs =>
    match dropBlanks cs with
    | '\x7d' :: rest => some (.record [], rest)
    | start => do
      let (entries, rest) ← fields? (value? depth) (cs.length + 1) [] start
      some ((Entry.table .explicit entries).toDocument, rest)
  | _, cs => do
    let (word, rest) := takeWord cs
    some (← word? word, rest)

/-- The file read so far, and the path of the table that the latest header has opened. -/
structure State where
  entries : Entries
  header : List String

/-- Applies a line, which is not empty, and answers what follows it. -/
def line? (state : State) (cs : List Char) : Option (State × List Char) :=
  match cs with
  | '[' :: '[' :: cs => do
    let ((path, key), rest) ← key? cs
    let rest ← after? ']' rest
    let rest ← lineEnd? (← after? ']' rest)
    some (⟨← state.entries.openItem? path key, path ++ [key]⟩, rest)
  | '[' :: cs => do
    let ((path, key), rest) ← key? cs
    let rest ← lineEnd? (← after? ']' rest)
    some (⟨← state.entries.openTable? path key, path ++ [key]⟩, rest)
  | _ => do
    let ((path, key), rest) ← key? cs
    let rest ← after? '=' rest
    let (document, rest) ← value? (depthLimit - 1) (dropBlanks rest)
    let rest ← lineEnd? rest
    some ({ state with entries := ← state.entries.addWithin? state.header path key document }, rest)

def lines : (fuel : Nat) → State → List Char → Option Entries
  | 0, _, _ => none
  | fuel + 1, state, cs =>
    match dropBlanks cs with
    | [] => some state.entries
    | start =>
      match lineEnd? start with
      | some rest => lines fuel state rest
      | none => do
        let (state, rest) ← line? state start
        lines fuel state rest

/-- The document of a text and what is needed to read it: a list may stand for a record, even if it
is too long. A byte order mark may come first. -/
def read? (text : String) : Option (Source × Document) := do
  let cs := match text.toList with
    | '\ufeff' :: cs => cs
    | cs => cs
  let entries ← lines (cs.length + 1) ⟨[], []⟩ cs
  some (⟨true, true, []⟩, (Entry.table .explicit entries).toDocument)

end Wiring.Toml
