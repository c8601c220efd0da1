/-!
A place in a YAML text, with the line and the column it is at. Indentation decides the structure of
a text, so every step keeps account of the column.
-/

namespace Wiring.Yaml

structure Cursor where
  rest : List Char
  index : Nat
  line : Nat
  column : Nat

/-- The character ends a line. -/
def isBreak (c : Char) : Bool :=
  c = '\n' || c = '\r' || c = '\u0085' || c = '\u2028' || c = '\u2029'

def isBlank (c : Char) : Bool :=
  c = ' ' || c = '\t'

/-- The character may stand in the name of an anchor or of a tag handle. -/
def isWordChar (c : Char) : Bool :=
  c.isAlphanum || c = '_' || c = '-'

namespace Cursor

def start (text : List Char) : Cursor :=
  ⟨text, 0, 0, 0⟩

/-- The character that is `offset` characters ahead. -/
def peek? (cursor : Cursor) (offset : Nat) : Option Char :=
  cursor.rest[offset]?

def sees (cursor : Cursor) (c : Char) (offset : Nat) : Bool :=
  cursor.peek? offset == some c

def seesAny (cursor : Cursor) (cs : List Char) (offset : Nat) : Bool :=
  (cursor.peek? offset).any cs.contains

def atEnd (cursor : Cursor) : Bool :=
  cursor.rest.isEmpty

def atBreak (cursor : Cursor) : Bool :=
  (cursor.peek? 0).any isBreak

def atBlank (cursor : Cursor) : Bool :=
  (cursor.peek? 0).any isBlank

/-- There is a line break ahead, or the end of the text. -/
def seesLineEnd (cursor : Cursor) (offset : Nat) : Bool :=
  (cursor.peek? offset).all isBreak

/-- There is a blank ahead, a line break, or the end of the text. -/
def seesGap (cursor : Cursor) (offset : Nat) : Bool :=
  (cursor.peek? offset).all fun c => isBlank c || isBreak c

/-- At the start of a line, three dashes or three dots by themselves end a document. -/
def atDocumentMark (cursor : Cursor) : Bool :=
  cursor.column == 0 && cursor.seesGap 3 &&
    (cursor.rest.take 3 == ['-', '-', '-'] || cursor.rest.take 3 == ['.', '.', '.'])

/-- Goes on by characters of the same line. -/
def skip (cursor : Cursor) (count : Nat) : Cursor :=
  { cursor with
    rest := cursor.rest.drop count
    index := cursor.index + count
    column := cursor.column + count }

/-- Goes on past the characters of a class, none of which ends a line. -/
def skipWhile (cursor : Cursor) (p : Char → Bool) : Cursor :=
  cursor.skip (cursor.rest.takeWhile p).length

/-- The characters of a class, none of which ends a line, and the place after them. -/
def span (cursor : Cursor) (p : Char → Bool) : List Char × Cursor :=
  let taken := cursor.rest.takeWhile p
  (taken, cursor.skip taken.length)

/-- Goes on past a byte order mark at the start of a line. The mark takes up the first column. -/
def skipMark (cursor : Cursor) : Cursor :=
  if cursor.column == 0 && cursor.sees '\ufeff' 0 then cursor.skip 1 else cursor

/-- Goes on past a line break; a carriage return and a line feed are one. -/
def skipBreak (cursor : Cursor) : Cursor :=
  let count := if cursor.rest.take 2 == ['\r', '\n'] then 2 else 1
  { rest := cursor.rest.drop count
    index := cursor.index + count
    line := cursor.line + 1
    column := 0 }

/-- The text that a line break stands for, and the place after it. Only the two Unicode separators
stand for themselves. -/
def takeBreak (cursor : Cursor) : List Char × Cursor :=
  match cursor.peek? 0 with
  | none => ([], cursor)
  | some c => (if c = '\u2028' ∨ c = '\u2029' then [c] else ['\n'], cursor.skipBreak)

def skipComment (cursor : Cursor) : Cursor :=
  if cursor.sees '#' 0 then cursor.skipWhile (!isBreak ·) else cursor

end Cursor

end Wiring.Yaml
