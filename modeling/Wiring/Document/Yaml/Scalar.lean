import Wiring.Document.Yaml.Cursor
import Wiring.Text.Hex

/-!
The scalars of YAML: plain text, text in single or double quotes, and blocks of lines. A line break
between two words of a plain or quoted text counts as a space; of several breaks, all but the first
count as they are.
-/

namespace Wiring.Yaml

/-- The blanks and line breaks between two words. -/
structure Gap where
  /-- Blanks, if there is no line break. -/
  blanks : List Char
  broken : Bool
  /-- What the first line break stands for. -/
  first : List Char
  /-- What the line breaks after the first stand for. -/
  more : List Char

namespace Gap

def empty : Gap :=
  ⟨[], false, [], []⟩

/-- A gap that an escaped line break has opened; the break itself stands for nothing. -/
def escaped : Gap :=
  ⟨[], true, [], []⟩

/-- What the gap counts as between two words. -/
def text (gap : Gap) : List Char :=
  if !gap.broken then gap.blanks
  else if gap.first.head? ≠ some '\n' then gap.first ++ gap.more
  else if gap.more = [] then [' ']
  else gap.more

end Gap

namespace Cursor

/-- Takes the blanks and line breaks up to the next word, on top of a gap taken so far. A tab must
not stand before column `indent` of a new line. -/
def gap? (indent : Nat) : (fuel : Nat) → Gap → Cursor → Option (Gap × Cursor)
  | 0, gap, cursor => some (gap, cursor)
  | fuel + 1, gap, cursor =>
    match cursor.peek? 0 with
    | none => some (gap, cursor)
    | some c =>
      if isBlank c then
        if gap.broken && c == '\t' && cursor.column < indent then
          none
        else
          let gap := if gap.broken then gap else { gap with blanks := gap.blanks ++ [c] }
          gap? indent fuel gap (cursor.skip 1)
      else if isBreak c then
        let (text, cursor) := cursor.takeBreak
        let gap := if gap.broken then { gap with more := gap.more ++ text }
          else { gap with blanks := [], broken := true, first := text }
        gap? indent fuel gap cursor
      else
        some (gap, cursor)

/-- A plain scalar ends here: before a comment, a value indicator or, within brackets, before an
indicator of the brackets. -/
def endsPlain (inFlow : Bool) (cursor : Cursor) : Bool :=
  (cursor.sees ':' 0 && cursor.seesGap 1) ||
    (inFlow && cursor.seesAny [',', '[', ']', '\x7b', '\x7d'] 0)

/-- Within brackets a colon must not stand right before an indicator of the brackets. -/
def badColon (inFlow : Bool) (cursor : Cursor) : Bool :=
  inFlow && cursor.sees ':' 0 && cursor.seesAny [',', '?', '[', ']', '\x7b', '\x7d'] 1

def plainWord? (inFlow : Bool) : (fuel : Nat) → Cursor → Option (List Char × Cursor)
  | 0, cursor => some ([], cursor)
  | fuel + 1, cursor =>
    if cursor.seesGap 0 then some ([], cursor)
    else if cursor.badColon inFlow then none
    else if cursor.endsPlain inFlow then some ([], cursor)
    else do
      let (word, after) ← plainWord? inFlow fuel (cursor.skip 1)
      some (cursor.rest.take 1 ++ word, after)

/-- The words of a plain scalar with the gaps between them. The text goes on over line breaks as
long as the lines are indented to `indent`. The last part says whether a line was ended after the
last word. -/
def plain? (inFlow : Bool) (indent : Nat) :
    (fuel : Nat) → Gap → Cursor → Option (List Char × Bool × Cursor)
  | 0, _, _ => none
  | fuel + 1, gap, cursor =>
    if cursor.atDocumentMark || cursor.sees '#' 0 then
      some ([], gap.broken, cursor)
    else do
      let (word, after) ← plainWord? inFlow cursor.rest.length cursor
      let joined := if word = [] then [] else gap.text ++ word
      let broken := word = [] && gap.broken
      if after.atBlank || after.atBreak then
        let (gap, after) ← gap? indent after.rest.length .empty after
        if !inFlow && after.column < indent then
          some (joined, gap.broken, after)
        else
          let (more, broken, after) ← plain? inFlow indent fuel gap after
          some (joined ++ more, broken, after)
      else
        some (joined, broken, after)

/-- The meaning of an escape by the character after the backslash. -/
def shortEscape? : Char → Option Char
  | '0' => some '\x00'
  | 'a' => some '\x07'
  | 'b' => some '\x08'
  | 't' | '\t' => some '\t'
  | 'n' => some '\n'
  | 'v' => some '\x0b'
  | 'f' => some '\x0c'
  | 'r' => some '\r'
  | 'e' => some '\x1b'
  | ' ' => some ' '
  | '"' => some '"'
  | '/' => some '/'
  | '\\' => some '\\'
  | 'N' => some '\u0085'
  | '_' => some '\u00a0'
  | 'L' => some '\u2028'
  | 'P' => some '\u2029'
  | _ => none

/-- How many hexadecimal digits follow the character after the backslash. -/
def escapeDigits? : Char → Option Nat
  | 'x' => some 2
  | 'u' => some 4
  | 'U' => some 8
  | _ => none

/-- The character of an escape that starts here, and the place after it. -/
def escape? (cursor : Cursor) : Option (Char × Cursor) := do
  let kind ← cursor.peek? 1
  match escapeDigits? kind with
  | none => some (← shortEscape? kind, cursor.skip 2)
  | some count =>
    let digits := (cursor.rest.drop 2).take count
    let value ← Text.hexValue? digits
    if digits.length = count && Text.isCodePoint value then
      some (Char.ofNat value, cursor.skip (2 + count))
    else
      none

/-- The rest of a word in quotes, up to a gap or the closing quote. An escaped line break ends the
word and opens the gap after it. -/
def quotedWord? (single : Bool) : (fuel : Nat) → Cursor → Option (List Char × Gap × Cursor)
  | 0, _ => none
  | fuel + 1, cursor =>
    if cursor.seesGap 0 then some ([], .empty, cursor)
    else if single && cursor.sees '\'' 0 && cursor.sees '\'' 1 then do
      let (word, gap, after) ← quotedWord? single fuel (cursor.skip 2)
      some ('\'' :: word, gap, after)
    else if cursor.sees (if single then '\'' else '"') 0 then some ([], .empty, cursor)
    else if !single && cursor.sees '\\' 0 then
      if (cursor.peek? 1).any isBreak then
        some ([], .escaped, (cursor.skip 1).skipBreak)
      else do
        let (c, after) ← cursor.escape?
        let (word, gap, after) ← quotedWord? single fuel after
        some (c :: word, gap, after)
    else do
      let (word, gap, after) ← quotedWord? single fuel (cursor.skip 1)
      some (cursor.rest.take 1 ++ word, gap, after)

/-- The text in quotes after the opening quote, and the place after the closing one. -/
def quoted? (single : Bool) : (fuel : Nat) → Cursor → Option (List Char × Cursor)
  | 0, _ => none
  | fuel + 1, cursor =>
    if cursor.atDocumentMark || cursor.atEnd then
      none
    else do
      let (word, gap, after) ← quotedWord? single (cursor.rest.length + 1) cursor
      if after.sees (if single then '\'' else '"') 0 then
        some (word, after.skip 1)
      else
        let (gap, after) ← gap? 0 after.rest.length gap after
        let (more, after) ← quoted? single fuel after
        some (word ++ gap.text ++ more, after)

end Cursor

/-- What happens to the line breaks at the end of a block. -/
inductive Chomping where
  | strip | clip | keep
deriving DecidableEq

structure BlockHeader where
  chomping : Chomping
  /-- The indentation relative to the parent, if it is given. -/
  increment : Option Nat

namespace Cursor

def chomping? (cursor : Cursor) : Option Chomping :=
  match cursor.peek? 0 with
  | some '+' => some .keep
  | some '-' => some .strip
  | _ => none

/-- An indentation indicator: a digit, but not zero. -/
def increment? (cursor : Cursor) : Option (Option Nat × Cursor) :=
  match cursor.peek? 0 with
  | some '0' => none
  | some c => if c.isDigit then some (some (c.toNat - '0'.toNat), cursor.skip 1)
    else some (none, cursor)
  | none => some (none, cursor)

/-- The header after the block indicator, up to and including the end of its line. -/
def blockHeader? (cursor : Cursor) : Option (BlockHeader × Cursor) := do
  let (header, after) ← match cursor.chomping? with
    | some chomping => do
      let (increment, after) ← (cursor.skip 1).increment?
      some ((⟨chomping, increment⟩ : BlockHeader), after)
    | none => do
      let (increment, after) ← cursor.increment?
      match increment, after.chomping? with
      | some _, some chomping => some (⟨chomping, increment⟩, after.skip 1)
      | _, _ => some (⟨.clip, increment⟩, after)
  let after := (after.skipWhile isBlank).skipComment
  if !after.seesLineEnd 0 then none
  else if after.atBreak then some (header, after.skipBreak)
  else some (header, after)

/-- Takes the empty lines and the indentation before a line of a block. While the indentation is
not known, the largest column reached is kept; a tab must not stand in it. -/
def blockBreaks? (indent : Option Nat) :
    (fuel : Nat) → (reached : Nat) → Cursor → Option (List Char × Nat × Cursor)
  | 0, _, _ => none
  | fuel + 1, reached, cursor =>
    let spaces := (cursor.rest.takeWhile (· == ' ')).length
    let cursor := cursor.skip (match indent with
      | none => spaces
      | some indent => min spaces (indent - cursor.column))
    let reached := max reached cursor.column
    if cursor.sees '\t' 0 && indent.all (cursor.column < ·) then
      none
    else if cursor.atBreak then do
      let (text, cursor) := cursor.takeBreak
      let (more, reached, cursor) ← blockBreaks? indent fuel reached cursor
      some (text ++ more, reached, cursor)
    else
      some ([], reached, cursor)

/-- The lines of a block at column `indent`, given what came before: the last line break, the empty
lines after it, and whether the last line started with a blank. What is left at the end is the last
line break and the empty lines. -/
def blockLines? (literal : Bool) (indent : Nat) :
    (fuel : Nat) → (last empty : List Char) → (blank : Bool) → Cursor →
    Option (List Char × List Char × List Char × Cursor)
  | 0, _, _, _, _ => none
  | fuel + 1, last, empty, blank, cursor =>
    if cursor.column ≠ indent ∨ cursor.atEnd then
      some ([], last, empty, cursor)
    else do
      let folded := !literal && last.head? == some '\n' && !blank && !cursor.atBlank
      let joint := (if !folded then last else if empty = [] then [' '] else []) ++ empty
      let (line, after) := cursor.span (!isBreak ·)
      let (last, after) := after.takeBreak
      let (empty, _, after) ← blockBreaks? (some indent) (after.rest.length + 1) 0 after
      let (more, last, empty, after) ←
        blockLines? literal indent fuel last empty cursor.atBlank after
      some (joint ++ line ++ more, last, empty, after)

/-- The text of a block after its indicator. `parent` is the column of the enclosing collection,
none outside of all. -/
def block? (literal : Bool) (parent : Option Nat) (cursor : Cursor) :
    Option (List Char × Cursor) := do
  let (header, cursor) ← cursor.blockHeader?
  let given := header.increment.map (parent.getD 0 + ·)
  let (empty, reached, cursor) ← blockBreaks? given (cursor.rest.length + 1) 0 cursor
  let least := match parent with
    | none => 1
    | some column => column + 1
  let indent := given.getD (max reached least)
  let (text, last, empty, cursor) ←
    blockLines? literal indent (cursor.rest.length + 1) [] empty false cursor
  some (text ++ (if header.chomping = .strip then [] else last) ++
    (if header.chomping = .keep then empty else []), cursor)

end Cursor

end Wiring.Yaml
