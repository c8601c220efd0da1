import Wiring.Document.Yaml.Scalar

/-!
The tokens of a YAML text. Indentation becomes explicit starts and ends of block collections. A key
is recognised only when the colon after it is met; until then the place where its tokens would be
put is kept as a possible key, one for each level of brackets.
-/

namespace Wiring.Yaml

inductive Token where
  | version (major minor : Nat)
  | tagHandle (handle expansion : String)
  | documentStart | documentEnd
  | blockListStart | blockRecordStart | blockEnd
  | flowListStart | flowListEnd | flowRecordStart | flowRecordEnd
  | item
  | comma
  | key | value
  /-- The use of an anchored value. -/
  | use (anchor : String)
  | anchor (name : String)
  | tag (handle suffix : String)
  | scalar (plain : Bool) (text : String)
deriving DecidableEq, Repr, Inhabited

/-- A place where a key may have started. -/
structure PossibleKey where
  /-- Nothing but a key can stand there. -/
  required : Bool
  /-- How many tokens come before it. -/
  token : Nat
  cursor : Cursor

/-- The tokens found so far and what the next ones depend on. -/
structure Scanner where
  cursor : Cursor
  tokens : Array Token
  /-- The columns of the open block collections, innermost first. -/
  indents : List Nat
  /-- A key may start at the next token. -/
  keyAllowed : Bool
  /-- The possible key of each level of brackets, innermost first; the last level is the one
  outside of all brackets. -/
  keys : List (Option PossibleKey)

namespace Scanner

def start (text : List Char) : Scanner :=
  ⟨.start text, #[], [], true, [none]⟩

/-- The next token stands within brackets. -/
def inFlow (s : Scanner) : Bool :=
  1 < s.keys.length

/-- A column is deeper than the innermost block collection. -/
def isDeeper (s : Scanner) (column : Nat) : Bool :=
  s.indents.head?.all (· < column)

/-- The least column of text that belongs to the innermost block collection. -/
def contentColumn (s : Scanner) : Nat :=
  match s.indents with
  | [] => 0
  | column :: _ => column + 1

def push (s : Scanner) (token : Token) : Scanner :=
  { s with tokens := s.tokens.push token }

/-- Adds a token after the first `position` tokens. -/
def insert (s : Scanner) (position : Nat) (token : Token) : Scanner :=
  { s with tokens := s.tokens.insertIdxIfInBounds position token }

def skip (s : Scanner) (count : Nat) : Scanner :=
  { s with cursor := s.cursor.skip count }

def allowKey (s : Scanner) (keyAllowed : Bool) : Scanner :=
  { s with keyAllowed }

/-- Opens a block collection at a column that is deeper than the open ones. -/
def open? (s : Scanner) (column position : Nat) (token : Token) : Scanner :=
  if !s.inFlow && s.isDeeper column then
    { s with indents := column :: s.indents }.insert position token
  else
    s

/-- Ends the block collections that are deeper than a column; `none` is outside of all. -/
def close (column : Option Nat) : List Nat → Array Token → List Nat × Array Token
  | [], tokens => ([], tokens)
  | indent :: indents, tokens =>
    if column.all (· < indent) then close column indents (tokens.push .blockEnd)
    else (indent :: indents, tokens)

/-- Ends the block collections that a token in this column does not belong to. -/
def closeTo (s : Scanner) (column : Option Nat) : Scanner :=
  if s.inFlow then
    s
  else
    let (indents, tokens) := close column s.indents s.tokens
    { s with indents, tokens }

/-- Gives up the possible key of this level, unless nothing but a key can stand there. -/
def dropKey? (s : Scanner) : Option Scanner :=
  match s.keys with
  | some key :: keys => if key.required then none else some { s with keys := none :: keys }
  | _ => some s

/-- The next token may be the start of a key. -/
def saveKey? (s : Scanner) : Option Scanner :=
  if s.keyAllowed then do
    let s ← s.dropKey?
    let required := !s.inFlow && s.indents.head? == some s.cursor.column
    some { s with keys := some ⟨required, s.tokens.size, s.cursor⟩ :: s.keys.tail }
  else
    some s

/-- A key must be on one line and no longer than 1024 characters. -/
def isStale (cursor : Cursor) (key : PossibleKey) : Bool :=
  key.cursor.line < cursor.line || key.cursor.index + 1024 < cursor.index

/-- Gives up the possible keys that are too far behind. -/
def dropStale? (s : Scanner) : Option Scanner := do
  let keys ← s.keys.mapM fun key =>
    match key with
    | some key =>
      if !isStale s.cursor key then some (some key)
      else if key.required then none
      else some none
    | none => some none
  some { s with keys }

/-- Passes blanks, comments and line breaks. A tab is no blank where a key may start. After a line
break a key may start, except within brackets. -/
def skipGap : (fuel : Nat) → Scanner → Scanner
  | 0, s => s
  | fuel + 1, s =>
    let tabs := s.inFlow || !s.keyAllowed
    let cursor := (s.cursor.skipMark.skipWhile fun c => c == ' ' || (tabs && c == '\t')).skipComment
    if cursor.atBreak then
      skipGap fuel { s with cursor := cursor.skipBreak, keyAllowed := s.keyAllowed || !s.inFlow }
    else
      { s with cursor }

/-- Digits of a version number, nine at most. -/
def number? (cursor : Cursor) : Option (Nat × Cursor) :=
  let (digits, after) := cursor.span Char.isDigit
  if digits.isEmpty || 9 < digits.length then none else some (Text.decimalValue digits, after)

/-- A character that may stand in a tag as it is. Commas and brackets may only where `all` is
set. -/
def isTagChar (all : Bool) (c : Char) : Bool :=
  isWordChar c || ";/?:@&=+$.!~*'()".toList.contains c || (all && ",[]".toList.contains c)

/-- One byte written as a percent sign and two hexadecimal digits. -/
def escapedByte? (cursor : Cursor) : Option (UInt8 × Cursor) := do
  let '%' :: high :: low :: _ := cursor.rest | none
  let value ← Text.hexValue? [high, low]
  some (value.toUInt8, cursor.skip 3)

def tagText? (all : Bool) : (fuel : Nat) → Cursor → Option (List UInt8 × Cursor)
  | 0, cursor => some ([], cursor)
  | fuel + 1, cursor =>
    match cursor.peek? 0 with
    | some '%' => do
      let (byte, after) ← escapedByte? cursor
      let (more, after) ← tagText? all fuel after
      some (byte :: more, after)
    | some c =>
      if isTagChar all c then do
        let (more, after) ← tagText? all fuel (cursor.skip 1)
        some (c.toString.toUTF8.toList ++ more, after)
      else
        some ([], cursor)
    | none => some ([], cursor)

/-- The text of a tag, whose escapes are bytes of characters. -/
def tagSuffix? (all : Bool) (cursor : Cursor) : Option (String × Cursor) := do
  let (bytes, after) ← tagText? all cursor.rest.length cursor
  some (← String.fromUTF8? ⟨bytes.toArray⟩, after)

/-- A handle: an exclamation mark, and maybe word characters and a second one. -/
def handle? (cursor : Cursor) : Option (String × Cursor) :=
  if cursor.sees '!' 0 then
    let (word, after) := (cursor.skip 1).span isWordChar
    if after.sees '!' 0 then some ("!" ++ String.ofList word ++ "!", after.skip 1)
    else some ("!" ++ String.ofList word, after)
  else
    none

/-- The handle has word characters or a second exclamation mark that closes it. -/
def isClosedHandle (handle : String) : Bool :=
  1 < handle.length && handle.endsWith "!"

/-- A directive: a version, or the expansion of a tag handle. -/
def directive? (cursor : Cursor) : Option (Token × Cursor) := do
  let (name, after) := (cursor.skip 1).span isWordChar
  if !after.seesGap 0 then none else
  let after := after.skipWhile isBlank
  let (token, after) ← match String.ofList name with
    | "YAML" => do
      let (major, after) ← number? after
      if !after.sees '.' 0 then none else
      let (minor, after) ← number? (after.skip 1)
      some (Token.version major minor, after)
    | "TAG" => do
      let (handle, after) ← handle? after
      if handle ≠ "!" && !isClosedHandle handle || !after.atBlank then none else
      let (expansion, after) ← tagSuffix? true (after.skipWhile isBlank)
      if expansion.isEmpty || !after.seesGap 0 then none else
      some (Token.tagHandle handle expansion, after)
    | _ => none
  let after := (after.skipWhile isBlank).skipComment
  if !after.seesLineEnd 0 then none
  else if after.atBreak then some (token, after.skipBreak)
  else some (token, after)

def anchorName? (cursor : Cursor) : Option (String × Cursor) :=
  let (name, after) := (cursor.skip 1).span isWordChar
  if name.isEmpty ||
      !(after.seesGap 0 || after.seesAny ['?', ':', ',', ']', '\x7d', '%', '@', '`'] 0) then
    none
  else
    some (String.ofList name, after)

/-- A tag: verbatim between angle brackets, with a handle, or with a plain exclamation mark. -/
def tag? (s : Scanner) : Option (Token × Cursor) := do
  let cursor := s.cursor
  let (token, after) ←
    if cursor.sees '<' 1 then do
      let (text, after) ← tagSuffix? true (cursor.skip 2)
      if text.isEmpty || !after.sees '>' 0 then none
      else some (Token.tag "" text, after.skip 1)
    else do
      let (handle, after) ← handle? cursor
      if isClosedHandle handle then
        let (suffix, after) ← tagSuffix? false after
        if suffix.isEmpty then none else some (Token.tag handle suffix, after)
      else
        let (suffix, after) ← tagSuffix? false (cursor.skip 1)
        some (if suffix.isEmpty then Token.tag "" "!" else Token.tag "!" suffix, after)
  if after.seesGap 0 || (s.inFlow && after.sees ',' 0) then some (token, after) else none

/-- A plain scalar may start here. -/
def startsPlain (s : Scanner) : Bool :=
  match s.cursor.peek? 0 with
  | none => false
  | some c =>
    let indicators := "-?:,[]\x7b\x7d#&*!|>'\"%@`".toList
    !(isBlank c || isBreak c || indicators.contains c) ||
      (c == '-' && !(s.cursor.peek? 1).any isBlank) ||
      (!s.inFlow && (c == '?' || c == ':') && !s.cursor.seesGap 1)

/-- Adds the token of a line that stands outside of all collections. -/
def marker? (s : Scanner) (token : Token) (after : Cursor) : Option Scanner := do
  let s ← (s.closeTo none).dropKey?
  some ({ s with cursor := after }.allowKey false |>.push token)

def openFlow? (s : Scanner) (token : Token) : Option Scanner := do
  let s ← s.saveKey?
  some ({ s with keys := none :: s.keys }.allowKey true |>.skip 1 |>.push token)

def closeFlow? (s : Scanner) (token : Token) : Option Scanner := do
  let s ← s.dropKey?
  let keys := if s.inFlow then s.keys.tail else s.keys
  some ({ s with keys }.allowKey false |>.skip 1 |>.push token)

/-- A dash before an item of a list. Outside of brackets it opens a list. -/
def item? (s : Scanner) : Option Scanner :=
  if !s.inFlow && !s.keyAllowed then
    none
  else do
    let s ← (s.open? s.cursor.column s.tokens.size .blockListStart).dropKey?
    some (s.allowKey true |>.skip 1 |>.push .item)

/-- A question mark before a key. -/
def explicitKey? (s : Scanner) : Option Scanner :=
  if !s.inFlow && !s.keyAllowed then
    none
  else do
    let s ← (s.open? s.cursor.column s.tokens.size .blockRecordStart).dropKey?
    some (s.allowKey (!s.inFlow) |>.skip 1 |>.push .key)

/-- A colon before a value. The possible key of this level becomes a key; without one the key is
empty or was given before. -/
def value? (s : Scanner) : Option Scanner :=
  match s.keys with
  | some key :: keys =>
    let s := ({ s with keys := none :: keys }.insert key.token .key).open?
      key.cursor.column key.token .blockRecordStart
    some (s.allowKey false |>.skip 1 |>.push .value)
  | _ =>
    if !s.inFlow && !s.keyAllowed then
      none
    else
      let s := s.open? s.cursor.column s.tokens.size .blockRecordStart
      some (s.allowKey (!s.inFlow) |>.skip 1 |>.push .value)

/-- An anchor, or the use of one. -/
def anchor? (s : Scanner) (token : String → Token) : Option Scanner := do
  let s ← s.saveKey?
  let (name, after) ← anchorName? s.cursor
  some ({ s with cursor := after }.allowKey false |>.push (token name))

def pushTag? (s : Scanner) : Option Scanner := do
  let s ← s.saveKey?
  let (token, after) ← s.tag?
  some ({ s with cursor := after }.allowKey false |>.push token)

def quoted? (s : Scanner) (single : Bool) : Option Scanner := do
  let s ← s.saveKey?
  let cursor := s.cursor.skip 1
  let (text, after) ← cursor.quoted? single (cursor.rest.length + 1)
  some ({ s with cursor := after }.allowKey false |>.push (.scalar false (String.ofList text)))

def block? (s : Scanner) (literal : Bool) : Option Scanner := do
  let s ← s.dropKey?
  let (text, after) ← (s.cursor.skip 1).block? literal s.indents.head?
  some ({ s with cursor := after }.allowKey true |>.push (.scalar false (String.ofList text)))

/-- A plain scalar. If it ends with a line, a key may start after it. -/
def plain? (s : Scanner) : Option Scanner := do
  let s ← s.saveKey?
  let (text, broken, after) ←
    s.cursor.plain? s.inFlow s.contentColumn (s.cursor.rest.length + 1) .empty
  some ({ s with cursor := after }.allowKey broken |>.push (.scalar true (String.ofList text)))

/-- Adds the token that starts here, which is not the end of the text. -/
def token? (s : Scanner) : Option Scanner :=
  let cursor := s.cursor
  if cursor.column = 0 && cursor.sees '%' 0 then do
    let s ← (s.closeTo none).dropKey?
    let (token, after) ← directive? cursor
    s.marker? token after
  else if cursor.atDocumentMark then
    s.marker? (if cursor.sees '-' 0 then .documentStart else .documentEnd) (cursor.skip 3)
  else
    let flow := s.inFlow
    match cursor.peek? 0 with
    | some '[' => s.openFlow? .flowListStart
    | some '\x7b' => s.openFlow? .flowRecordStart
    | some ']' => s.closeFlow? .flowListEnd
    | some '\x7d' => s.closeFlow? .flowRecordEnd
    | some ',' => do
      let s ← s.dropKey?
      some (s.allowKey true |>.skip 1 |>.push .comma)
    | some '*' => s.anchor? .use
    | some '&' => s.anchor? .anchor
    | some '!' => s.pushTag?
    | some '\'' => s.quoted? true
    | some '"' => s.quoted? false
    | some c =>
      if c = '-' && cursor.seesGap 1 then s.item?
      else if c = '?' && (flow || cursor.seesGap 1) then s.explicitKey?
      else if c = ':' && (flow || cursor.seesGap 1) then s.value?
      else if c = '|' && !flow then s.block? true
      else if c = '>' && !flow then s.block? false
      else if s.startsPlain then s.plain?
      else none
    | none => none

/-- Adds the tokens up to the end of the text. Every token takes a character at least. -/
def run? : (fuel : Nat) → Scanner → Option (Array Token)
  | 0, _ => none
  | fuel + 1, s => do
    let s := s.skipGap (s.cursor.rest.length + 1)
    let s ← s.dropStale?
    let s := s.closeTo (some s.cursor.column)
    if s.cursor.atEnd then
      let s ← (s.closeTo none).dropKey?
      some s.tokens
    else
      run? fuel (← s.token?)

end Scanner

/-- The characters that may stand in a text: no controls except tabs and line breaks. -/
def isAllowed (c : Char) : Bool :=
  c = '\t' || c = '\n' || c = '\r' || (' ' ≤ c && c ≤ '~') || c = '\u0085' ||
    ('\u00a0' ≤ c && c ≤ '\ufffd') || '\uffff' < c

def tokens? (text : String) : Option (List Token) :=
  let cs := text.toList
  if cs.all isAllowed then
    (Scanner.run? (cs.length + 1) (.start cs)).map Array.toList
  else
    none

end Wiring.Yaml
