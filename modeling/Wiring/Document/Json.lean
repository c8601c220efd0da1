import Wiring.Document.Basic
import Wiring.Text.Hex

/-!
Documents in JSON. A text is cut into tokens first; a document is then read from the tokens. A text
that is not exactly one JSON value has no document.
-/

namespace Wiring.Json

/-- A token. Texts, numbers and literals are values by themselves. -/
inductive Token where
  | openList | closeList | openRecord | closeRecord | comma | colon
  /-- A text in quotes, which may be a key. -/
  | quoted (text : Document)
  | literal (value : Document)
deriving Inhabited

def isSpace (c : Char) : Bool :=
  c = ' ' || c = '\t' || c = '\n' || c = '\r'

/-- The meaning of a one-character escape. -/
def shortEscape? : Char → Option Char
  | '"' => some '"'
  | '\\' => some '\\'
  | '/' => some '/'
  | 'b' => some '\x08'
  | 'f' => some '\x0c'
  | 'n' => some '\n'
  | 'r' => some '\r'
  | 't' => some '\t'
  | _ => none

/-- A unit of a text: a character, or one half of a surrogate pair. -/
abbrev Units := List Nat

/-- The characters that units stand for, none if half of a surrogate pair stands alone. -/
def characters? : Units → Option (List Char)
  | [] => some []
  | high :: low :: rest =>
    if 0xd800 ≤ high ∧ high < 0xdc00 ∧ 0xdc00 ≤ low ∧ low < 0xe000 then
      (characters? rest).map (Char.ofNat (0x10000 + (high - 0xd800) * 0x400 + (low - 0xdc00)) :: ·)
    else if 0xd800 ≤ high ∧ high < 0xe000 then
      none
    else
      (characters? (low :: rest)).map (Char.ofNat high :: ·)
  | [unit] => if 0xd800 ≤ unit ∧ unit < 0xe000 then none else some [Char.ofNat unit]

/-- The text of units. Units that no text has stand for a number, which is as good as no text. -/
def textOf (units : Units) : Document :=
  match characters? units with
  | some cs => .text (String.ofList cs)
  | none => .number

/-- The units of a text after its opening quote, and what follows the closing one. -/
def units? : List Char → Option (Units × List Char)
  | '"' :: rest => some ([], rest)
  | '\\' :: 'u' :: a :: b :: c :: d :: rest => do
    let unit ← Text.hexValue? [a, b, c, d]
    let (units, rest) ← units? rest
    some (unit :: units, rest)
  | '\\' :: c :: rest => do
    let meaning ← shortEscape? c
    let (units, rest) ← units? rest
    some (meaning.toNat :: units, rest)
  | c :: rest =>
    if c.toNat < 0x20 ∨ c = '\\' then
      none
    else do
      let (units, rest) ← units? rest
      some (c.toNat :: units, rest)
  | [] => none

/-- Drops digits, of which there must be one. -/
def dropDigits? (cs : List Char) : Option (List Char) :=
  match cs with
  | [] => none
  | c :: rest => if c.isDigit then some (rest.dropWhile Char.isDigit) else none

/-- Drops the exponent of a number, if there is one. -/
def dropExponent? : List Char → Option (List Char)
  | [] => some []
  | c :: rest =>
    if c = 'e' ∨ c = 'E' then
      match rest with
      | '+' :: digits | '-' :: digits => dropDigits? digits
      | digits => dropDigits? digits
    else
      some (c :: rest)

/-- Drops a number. A leading zero stands alone before the point. -/
def dropNumber? (cs : List Char) : Option (List Char) := do
  let unsigned := match cs with
    | '-' :: rest => rest
    | _ => cs
  let rest ← match unsigned with
    | '0' :: rest => some rest
    | _ => dropDigits? unsigned
  let rest ← match rest with
    | '.' :: digits => dropDigits? digits
    | _ => some rest
  dropExponent? rest

def token? : List Char → Option (Token × List Char)
  | '[' :: rest => some (.openList, rest)
  | ']' :: rest => some (.closeList, rest)
  | '\x7b' :: rest => some (.openRecord, rest)
  | '\x7d' :: rest => some (.closeRecord, rest)
  | ',' :: rest => some (.comma, rest)
  | ':' :: rest => some (.colon, rest)
  | '"' :: rest => (units? rest).map fun (units, rest) => (.quoted (textOf units), rest)
  | 'n' :: 'u' :: 'l' :: 'l' :: rest => some (.literal .null, rest)
  | 't' :: 'r' :: 'u' :: 'e' :: rest => some (.literal (.bool true), rest)
  | 'f' :: 'a' :: 'l' :: 's' :: 'e' :: rest => some (.literal (.bool false), rest)
  | cs => (dropNumber? cs).map fun rest => (.literal .number, rest)

/-- The tokens of a text of at most `fuel` characters. -/
def tokensWithin? : (fuel : Nat) → List Char → Option (List Token)
  | 0, cs => if (cs.dropWhile isSpace).isEmpty then some [] else none
  | fuel + 1, cs =>
    match cs.dropWhile isSpace with
    | [] => some []
    | rest => do
      let (token, rest) ← token? rest
      return token :: (← tokensWithin? fuel rest)

/-- The tokens of a text; every token takes a character at least. -/
def tokens? (text : String) : Option (List Token) :=
  tokensWithin? text.length text.toList

mutual

/-- A value and the tokens after it. Each step takes a token, so the number of tokens is fuel
enough. -/
def value? : (fuel : Nat) → List Token → Option (Document × List Token)
  | 0, _ => none
  | _ + 1, .quoted value :: rest | _ + 1, .literal value :: rest => some (value, rest)
  | _ + 1, .openList :: .closeList :: rest => some (.list [], rest)
  | fuel + 1, .openList :: rest => do
    let (items, rest) ← items? fuel rest
    some (.list items, rest)
  | _ + 1, .openRecord :: .closeRecord :: rest => some (.record [], rest)
  | fuel + 1, .openRecord :: rest => do
    let (fields, rest) ← fields? fuel rest
    some (.record fields, rest)
  | _ + 1, _ => none

def items? : (fuel : Nat) → List Token → Option (List Document × List Token)
  | 0, _ => none
  | fuel + 1, tokens => do
    match ← value? fuel tokens with
    | (item, .closeList :: rest) => some ([item], rest)
    | (item, .comma :: rest) =>
      let (items, rest) ← items? fuel rest
      some (item :: items, rest)
    | _ => none

/-- The fields of a record that is not empty, up to its end. Whether a key is a text is seen when
the field is looked up. -/
def fields? : (fuel : Nat) → List Token → Option (List (Document × Document) × List Token)
  | fuel + 1, .quoted key :: .colon :: tokens => do
    match ← value? fuel tokens with
    | (value, .closeRecord :: rest) => some ([(key, value)], rest)
    | (value, .comma :: rest) =>
      let (fields, rest) ← fields? fuel rest
      some ((key, value) :: fields, rest)
    | _ => none
  | _, _ => none

end

/-- How values in JSON are read: a list may stand for a record. -/
def source : Source :=
  ⟨true, false, []⟩

def read? (text : String) : Option (Source × Document) := do
  let tokens ← tokens? text
  match ← value? (2 * tokens.length + 1) tokens with
  | (document, []) => some (source, document)
  | _ => none

end Wiring.Json
