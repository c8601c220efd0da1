import Wiring.Text.Hex

/-!
Numbers, dates and texts of TOML. Nothing asks for the value of a number or of a date, so they are
only recognised.
-/

namespace Wiring.Toml

/-- Digits that single underscores may separate, and what follows them. -/
def digits? (p : Char → Bool) : List Char → Option (List Char × List Char)
  | [] => none
  | c :: cs =>
    if p c then
      match cs with
      | '_' :: d :: rest =>
        if p d then (digits? p (d :: rest)).map fun (ds, rest) => (c :: ds, rest)
        else none
      | d :: rest =>
        if p d then (digits? p (d :: rest)).map fun (ds, rest) => (c :: ds, rest)
        else some ([c], d :: rest)
      | [] => some ([c], [])
    else
      none

/-- The text without its sign, and whether the sign is a minus. -/
def unsigned : List Char → Bool × List Char
  | '-' :: cs => (true, cs)
  | '+' :: cs => (false, cs)
  | cs => (false, cs)

/-- Decimal digits without a leading zero, unless that is the only one. -/
def decimal? (cs : List Char) : Option (List Char × List Char) :=
  match digits? Char.isDigit cs with
  | some ('0' :: _ :: _, _) => none
  | found => found

/-- One more than the largest integer of 64 bits, and the distance of the smallest one from zero. -/
def integerBound : Nat := 0x8000000000000000

/-- The digits of a number in another base that an integer of 64 bits can hold. -/
def isBased (base : Nat) (cs : List Char) : Bool :=
  match digits? (fun c => (Text.hexDigit? c).any (· < base)) cs with
  | some (ds, []) =>
    ds.foldl (fun n c => base * n + (Text.hexDigit? c).getD 0) 0 < integerBound
  | _ => false

def isInteger (cs : List Char) : Bool :=
  match cs with
  | '0' :: 'x' :: ds => isBased 16 ds
  | '0' :: 'o' :: ds => isBased 8 ds
  | '0' :: 'b' :: ds => isBased 2 ds
  | _ =>
    let (negative, rest) := unsigned cs
    match decimal? rest with
    | some (ds, []) => Text.decimalValue ds < integerBound + if negative then 1 else 0
    | _ => false

/-- The exponent of a number, zero if there is none; nothing may follow it. -/
def exponent? : List Char → Option (Bool × Nat)
  | [] => some (false, 0)
  | c :: cs =>
    if c = 'e' ∨ c = 'E' then
      let (negative, rest) := unsigned cs
      match digits? Char.isDigit rest with
      | some (ds, []) => some (negative, Text.decimalValue ds)
      | _ => none
    else
      none

/-- The number is so large that no floating-point number of 64 bits is near it: it is at least
halfway from the largest one to the next power of two. -/
def isTooLarge (digits : List Char) (places : Nat) (exponent : Bool × Nat) : Bool :=
  let bound := Nat.pow 2 1024 - Nat.pow 2 970
  let mantissa := Text.decimalValue digits
  let down := places + if exponent.1 then exponent.2 else 0
  let up := if exponent.1 then 0 else exponent.2
  if mantissa = 0 then false
  else if down + 400 < up then true
  else if digits.length + up < down then false
  else bound * Nat.pow 10 (down - up) ≤ mantissa * Nat.pow 10 (up - down)

/-- A number with a fraction or an exponent, an infinity, or no number at all. -/
def isFloat (cs : List Char) : Bool :=
  let (negative, rest) := unsigned cs
  if rest = "inf".toList ∨ rest = "nan".toList then
    true
  else
    match decimal? rest with
    | some (_, []) | none => false
    | some (ds, '.' :: fraction) =>
      match digits? Char.isDigit fraction with
      | some (fs, rest) =>
        (exponent? rest).any fun e => negative || !isTooLarge (ds ++ fs) fs.length e
      | none => false
    | some (ds, rest) => (exponent? rest).any fun e => negative || !isTooLarge ds 0 e

/-- The value of exactly `count` digits, and what follows them. -/
def fixed? (count : Nat) (cs : List Char) : Option (Nat × List Char) :=
  let ds := cs.take count
  if ds.length = count && ds.all Char.isDigit then some (Text.decimalValue ds, cs.drop count)
  else none

def after? (c : Char) : List Char → Option (List Char)
  | [] => none
  | d :: cs => if d = c then some cs else none

def daysOf (year month : Nat) : Nat :=
  if month = 2 then
    if (year % 4 = 0 ∧ year % 100 ≠ 0) ∨ year % 400 = 0 then 29 else 28
  else if month = 4 ∨ month = 6 ∨ month = 9 ∨ month = 11 then 30
  else 31

def date? (cs : List Char) : Option (List Char) := do
  let (year, cs) ← fixed? 4 cs
  let (month, cs) ← fixed? 2 (← after? '-' cs)
  let (day, cs) ← fixed? 2 (← after? '-' cs)
  if 1 ≤ month ∧ month ≤ 12 ∧ 1 ≤ day ∧ day ≤ daysOf year month then some cs else none

/-- What follows a time of day. A minute may have a leap second. -/
def time? (cs : List Char) : Option (List Char) := do
  let (hour, cs) ← fixed? 2 cs
  let (minute, cs) ← fixed? 2 (← after? ':' cs)
  let (second, cs) ← fixed? 2 (← after? ':' cs)
  if 23 < hour ∨ 59 < minute ∨ 60 < second then none else
  match cs with
  | '.' :: fraction =>
    if (fraction.takeWhile Char.isDigit).isEmpty then none
    else some (fraction.dropWhile Char.isDigit)
  | _ => some cs

/-- Nothing, or the distance from universal time. -/
def isOffset (cs : List Char) : Bool :=
  match cs with
  | [] | ['Z'] | ['z'] => true
  | c :: rest =>
    (c == '+' || c == '-') && (do
      let (hour, rest) ← fixed? 2 rest
      let (minute, rest) ← fixed? 2 (← after? ':' rest)
      some (hour ≤ 23 && minute ≤ 59 && rest.isEmpty)).getD false

/-- A date, a time of day, or both. -/
def isDateTime (cs : List Char) : Bool :=
  match date? cs with
  | some [] => true
  | some (c :: rest) => (c == 'T' || c == 't' || c == ' ') && (time? rest).any isOffset
  | none => time? cs == some []

/-- The character may stand in a text or a comment: no control except the tab. -/
def isTextChar (c : Char) : Bool :=
  c = '\t' || (' ' ≤ c && c ≠ '\x7f')

def shortEscape? : Char → Option Char
  | 'b' => some '\x08'
  | 't' => some '\t'
  | 'n' => some '\n'
  | 'f' => some '\x0c'
  | 'r' => some '\r'
  | '"' => some '"'
  | '\\' => some '\\'
  | _ => none

/-- The character of an escape after its backslash, and what follows it. -/
def escape? : List Char → Option (Char × List Char)
  | [] => none
  | kind :: cs =>
    let count := if kind = 'u' then 4 else if kind = 'U' then 8 else 0
    if count = 0 then
      (shortEscape? kind).map fun c => (c, cs)
    else do
      let digits := cs.take count
      let value ← Text.hexValue? digits
      if digits.length = count && Text.isCodePoint value then
        some (Char.ofNat value, cs.drop count)
      else
        none

def newline? : List Char → Option (List Char)
  | '\n' :: cs | '\r' :: '\n' :: cs => some cs
  | _ => none

/-- A text in single quotes after the opening one, and what follows the closing one. -/
def literal? : List Char → Option (List Char × List Char)
  | [] => none
  | '\'' :: cs => some ([], cs)
  | c :: cs =>
    if isTextChar c then (literal? cs).map fun (text, rest) => (c :: text, rest) else none

/-- A text in double quotes after the opening one, and what follows the closing one. -/
def basic? : (fuel : Nat) → List Char → Option (List Char × List Char)
  | 0, _ | _, [] => none
  | _ + 1, '"' :: cs => some ([], cs)
  | fuel + 1, '\\' :: cs => do
    let (c, cs) ← escape? cs
    let (text, rest) ← basic? fuel cs
    some (c :: text, rest)
  | fuel + 1, c :: cs =>
    if isTextChar c then do
      let (text, rest) ← basic? fuel cs
      some (c :: text, rest)
    else
      none

def dropBreaks : List Char → List Char
  | ' ' :: cs | '\t' :: cs | '\n' :: cs | '\r' :: '\n' :: cs => dropBreaks cs
  | cs => cs

/-- What follows blanks and line breaks, the first of which must be on this line. -/
def afterFold? (cs : List Char) : Option (List Char) :=
  (newline? (cs.dropWhile fun c => c == ' ' || c == '\t')).map dropBreaks

/-- A text over several lines, and what follows the three quotes at its end. Up to two more quotes
before them belong to the text. In double quotes a backslash starts an escape or joins lines. -/
def lines? (quote : Char) : (fuel : Nat) → List Char → Option (List Char × List Char)
  | 0, _ | _, [] => none
  | fuel + 1, c :: cs =>
    if c = quote then
      let run := 1 + (cs.takeWhile (· == quote)).length
      if 3 ≤ run then
        some (List.replicate (min run 5 - 3) quote, (c :: cs).drop (min run 5))
      else do
        let (text, rest) ← lines? quote fuel cs
        some (c :: text, rest)
    else
      match newline? (c :: cs) with
      | some cs => do
        let (text, rest) ← lines? quote fuel cs
        some ('\n' :: text, rest)
      | none =>
        if c = '\\' ∧ quote = '"' then
          match afterFold? cs with
          | some cs => lines? quote fuel cs
          | none => do
            let (c, cs) ← escape? cs
            let (text, rest) ← lines? quote fuel cs
            some (c :: text, rest)
        else if isTextChar c then do
          let (text, rest) ← lines? quote fuel cs
          some (c :: text, rest)
        else
          none

/-- A text after its opening quotes, over several lines if there are three of them. A line break
right after these is dropped. -/
def text? (quote : Char) (cs : List Char) : Option (List Char × List Char) :=
  if cs.take 2 = [quote, quote] then
    let cs := cs.drop 2
    lines? quote cs.length ((newline? cs).getD cs)
  else if quote = '"' then basic? cs.length cs
  else literal? cs

end Wiring.Toml
