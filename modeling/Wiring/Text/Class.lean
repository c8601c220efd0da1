import Wiring.Text.Alphabetic
import Wiring.Text.Extending
import Wiring.Text.Lowercase
import Wiring.Text.Numeric
import Wiring.Text.Unprintable
import Wiring.Text.Uppercase

/-!
Character classes over all of Unicode. Each class is membership in a table of ascending ranges, so
a question about one character is settled by evaluation.
-/

namespace Wiring.Text

/-- Membership in ascending closed ranges; the search stops at the first range that starts later. -/
def inRanges : List (Nat × Nat) → Nat → Bool
  | [], _ => false
  | (first, last) :: rest, n => first ≤ n && (n ≤ last || inRanges rest n)

def isAlphabetic (c : Char) : Bool :=
  inRanges alphabeticRanges c.toNat

/-- The character is a number of any kind: a digit, a letter number or another number. -/
def isNumeric (c : Char) : Bool :=
  inRanges numericRanges c.toNat

def isAlphanumeric (c : Char) : Bool :=
  isAlphabetic c || isNumeric c

def isUppercase (c : Char) : Bool :=
  inRanges uppercaseRanges c.toNat

/-- First and last code point of each run of the property White_Space. -/
def blankRanges : List (Nat × Nat) := [
  (0x9, 0xd), (0x20, 0x20), (0x85, 0x85), (0xa0, 0xa0), (0x1680, 0x1680), (0x2000, 0x200a),
  (0x2028, 0x2029), (0x202f, 0x202f), (0x205f, 0x205f), (0x3000, 0x3000)]

def isBlank (c : Char) : Bool :=
  inRanges blankRanges c.toNat

/-- The character can be shown as it is: it has a form of its own and does not attach to the
character before it. -/
def isShown (c : Char) : Bool :=
  !inRanges extendingRanges c.toNat && !inRanges unprintableRanges c.toNat

/-- The image of a code point under the first run that covers it, itself if none does. -/
def lowercaseIn : List LowercaseRun → Nat → Nat
  | [], n => n
  | run :: rest, n =>
    if run.first ≤ n ∧ n ≤ run.last ∧ (n - run.first) % run.step = 0 then
      run.image + (n - run.first)
    else
      lowercaseIn rest n

/-- The full lowercase mapping. Only the capital I with a dot above maps to two characters. -/
def lowercase (c : Char) : List Char :=
  if c.toNat = 0x130 then ['i', '\u0307'] else [Char.ofNat (lowercaseIn lowercaseRuns c.toNat)]

def startsUppercase (text : String) : Bool :=
  match text.toList with
  | [] => false
  | c :: _ => isUppercase c

end Wiring.Text
