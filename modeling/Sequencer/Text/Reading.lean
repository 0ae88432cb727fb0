/-!
# Reading text

Readers take what they want from the front of a text and leave the rest.
-/

namespace Sequencer.Text

/-- A value and the rest of the text, or nothing. -/
abbrev Reader (α : Type) := List Char → Option (α × List Char)

/-- Drops `expected` from the front. -/
def expect? : (expected : List Char) → List Char → Option (List Char)
  | [], rest => some rest
  | _ :: _, [] => none
  | e :: expected, c :: rest => if c = e then expect? expected rest else none

/-- The longest front of characters that satisfy `p`. -/
def readWhile (p : Char → Bool) (cs : List Char) : List Char × List Char :=
  (cs.takeWhile p, cs.dropWhile p)

/-! ## Digits -/

def isDigit (c : Char) : Bool := '0' ≤ c && c ≤ '9'

def hexDigit? (c : Char) : Option Nat :=
  if '0' ≤ c ∧ c ≤ '9' then some (c.toNat - '0'.toNat)
  else if 'a' ≤ c ∧ c ≤ 'f' then some (c.toNat - 'a'.toNat + 10)
  else if 'A' ≤ c ∧ c ≤ 'F' then some (c.toNat - 'A'.toNat + 10)
  else none

/-- The number that digits of the given base stand for, the highest first. -/
def ofDigits (base : Nat) (digits : List Nat) : Nat := digits.foldl (fun n d => base * n + d) 0

/-- The number that decimal digits stand for. -/
def decimal (cs : List Char) : Nat := ofDigits 10 (cs.map fun c => c.toNat - '0'.toNat)

/-- The number that hexadecimal digits stand for, if there are no others among them. -/
def hexadecimal? (cs : List Char) : Option Nat := (cs.mapM hexDigit?).map (ofDigits 16)

/-- The character with that code point, if it is one. -/
def char? (code : Nat) : Option Char := if code.isValidChar then some (Char.ofNat code) else none

end Sequencer.Text
