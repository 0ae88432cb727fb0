import Sequencer.Decimal.Binary
import Sequencer.Text.Reading
import Sequencer.Word

/-!
# Reading numbers

Whole texts as whole numbers within bounds, and as binary numbers.
-/

namespace Sequencer

namespace Decimal

/-- Digits only, at least one. -/
def natural? (cs : List Char) : Option Nat :=
  if cs.isEmpty || !cs.all Text.isDigit then none else some (Text.decimal cs)

/-- A sign, and what is behind it. -/
def splitSign : List Char → Bool × List Char
  | '-' :: rest => (true, rest)
  | '+' :: rest => (false, rest)
  | cs => (false, cs)

/-- Digits with or without a sign, within 64 bits. -/
def signed64? (s : String) : Option Int := do
  let (negative, rest) := splitSign s.toList
  Word.signed? negative (← natural? rest)

/-- Digits with or without a plus, within 64 bits. -/
def unsigned64? (s : String) : Option Nat := do
  let cs := match s.toList with
    | '+' :: rest => rest
    | cs => cs
  Word.unsigned? (← natural? cs)

/-- The exponent behind its mark, or zero at the end of the text. -/
def exponent? : List Char → Option Int
  | [] => some 0
  | c :: rest =>
    if c = 'e' ∨ c = 'E' then do
      let (negative, rest) := splitSign rest
      let n ← natural? rest
      some (if negative then -(n : Int) else n)
    else none

/-- Digits with an optional point among them or at an end, and an optional exponent. -/
def unsigned? (negative : Bool) (cs : List Char) : Option Decimal := do
  let (whole, rest) := Text.readWhile Text.isDigit cs
  let (fraction, rest) := match rest with
    | '.' :: rest => Text.readWhile Text.isDigit rest
    | rest => ([], rest)
  if whole.isEmpty && fraction.isEmpty then none
  let exponent ← exponent? rest
  some ⟨negative, Text.decimal (whole ++ fraction), exponent - fraction.length⟩

end Decimal

/-- A decimal number, an infinity or the word for no number, in any case. -/
def Binary.ofText? (s : String) : Option Binary :=
  let (negative, rest) := Decimal.splitSign s.toList
  let word := String.ofList (rest.map Char.toLower)
  if word = "inf" ∨ word = "infinity" then some (.infinite negative)
  else if word = "nan" then some .nan
  else (Decimal.unsigned? negative rest).map .ofDecimal

end Sequencer
