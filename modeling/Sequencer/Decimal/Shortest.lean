import Sequencer.Decimal.Binary

/-!
# Shortest decimal text

Binary numbers are written with the fewest digits that read back as the same number, of several such the
nearest, and never with an exponent.
-/

namespace Sequencer.Binary

/-! ## Which digits -/

/-- Compares `a * 10 ^ i` with `b * 2 ^ j`. -/
def compareScaled (a : Nat) (i : Int) (b : Nat) (j : Int) : Ordering :=
  compare (a * Nat.pow 10 i.toNat * Nat.pow 2 (-j).toNat) (b * Nat.pow 2 j.toNat * Nat.pow 10 (-i).toNat)

/--
Whether `digits * 10 ^ exponent` lies among the numbers that round to `mantissa * 2 ^ binary`: at most
half way to either neighbour, and half way only if the mantissa is even. Below a power of two the
neighbour is half as far away.
-/
def readsBack (mantissa : Nat) (binary : Int) (digits : Nat) (exponent : Int) : Bool :=
  let narrow := mantissa = Nat.pow 2 (mantissaBits - 1) ∧ minExponent < binary
  let low := if narrow then 4 * mantissa - 1 else 4 * mantissa - 2
  let high := 4 * mantissa + 2
  let even := mantissa % 2 = 0
  let below := compareScaled digits exponent low (binary - 2)
  let above := compareScaled digits exponent high (binary - 2)
  (below = .gt || (even && below = .eq)) && (above = .lt || (even && above = .eq))

/-- The least power of ten above the number, found from an estimate that is at most too low. -/
def magnitude (mantissa : Nat) (binary : Int) : Int :=
  let estimate := (((mantissa.log2 : Int) + binary) * 30103).fdiv 100000
  if compareScaled 1 estimate mantissa binary = .gt then estimate
  else if compareScaled 1 (estimate + 1) mantissa binary = .gt then estimate + 1
  else estimate + 2

/-- The point of the grid `10 ^ exponent` that is nearest and reads back, half way the higher one. -/
def onGrid? (mantissa : Nat) (binary exponent : Int) : Option Nat :=
  let num := mantissa * Nat.pow 2 binary.toNat * Nat.pow 10 (-exponent).toNat
  let den := Nat.pow 2 (-binary).toNat * Nat.pow 10 exponent.toNat
  let floor := num / den
  let candidates :=
    if 2 * (num % den) < den then [floor, floor + 1] else [floor + 1, floor]
  candidates.find? fun digits => readsBack mantissa binary digits exponent

/-- Digits and exponent of a number that is not zero. Seventeen digits always suffice. -/
def shortest (mantissa : Nat) (binary : Int) : Nat × Int :=
  let top := magnitude mantissa binary
  let grids := (List.range 17).map fun (n : Nat) => top - 1 - (n : Int)
  let found := grids.findSome? fun exponent =>
    (onGrid? mantissa binary exponent).map fun digits => (digits, exponent)
  found.getD (mantissa * Nat.pow 5 (-binary).toNat * Nat.pow 2 binary.toNat, min binary 0)

/-! ## How they are written -/

/-- The digits of `digits * 10 ^ exponent`, with a point only if there is something but zeros behind it. -/
def positional (digits : Nat) (exponent : Int) : String :=
  let text := Nat.toDigits 10 digits
  if 0 ≤ exponent then String.ofList (text ++ List.replicate exponent.toNat '0')
  else
    let places := (-exponent).toNat
    let padded := List.replicate (places + 1 - text.length) '0' ++ text
    let whole := padded.take (padded.length - places)
    let fraction := padded.drop (padded.length - places)
    let fraction := (fraction.reverse.dropWhile (· = '0')).reverse
    if fraction.isEmpty then String.ofList whole else String.ofList (whole ++ '.' :: fraction)

def sign (negative : Bool) : String := if negative then "-" else ""

def toText : Binary → String
  | .nan => "NaN"
  | .infinite negative => sign negative ++ "inf"
  | .finite negative 0 _ => sign negative ++ "0"
  | .finite negative mantissa exponent =>
    let (digits, power) := shortest mantissa exponent
    sign negative ++ positional digits power

end Sequencer.Binary
