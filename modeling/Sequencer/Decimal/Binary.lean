/-!
# Binary numbers of 53 bits

Numbers that are a whole number of at most 53 bits times a power of two, with the infinities and the
value that is no number. A decimal becomes the nearest of them.
-/

namespace Sequencer

/-- The number `digits * 10 ^ exponent`. -/
structure Decimal where
  negative : Bool
  digits : Nat
  exponent : Int
deriving DecidableEq

inductive Binary where
  /-- The number `mantissa * 2 ^ exponent`. -/
  | finite (negative : Bool) (mantissa : Nat) (exponent : Int)
  | infinite (negative : Bool)
  | nan
deriving DecidableEq

namespace Binary

def mantissaBits : Nat := 53

/-- The exponent of the smallest numbers. -/
def minExponent : Int := -1074

/-- The first exponent at which 53 bits are too large. -/
def overflowExponent : Int := 972

/-! ## Rounding -/

/-- The quotient rounded to the nearest whole number, a half to the even one. -/
def divideRound (num den : Nat) : Nat :=
  let quotient := num / den
  let twice := 2 * (num % den)
  if twice < den then quotient
  else if den < twice then quotient + 1
  else if quotient % 2 = 0 then quotient else quotient + 1

/-- The quotient `num / (den * 2 ^ exponent)` as a pair of whole numbers. -/
def scale (num den : Nat) (exponent : Int) : Nat × Nat :=
  (num * Nat.pow 2 (-exponent).toNat, den * Nat.pow 2 exponent.toNat)

/-- The exponent at which the quotient has 53 bits before the point, or the least there is. -/
def exponentOf (num den : Nat) : Int :=
  let estimate := max ((num.log2 : Int) - (den.log2 : Int) - (mantissaBits : Int)) minExponent
  let (n, d) := scale num den estimate
  if n / d < Nat.pow 2 mantissaBits then estimate else estimate + 1

/-- The number nearest to `num / den`, with a sign. -/
def ofQuotient (negative : Bool) (num den : Nat) : Binary :=
  let exponent := exponentOf num den
  let (n, d) := scale num den exponent
  let mantissa := divideRound n d
  let (mantissa, exponent) :=
    if mantissa = Nat.pow 2 mantissaBits then (Nat.pow 2 (mantissaBits - 1), exponent + 1)
    else (mantissa, exponent)
  if overflowExponent ≤ exponent then .infinite negative else .finite negative mantissa exponent

/-- Beyond this power of ten every number is too large, and below its inverse every number rounds to zero. -/
def decimalLimit : Int := 400

/-- The number nearest to a decimal. -/
def ofDecimal (d : Decimal) : Binary :=
  let magnitude := ((Nat.toDigits 10 d.digits).length : Int) + d.exponent
  if d.digits = 0 then .finite d.negative 0 minExponent
  else if decimalLimit < magnitude then .infinite d.negative
  else if magnitude < -decimalLimit then .finite d.negative 0 minExponent
  else ofQuotient d.negative (d.digits * Nat.pow 10 d.exponent.toNat) (Nat.pow 10 (-d.exponent).toNat)

/-! ## Whole numbers -/

/-- Whether the number is zero; what is no number is not. -/
def isZero : Binary → Bool
  | .finite _ mantissa _ => mantissa == 0
  | .infinite _ | .nan => false

/-- The nearest whole number from zero to `limit`, a half away from zero. What is no number counts as zero. -/
def toNatClamped (limit : Nat) : Binary → Nat
  | .finite true _ _ | .infinite true | .nan => 0
  | .infinite false => limit
  | .finite false mantissa exponent =>
    let n := mantissa * Nat.pow 2 exponent.toNat
    let d := Nat.pow 2 (-exponent).toNat
    min limit ((2 * n + d) / (2 * d))

end Binary

end Sequencer
