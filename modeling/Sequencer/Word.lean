/-!
# Words

Whole numbers within 64 bits, with and without a sign.
-/

namespace Sequencer.Word

/-- The first number with more than 64 bits. -/
def limit : Nat := Nat.pow 2 64

/-- The first number that is too large with a sign. -/
def signedLimit : Nat := Nat.pow 2 63

def unsigned? (n : Nat) : Option Nat := if n < limit then some n else none

/-- A negative number may be one further from zero than a positive one. -/
def signed? (negative : Bool) (n : Nat) : Option Int :=
  if negative then if n ≤ signedLimit then some (-(n : Int)) else none
  else if n < signedLimit then some n else none

end Sequencer.Word
