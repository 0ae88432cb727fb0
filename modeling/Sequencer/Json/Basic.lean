/-!
# JSON values

Objects keep their members in order, and keys may repeat.
-/

namespace Sequencer

inductive Json where
  | null
  | bool (value : Bool)
  /-- A number without sign, fraction and exponent. -/
  | natural (value : Nat)
  /-- Any other number, as it is written. -/
  | number (literal : String)
  | text (value : String)
  /-- A string with half of a surrogate pair in it, which is no text, or an object with such a key. -/
  | broken
  | list (items : List Json)
  | object (members : List (String × Json))

end Sequencer
