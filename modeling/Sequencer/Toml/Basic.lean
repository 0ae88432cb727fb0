import Sequencer.Decimal.Binary

/-!
# TOML values

Tables keep their keys in order, each key once.
-/

namespace Sequencer

inductive Toml where
  | text (value : String)
  | integer (value : Int)
  | float (value : Binary)
  | bool (value : Bool)
  /-- A date, a time or both, as it is written. -/
  | moment (literal : String)
  | list (items : List Toml)
  | table (entries : List (String × Toml))

end Sequencer
