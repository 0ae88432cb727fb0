import Sequencer.Config.Basic
import Sequencer.Toml.Text
import Sequencer.Word

/-!
# Writing a configuration

The settings as a TOML file: one table after the other, with a blank line between them.
-/

namespace Sequencer

namespace Config

def line (key : String) (value : List Char) : List Char := key.toList ++ " = ".toList ++ value ++ ['\n']

/-- Integers in a file have a sign. -/
def number? (n : Nat) : Option (List Char) :=
  if n < Word.signedLimit then some (Nat.toDigits 10 n) else none

/-- A budget is written only if there is one. -/
def budget? : Option Nat → Option (List Char)
  | none => some []
  | some n => (number? n).map (line "max_ticks")

def toToml? (c : Config) : Option (List Char) := do
  let interval ← number? c.driver.tickInterval
  let budget ← budget? c.driver.maxTicks
  some ("[engine]\n".toList ++ line "diagnostics" (toString c.engine.diagnostics).toList ++
    "\n[driver]\n".toList ++ line "tick_interval_ms" interval ++ budget ++
    "\n[logging]\n".toList ++ line "filter" (Toml.writeText c.logging.filter.toList))

/-- Numbers are looked at first, then the quotes in the filter. -/
def toToml (c : Config) : Except ConfigError String :=
  match c.toToml? with
  | none => .error .render
  | some cs =>
    if Toml.isCountable c.logging.filter.toList then .ok (String.ofList cs) else .error .overflow

end Config

end Sequencer
