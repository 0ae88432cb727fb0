import Sequencer.Text.Blank

/-!
# Configuration

What can be set for engines, for the driver and for the diagnostic lines, with the defaults.
-/

namespace Sequencer

structure EngineConfig where
  /-- A command that fails is reported with its place. -/
  diagnostics : Bool := true
deriving DecidableEq

structure DriverConfig where
  /-- In milliseconds. -/
  tickInterval : Nat := 16
  maxTicks : Option Nat := none
deriving DecidableEq

structure LoggingConfig where
  filter : String := "info"
deriving DecidableEq

structure Config where
  engine : EngineConfig := {}
  driver : DriverConfig := {}
  logging : LoggingConfig := {}
deriving DecidableEq

/-- Whole seconds and the rest in nanoseconds. -/
def DriverConfig.interval (c : DriverConfig) : Nat × Nat :=
  (c.tickInterval / 1000, c.tickInterval % 1000 * 1000000)

/-! ## Errors -/

inductive ConfigProblem where
  | zeroInterval
  | blankFilter
deriving DecidableEq

def ConfigProblem.text : ConfigProblem → String
  | .zeroInterval => "driver.tick_interval_ms must be greater than zero"
  | .blankFilter => "logging.filter must not be empty"

inductive ConfigError where
  /-- A file or a value could not be read. -/
  | load
  | invalid (problem : ConfigProblem)
  /-- A number is too large for a file. -/
  | render
  /-- A count ran out of its range, and the program broke off. -/
  | overflow
deriving DecidableEq

def numberTooLarge : String := "out-of-range value for u64 type"

def ConfigError.message : ConfigError → String
  | .load => "failed to load configuration"
  | .invalid problem => "invalid configuration: " ++ problem.text
  | .render => "failed to render configuration: " ++ numberTooLarge
  | .overflow => "a count is out of range"

/-- What is behind an error, if it has a message of its own. -/
def ConfigError.cause? : ConfigError → Option String
  | .render => some numberTooLarge
  | _ => none

/-- What is wrong with a configuration; of two problems the interval comes first. -/
def Config.problem? (c : Config) : Option ConfigProblem :=
  if c.driver.tickInterval = 0 then some .zeroInterval
  else if Text.allBlank c.logging.filter then some .blankFilter
  else none

def Config.validate (c : Config) : Except ConfigError Unit :=
  match c.problem? with
  | some problem => .error (.invalid problem)
  | none => .ok ()

end Sequencer
