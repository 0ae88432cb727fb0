import Sequencer.Register
import Sequencer.Text.Quoted

/-!
# Identity, places, errors and notices

What engines tell the outside apart from their results: who they are, where something went wrong, and the
diagnostic lines along the way.
-/

namespace Sequencer

/-- Who an engine is, for listeners. -/
structure EngineRef where
  id : EngineId
  name : String
deriving DecidableEq

/-- A place in an engine's sequence. -/
structure Location where
  engine : String
  index : Nat
  command : String
deriving DecidableEq

def Location.toText (l : Location) : String := s!"{l.engine}:{l.index}:{l.command}"

/-! ## Errors -/

/-- What a hook reports when it fails. -/
inductive CommandError where
  | failed (message : String)
  /-- An error of the host's own; its outermost message is all that shows. -/
  | other (message : String)
deriving DecidableEq

def CommandError.message : CommandError → String
  | .failed message => message
  | .other message => message

inductive EngineError where
  | commandFailed (location : Location) (source : CommandError)
  | busy (engine : String)
  | indexOutOfRange (index len : Nat)
  | notExecuting (engine : String)
deriving DecidableEq

def EngineError.message : EngineError → String
  | .commandFailed location _ => s!"command failed at {location.toText}"
  | .busy engine => s!"sequence '{engine}' is executing; structural edits must wait until it is idle"
  | .indexOutOfRange index len => s!"index {index} is out of range for a sequence of {len} commands"
  | .notExecuting engine => s!"sequence '{engine}' is not executing"

/-! ## Notices -/

inductive Level where
  | error
  | warn
  | info
  | debug
deriving DecidableEq

def Level.name : Level → String
  | .error => "ERROR"
  | .warn => "WARN"
  | .info => "INFO"
  | .debug => "DEBUG"

/-- The part of the program that speaks. -/
inductive Speaker where
  | engine
  | runLoop
  | command
  | driver
  | listener
  | host
deriving DecidableEq

inductive Notice where
  | runIgnored (engine : String) (start : Nat) (active : Option Nat)
  | runStarted (engine : String) (run start : Nat)
  | hookStarted (engine : String) (index : Nat) (command : String)
  | stopRequested (engine : String) (index : Nat)
  | restartRequested (engine : String) (index start : Nat)
  | commandFailed (location : Location) (error : CommandError)
  | runEnded (engine : String) (run : Nat)
  | startLabelMissing (engine label : String)
  | redirectLabelMissing (engine label : String)
  | gotoLabelMissing (label : String) (index : Nat)
  | drivingFaulted (engine : String) (ticks : Nat)
  | budgetExhausted (engine : String) (ticks : Nat)
  | drivingFinished (engine : String) (ticks : Nat)
  | sequenceStarted (engine : EngineRef)
  | sequenceEnded (engine : EngineRef)
  | commandExecuting (engine command : String) (index total : Nat)
  | lineSpoken (line : String) (index indent : Nat)
  | demoFinished (ticks : Nat) (completed : Bool)
deriving DecidableEq

/-- A value in a notice: bare text, a text that may be quoted, or an identifier. -/
inductive FieldValue where
  | bare (text : String)
  | text (value : String)
  | ident (id : Uuid)

namespace Notice

def level : Notice → Level
  | .runIgnored .. | .startLabelMissing .. | .redirectLabelMissing .. | .gotoLabelMissing ..
  | .drivingFaulted .. | .budgetExhausted .. => .warn
  | .commandFailed .. => .error
  | .sequenceStarted .. | .sequenceEnded .. | .lineSpoken .. | .demoFinished .. => .info
  | .runStarted .. | .hookStarted .. | .stopRequested .. | .restartRequested .. | .runEnded ..
  | .drivingFinished .. | .commandExecuting .. => .debug

def speaker : Notice → Speaker
  | .startLabelMissing .. | .redirectLabelMissing .. => .engine
  | .runIgnored .. | .runStarted .. | .hookStarted .. | .stopRequested .. | .restartRequested ..
  | .commandFailed .. | .runEnded .. => .runLoop
  | .gotoLabelMissing .. => .command
  | .drivingFaulted .. | .budgetExhausted .. | .drivingFinished .. => .driver
  | .sequenceStarted .. | .sequenceEnded .. | .commandExecuting .. => .listener
  | .lineSpoken .. | .demoFinished .. => .host

def message : Notice → String
  | .runIgnored .. => "sequence is already executing; run request ignored"
  | .runStarted .. => "run started"
  | .hookStarted .. => "execute"
  | .stopRequested .. => "stop requested by command"
  | .restartRequested .. => "restart requested by command"
  | .commandFailed .. => "command failed"
  | .runEnded .. => "run ended"
  | .startLabelMissing .. => "label not found; run not started"
  | .redirectLabelMissing .. => "label not found; run not redirected"
  | .gotoLabelMissing .. => "label not found"
  | .drivingFaulted .. => "engine is faulted; driver giving up"
  | .budgetExhausted .. => "tick budget exhausted; run still executing"
  | .drivingFinished .. => "driver finished"
  | .sequenceStarted .. => "sequence started"
  | .sequenceEnded .. => "sequence ended"
  | .commandExecuting .. => "executing command"
  | .lineSpoken line .. => line
  | .demoFinished .. => "demo finished"

def number (n : Nat) : FieldValue := .bare (toString n)

def position : Option Nat → FieldValue
  | none => .bare "None"
  | some i => .bare s!"Some({i})"

def fields : Notice → List (String × FieldValue)
  | .runIgnored engine start active =>
    [("engine", .bare engine), ("start", number start), ("active", position active)]
  | .runStarted engine run start =>
    [("engine", .bare engine), ("run", number run), ("start", number start)]
  | .hookStarted engine index command =>
    [("engine", .bare engine), ("index", number index), ("command", .text command)]
  | .stopRequested engine index => [("engine", .bare engine), ("index", number index)]
  | .restartRequested engine index start =>
    [("engine", .bare engine), ("index", number index), ("at", number start)]
  | .commandFailed location error =>
    [("location", .bare location.toText), ("error", .bare error.message)]
  | .runEnded engine run => [("engine", .bare engine), ("run", number run)]
  | .startLabelMissing engine label | .redirectLabelMissing engine label =>
    [("engine", .bare engine), ("label", .text label)]
  | .gotoLabelMissing label index => [("label", .bare label), ("index", number index)]
  | .drivingFaulted engine ticks | .budgetExhausted engine ticks | .drivingFinished engine ticks =>
    [("engine", .text engine), ("ticks", number ticks)]
  | .sequenceStarted engine | .sequenceEnded engine =>
    [("engine", .bare engine.name), ("id", .ident engine.id)]
  | .commandExecuting engine command index total =>
    [("engine", .bare engine), ("command", .text command), ("index", number index),
      ("total", number total)]
  | .lineSpoken _ index indent => [("index", number index), ("indent", number indent)]
  | .demoFinished ticks completed =>
    [("ticks", number ticks), ("completed", .bare (toString completed))]

end Notice

end Sequencer
