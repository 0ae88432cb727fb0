import Sequencer.Command.Cue
import Sequencer.Engine.Driver
import Sequencer.Config.Basic

/-!
# The demo

A small scene with a branch and two endings' worth of waiting, and a host that plays it.
-/

namespace Sequencer.Demo

def engineName : String := "demo"

def commands (brave : Bool) : List (Command Cue) :=
  [Cue.makeComment "opening",
    Cue.makeSay "The lantern flickers.",
    Cue.makeWait 0 2,
    Cue.makeLabel "choice",
    Cue.makeIf (.fixed brave),
    Cue.makeSay "You step into the dark.",
    Cue.makeGoto "ending",
    Cue.makeEnd,
    Cue.makeSay "You wait for morning.",
    Cue.makeWait 1 3,
    Cue.makeLabel "ending",
    Cue.makeSay "The End."]

def scene (brave : Bool) : Sequence Cue := .ofItems ((commands brave).map some)

/-- More steps than any call into the scene takes. -/
def fuel : Nat := 1000

inductive Failure where
  | noLabel (label : String)
  | engine (error : EngineError)
  | outOfFuel

def Failure.message : Failure → String
  | .noLabel label => s!"no label named '{label}' in the demo scene"
  | .engine error => error.message
  | .outOfFuel => "the scene did not come to rest"

abbrev Host := Machine Cue Note

/-- An engine with the scene, which reports its runs. -/
def host (id : EngineId) (config : Config) (brave : Bool) : Host :=
  ⟨.create id engineName (scene brave) (some .reporter) config.engine.diagnostics, {}⟩

/-- Drives a scene that has been started. -/
def drive (config : Config) (m : Host) : Except Failure Unit × Host :=
  match m.runUntilIdle fuel fuel config.driver.tickInterval config.driver.maxTicks with
  | (.outcome outcome, m) => (.ok (), m.report (.demoFinished outcome.ticks outcome.completed))
  | (.failed error, m) => (.error (.engine error), m)
  | (.outOfFuel, m) | (.noInterval, m) => (.error .outOfFuel, m)

/-- Starts the scene at a label or at its beginning, and drives it. -/
def play (id : EngineId) (config : Config) (brave : Bool) (label : Option String) :
    Except Failure Unit × Host :=
  let m := host id config brave
  let started := match label with
    | some key => m.executeLabel fuel key none
    | none => m.execute fuel 0 none
  match started with
  | (.value .labelNotFound, m) => (.error (.noLabel (label.getD "")), m)
  | (.value _, m) => drive config m
  | (.failed error, m) => (.error (.engine error), m)
  | (.outOfFuel, m) => (.error .outOfFuel, m)

end Sequencer.Demo
