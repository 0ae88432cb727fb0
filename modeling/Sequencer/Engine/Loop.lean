import Sequencer.Engine.Machine

/-!
# The run loop

Take the pending jump, pass over what is skipped, activate the command there, and so on until a command
suspends, the sequence is exhausted, or the run is over or superseded. The loop has no bound of its own,
so it runs on fuel, and running out of it is an outcome apart.
-/

namespace Sequencer

variable {σ ν : Type} [Behaviour σ ν]

/-- How a call into an engine came back. -/
inductive Verdict where
  | settled
  | failed (error : EngineError)
  | outOfFuel
deriving DecidableEq

namespace Machine

/--
What comes after a hook that the loop of `run` called: an error ends the call, a restart plays its run
first, and then the loop goes on.
-/
@[inline]
def proceed (loop : Nat → Machine σ ν → Verdict × Machine σ ν) (run : Nat) :
    HookEnd × Machine σ ν → Verdict × Machine σ ν
  | (.settled, m) => loop run m
  | (.failed error, m) => (.failed error, m)
  | (.restart start, m) =>
    let m := m.beginRun start none
    match loop m.engine.runCount m with
    | (.settled, m) => loop run m
    | ended => ended

/-- The loop of run number `run`, which leaves every other run alone. -/
def drive : (fuel : Nat) → (run : Nat) → Machine σ ν → Verdict × Machine σ ν
  | 0, _, m => (.outOfFuel, m)
  | fuel + 1, run, m =>
    if m.engine.isExecuting && m.engine.runCount == run then
      match m.takeJump with
      | (none, m) => (.settled, m)
      | (some jump, m) =>
        let next := m.engine.sequence.nextRunnable jump.target
        let m := m.turn (.jumped m.engine.id run jump.target m.engine.sequence.outline next)
        match next with
        | none => (.settled, m.finish)
        | some index => proceed (drive fuel) run (m.activate index)
    else (.settled, m)

/-- Begins a run and enters the loop. -/
def startRun (m : Machine σ ν) (fuel start : Nat) (onComplete : Option (HostProgram ν Unit)) :
    Verdict × Machine σ ν :=
  let m := m.beginRun start onComplete
  drive fuel m.engine.runCount m

end Machine

end Sequencer
