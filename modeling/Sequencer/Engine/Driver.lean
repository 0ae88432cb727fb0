import Sequencer.Engine.Operations

/-!
# Driving an engine

Ticks an engine at a fixed interval until it is idle, gives up, or fails.
-/

namespace Sequencer

variable {σ ν : Type} [Behaviour σ ν]

structure DriveOutcome where
  ticks : Nat
  completed : Bool
deriving DecidableEq

/-- How a driven run came back. -/
inductive DriveEnd where
  | outcome (outcome : DriveOutcome)
  | failed (error : EngineError)
  | outOfFuel
  /-- There is no timer with an interval of zero. -/
  | noInterval
deriving DecidableEq

namespace Machine

/-- Whether the budget is used up; without a budget it never is. -/
def exhausted (maxTicks : Option Nat) (ticks : Nat) : Bool :=
  match maxTicks with
  | none => false
  | some limit => limit ≤ ticks

/-- Drives on after `ticks` ticks, for at most `rounds` more; each tick runs on `fuel`. -/
def driveOn (fuel : Nat) (maxTicks : Option Nat) :
    (rounds ticks : Nat) → Machine σ ν → DriveEnd × Machine σ ν
  | 0, _, m => (.outOfFuel, m)
  | rounds + 1, ticks, m =>
    if !m.engine.isExecuting then
      (.outcome ⟨ticks, true⟩, m.report (.drivingFinished m.engine.name ticks))
    else if m.engine.isFaulted then
      (.outcome ⟨ticks, false⟩, m.report (.drivingFaulted m.engine.name ticks))
    else if exhausted maxTicks ticks then
      (.outcome ⟨ticks, false⟩, m.report (.budgetExhausted m.engine.name ticks))
    else
      match m.tick fuel with
      | (.settled, m) => driveOn fuel maxTicks rounds (ticks + 1) m
      | (.failed error, m) => (.failed error, m)
      | (.outOfFuel, m) => (.outOfFuel, m)

def runUntilIdle (m : Machine σ ν) (fuel rounds interval : Nat) (maxTicks : Option Nat) :
    DriveEnd × Machine σ ν :=
  if interval = 0 then (.noInterval, m) else driveOn fuel maxTicks rounds 0 m

end Machine

end Sequencer
