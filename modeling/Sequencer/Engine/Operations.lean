import Sequencer.Engine.Loop

/-!
# What a host can do with an engine

Start a run, tick, stop, redirect, enable and disable commands, and edit the sequence while no run is in
flight. What is refused leaves the engine as it is.
-/

namespace Sequencer

variable {σ ν : Type} [Behaviour σ ν]

inductive Launch where
  | started
  | rejected
  | labelNotFound
deriving DecidableEq

/-- The outcome of a call that runs commands. -/
inductive Outcome (α : Type) where
  | value (value : α)
  | failed (error : EngineError)
  | outOfFuel
deriving DecidableEq

/-- The value of a call whose run has settled. -/
def Verdict.outcome {α : Type} (value : α) : Verdict → Outcome α
  | .settled => .value value
  | .failed error => .failed error
  | .outOfFuel => .outOfFuel

namespace Machine

/-! ## Runs -/

/-- Starts a run at `start`, unless one is in flight. -/
def execute (m : Machine σ ν) (fuel start : Nat) (onComplete : Option (HostProgram ν Unit)) :
    Outcome Launch × Machine σ ν :=
  if m.engine.isExecuting then
    (.value .rejected, m.report (.runIgnored m.engine.name start m.engine.active))
  else
    let (verdict, m) := m.startRun fuel start onComplete
    (verdict.outcome .started, m)

def refreshIfIdle (m : Machine σ ν) : Machine σ ν :=
  if m.engine.sequence.needsRefresh && !m.engine.isExecuting then
    m.setSequence m.engine.sequence.refresh
  else m

/-- Starts a run at the first label with the key. -/
def executeLabel (m : Machine σ ν) (fuel : Nat) (key : String)
    (onComplete : Option (HostProgram ν Unit)) : Outcome Launch × Machine σ ν :=
  let m := m.refreshIfIdle
  match m.engine.findLabel? key with
  | none => (.value .labelNotFound, m.report (.startLabelMissing m.engine.name key))
  | some start => m.execute fuel start onComplete

/-- Polls the suspended command, unless it has signalled, and resumes the loop. -/
def tick (m : Machine σ ν) (fuel : Nat) : Verdict × Machine σ ν :=
  if m.engine.isExecuting && !m.engine.isFaulted then
    let run := m.engine.runCount
    match m.register.pending, m.engine.active, m.register.armed with
    | none, some index, some ticket => proceed (drive fuel) run (m.callTick index ticket)
    | _, _, _ => drive fuel run m
  else (.settled, m)

/-- Ticks until the first failure. -/
def ticks (m : Machine σ ν) (fuel : Nat) : (count : Nat) → Verdict × Machine σ ν
  | 0 => (.settled, m)
  | count + 1 =>
    match m.tick fuel with
    | (.settled, m) => m.ticks fuel count
    | ended => ended

/-- The active command is interrupted, unless it has signalled; a fault is resolved. -/
def jumpTo (m : Machine σ ν) (run : Run ν) (index : Nat) : Machine σ ν :=
  let m := match m.register.pending, run.active with
    | none, some active => m.interrupt active
    | _, _ => m
  let m := m.setRun (m.engine.run.map fun run => { run with faulted := false })
  m.setRegister (m.register.force (.to index))

/-- Moves the run in flight to `index`; behind the last command it ends normally. -/
def redirect (m : Machine σ ν) (fuel index : Nat) : Outcome Unit × Machine σ ν :=
  match m.engine.run with
  | none => (.failed (.notExecuting m.engine.name), m)
  | some run =>
    let len := m.engine.sequence.len
    if len < index then (.failed (.indexOutOfRange index len), m)
    else
      let m := m.jumpTo run index
      let (verdict, m) := drive fuel m.engine.runCount m
      (verdict.outcome (), m)

/-- Moves the run in flight to a label and says where that is. -/
def redirectToLabel (m : Machine σ ν) (fuel : Nat) (key : String) :
    Outcome (Option Nat) × Machine σ ν :=
  match m.engine.findLabel? key with
  | none => (.value none, m.report (.redirectLabelMissing m.engine.name key))
  | some target =>
    match m.redirect fuel target with
    | (.value (), m) => (.value (some target), m)
    | (.failed error, m) => (.failed error, m)
    | (.outOfFuel, m) => (.outOfFuel, m)

/-! ## Commands and edits -/

/-- The skip rule reads the flag when the run gets there. -/
def setEnabled (m : Machine σ ν) (index : Nat) (enabled : Bool) :
    Except EngineError Unit × Machine σ ν :=
  match m.engine.sequence.setEnabled index enabled with
  | (true, sequence) => (.ok (), m.setSequence sequence)
  | (false, _) => (.error (.indexOutOfRange index m.engine.sequence.len), m)

/-- The sequence for editing, while no run is in flight. -/
def editable (m : Machine σ ν) : Except EngineError (Sequence σ) :=
  if m.engine.isExecuting then .error (.busy m.engine.name) else .ok m.engine.sequence

/-- Edits the sequence, while no run is in flight. -/
def edit (m : Machine σ ν) (edit : Edit σ) : Except EngineError (EditReply σ) × Machine σ ν :=
  match m.editable with
  | .error error => (.error error, m)
  | .ok sequence =>
    let (reply, sequence) := edit.apply sequence
    (.ok reply, m.setSequence sequence)

end Machine

end Sequencer
