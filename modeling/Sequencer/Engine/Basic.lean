import Sequencer.Command.Behaviour
import Sequencer.Sequence.Edit

/-!
# Engines

An engine walks its sequence one command at a time. What engines share with each other and with the host
stands apart from them: the switchboard, the history of events and the notices.
-/

namespace Sequencer

variable {σ ν : Type}

/-! ## What engines share -/

/-- Whom an engine tells about its runs. -/
inductive Listener where
  | recorder
  | reporter
deriving DecidableEq

inductive EngineState where
  | idle
  | executing
deriving DecidableEq

inductive Hook where
  | execute
  | tick
  | stop
deriving DecidableEq

/-- What happened, in the order in which it happened. -/
inductive Event (ν : Type) where
  | runStarted (engine : EngineRef)
  | runEnded (engine : EngineRef)
  | commandExecuting (engine : EngineRef) (command : String) (index total : Nat)
  | hookCalled (engine : EngineId) (hook : Hook) (index : Nat)
  | callbackFired (engine : EngineId) (run : Nat)
  | noted (value : ν)
deriving DecidableEq

/--
What decides which handles are armed, and what listeners hear. No operation looks back at its moments;
laws about whole histories speak of them.
-/
inductive Moment (ν : Type) where
  /-- A listener is told of the event. -/
  | told (event : Event ν)
  /-- A hook is called for the activation that has the ticket, and finds this switchboard. -/
  | called (engine : EngineId) (hook : Hook) (index : Nat) (ticket : Ticket) (board : Switchboard)
  /-- A hook of the activation that has the ticket has failed. -/
  | failed (engine : EngineId) (ticket : Ticket)
  /-- A signal has landed. -/
  | landed (handle : Handle)

/-- What a callback finds when it fires. -/
structure Finding (ν : Type) where
  state : EngineState
  listener : Option Listener
  board : Switchboard
  moments : List (Moment ν)

/-- What becomes of runs. No operation looks back at its turns either. -/
inductive Turn (ν : Type) where
  /-- A run begins, with what the host wants done when it reaches the end of the sequence. -/
  | began (engine : EngineId) (run : Nat) (onComplete : Option (HostProgram ν Unit))
  /--
  The loop of a run takes a jump to `target`, finds these entries (whether each is enabled, and its kind)
  and goes on at `next`. Without a `next` the run is at its end.
  -/
  | jumped (engine : EngineId) (run target : Nat) (outline : List (Bool × Kind)) (next : Option Nat)
  | aborted (engine : EngineId) (run : Nat)
  /-- The callback of a run fires. -/
  | completed (engine : EngineId) (run : Nat) (callback : HostProgram ν Unit) (found : Finding ν)

structure Shared (ν : Type) where
  board : Switchboard := {}
  /-- The latest first. -/
  events : List (Event ν) := []
  /-- The latest first. -/
  notices : List Notice := []
  /-- The latest first. -/
  moments : List (Moment ν) := []
  /-- The latest first. -/
  turns : List (Turn ν) := []

namespace Shared

def record (s : Shared ν) (event : Event ν) : Shared ν := { s with events := event :: s.events }

def report (s : Shared ν) (notice : Notice) : Shared ν := { s with notices := notice :: s.notices }

def mark (s : Shared ν) (moment : Moment ν) : Shared ν := { s with moments := moment :: s.moments }

def turn (s : Shared ν) (turn : Turn ν) : Shared ν := { s with turns := turn :: s.turns }

/-- Signals through a handle. -/
def signal (s : Shared ν) (handle : Handle) (target : Nat) : Bool × Shared ν :=
  let (landed, board) := s.board.signal handle target
  let s := { s with board }
  (landed, if landed then s.mark (.landed handle) else s)

/--
Fires the handle that is held under `name`. Without a target the run goes on behind the command that
the handle was issued to. No answer if there is no such handle.
-/
def fire (s : Shared ν) (name : String) (target : Option Nat) : Option Bool × Shared ν :=
  match s.board.handles.get? name with
  | none => (none, s)
  | some handle =>
    let (landed, s) := s.signal handle (target.getD (handle.index + 1))
    (some landed, s)

def answer : (question : HostQuestion ν) → Shared ν → question.Answer × Shared ν
  | .fire handle target, s => s.fire handle target
  | .armed handle, s => (s.board.armed? handle, s)
  | .note value, s => ((), s.record (.noted value))

/-- Runs code of the host. -/
def perform {α : Type} (s : Shared ν) (program : HostProgram ν α) : α × Shared ν :=
  program.run answer s

end Shared

/-! ## One engine -/

/-- A run in flight. -/
structure Run (ν : Type) where
  /-- Position of the command that is executing or suspended. -/
  active : Option Nat := none
  /-- A hook failed, and nothing has resolved that yet. -/
  faulted : Bool := false
  /-- What the host wants done when the run reaches the end of the sequence. -/
  onComplete : Option (HostProgram ν Unit) := none

structure Engine (σ ν : Type) where
  id : EngineId
  name : String
  sequence : Sequence σ
  run : Option (Run ν) := none
  /-- Number of runs so far, and of the run in flight. -/
  runCount : Nat := 0
  previousActive : Option Nat := none
  listener : Option Listener := none
  diagnostics : Bool := true

namespace Engine

/-- A fresh engine takes the sequence over. -/
def create (id : EngineId) (name : String) (sequence : Sequence σ) (listener : Option Listener)
    (diagnostics : Bool) : Engine σ ν :=
  { id, name, sequence := (sequence.adopt id).refresh, listener, diagnostics }

def isExecuting (e : Engine σ ν) : Bool := e.run.isSome

def state (e : Engine σ ν) : EngineState := if e.isExecuting then .executing else .idle

def isFaulted (e : Engine σ ν) : Bool := (e.run.map (·.faulted)).getD false

def active (e : Engine σ ν) : Option Nat := e.run.bind (·.active)

def ref (e : Engine σ ν) : EngineRef := ⟨e.id, e.name⟩

def findLabel? (e : Engine σ ν) (key : String) : Option Nat := e.sequence.findLabel? key

def locationOf (e : Engine σ ν) (index : Nat) : Option Location :=
  (e.sequence.get? index).map fun command => ⟨e.name, index, command.name⟩

end Engine

/-- What an engine shows of itself at one moment. -/
structure Snapshot where
  id : EngineId
  name : String
  state : EngineState
  active : Option Nat
  previousActive : Option Nat
  runCount : Nat
  total : Nat
deriving DecidableEq

def Engine.snapshot (e : Engine σ ν) : Snapshot where
  id := e.id
  name := e.name
  state := e.state
  active := e.active
  previousActive := e.previousActive
  runCount := e.runCount
  total := e.sequence.len

end Sequencer
