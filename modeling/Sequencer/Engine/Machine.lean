import Sequencer.Engine.Basic

/-!
# Engines at work

An engine together with what it shares, and the single steps of a run: starting and ending it, activating
a command, calling its hooks.
-/

namespace Sequencer

variable {σ ν : Type}

structure Machine (σ ν : Type) where
  engine : Engine σ ν
  shared : Shared ν

namespace Machine

/-! ## Register, notices and listener -/

def register (m : Machine σ ν) : Register := m.shared.board.register m.engine.id

def setRegister (m : Machine σ ν) (r : Register) : Machine σ ν :=
  { m with shared := { m.shared with board := m.shared.board.setRegister m.engine.id r } }

def report (m : Machine σ ν) (notice : Notice) : Machine σ ν :=
  { m with shared := m.shared.report notice }

def record (m : Machine σ ν) (event : Event ν) : Machine σ ν :=
  { m with shared := m.shared.record event }

def mark (m : Machine σ ν) (moment : Moment ν) : Machine σ ν :=
  { m with shared := m.shared.mark moment }

def turn (m : Machine σ ν) (turn : Turn ν) : Machine σ ν :=
  { m with shared := m.shared.turn turn }

/-- Tells the listener, which records the event or reports it as a notice. -/
def tell (m : Machine σ ν) (event : Event ν) (notice : Notice) : Machine σ ν :=
  match m.engine.listener with
  | none => m
  | some .recorder => (m.mark (.told event)).record event
  | some .reporter => (m.mark (.told event)).report notice

/-- A hook of the command at `index` is about to be called. -/
def announce (m : Machine σ ν) (hook : Hook) (index : Nat) (ticket : Ticket) : Machine σ ν :=
  (m.record (.hookCalled m.engine.id hook index)).mark
    (.called m.engine.id hook index ticket m.shared.board)

def setRun (m : Machine σ ν) (run : Option (Run ν)) : Machine σ ν :=
  { m with engine := { m.engine with run } }

def setSequence (m : Machine σ ν) (sequence : Sequence σ) : Machine σ ν :=
  { m with engine := { m.engine with sequence } }

def setExecuting (m : Machine σ ν) (index : Nat) (executing : Bool) : Machine σ ν :=
  m.setSequence (m.engine.sequence.setExecuting index executing)

/-! ## Ending a run -/

def enterIdle (m : Machine σ ν) : Machine σ ν :=
  ((m.setRun none).report (.runEnded m.engine.name m.engine.runCount)).tell
    (.runEnded m.engine.ref) (.sequenceEnded m.engine.ref)

/-- Fires the callback of a run that is over. -/
def fireCallback (m : Machine σ ν) (callback : HostProgram ν Unit) : Machine σ ν :=
  let m := m.record (.callbackFired m.engine.id m.engine.runCount)
  let m := m.turn (.completed m.engine.id m.engine.runCount callback
    ⟨m.engine.state, m.engine.listener, m.shared.board, m.shared.moments⟩)
  { m with shared := (m.shared.perform callback).2 }

/-- The normal end of a run: the engine is idle before its callback fires. -/
def finish (m : Machine σ ν) : Machine σ ν :=
  match m.engine.run.bind (·.onComplete) with
  | none => m.enterIdle
  | some callback => m.enterIdle.fireCallback callback

/-- Calls the stop hook of the command at `index`, if there is one. -/
def callStopHook [Behaviour σ ν] (m : Machine σ ν) (index : Nat) : Machine σ ν :=
  match m.engine.sequence.entry? index with
  | none => m
  | some entry =>
    let (state, shared) := m.shared.perform (Behaviour.onStop entry.command.state)
    { m.setSequence (m.engine.sequence.setState index state) with shared }

/-- Takes the run away from the command at `index`. -/
def interrupt [Behaviour σ ν] (m : Machine σ ν) (index : Nat) : Machine σ ν :=
  if (m.engine.sequence.entry? index).isSome then
    (m.announce .stop index m.register.lastTicket).callStopHook index
  else m

/-- Aborts the run. The stop hook comes first; the callback is dropped. -/
def stop [Behaviour σ ν] (m : Machine σ ν) : Machine σ ν :=
  match m.engine.run with
  | none => m
  | some run =>
    let m := match run.active with
      | none => m
      | some index => (m.setExecuting index false).interrupt index
    ((m.setRegister (m.register.force .abort)).turn (.aborted m.engine.id m.engine.runCount)).enterIdle

/-! ## Starting a run -/

/-- Begins the next run of an idle engine; its first jump is pending. -/
def beginRun (m : Machine σ ν) (start : Nat) (onComplete : Option (HostProgram ν Unit)) : Machine σ ν :=
  let sequence := if m.engine.sequence.needsRefresh then m.engine.sequence.refresh else m.engine.sequence
  let engine := { m.engine with sequence, run := some { onComplete }, runCount := m.engine.runCount + 1 }
  let m := { m with engine }.turn (.began m.engine.id engine.runCount onComplete)
  let m := m.report (.runStarted m.engine.name engine.runCount start)
  let m := m.tell (.runStarted m.engine.ref) (.sequenceStarted m.engine.ref)
  m.setRegister (m.register.force (.to start))

/-! ## Calling a hook -/

/-- What a hook works on: what is shared, the handle of its activation, and the request so far. -/
structure HookFrame (ν : Type) where
  shared : Shared ν
  handle : Handle
  request : Option Request := none

namespace HookFrame

def answer : (question : HookQuestion ν) → HookFrame ν → question.Answer × HookFrame ν
  | .host question, f =>
    let (reply, shared) := f.shared.answer question
    (reply, { f with shared })
  | .signal target, f =>
    let (landed, shared) := f.shared.signal f.handle target
    (landed, { f with shared })
  | .hasSignalled, f => ((f.shared.board.register f.handle.engine).pending.isSome, f)
  | .hold name, f =>
    ((), { f with shared := { f.shared with board := f.shared.board.hold name f.handle } })
  | .request request, f => ((), { f with request := some request })
  | .report notice, f => ((), { f with shared := f.shared.report notice })

end HookFrame

/-- How a hook call left the engine. -/
inductive HookEnd where
  | settled
  | failed (error : EngineError)
  /-- The engine has been stopped and is to start again. -/
  | restart (start : Nat)

/-- The entry whose hook is to run, and what the hook sees. -/
def hookTarget? (m : Machine σ ν) (index : Nat) : Option (Entry σ × View) := do
  let s := m.engine.sequence
  let slot ← s.layout.slotOf index
  let entry ← (← s.slots[slot]?)
  some (entry, ⟨index, s.len, s.layout.labels, s.layout.blocks⟩)

/-- The engine stays unresolved: still executing, with the command that failed active. -/
def commandFailed (m : Machine σ ν) (index : Nat) (ticket : Ticket) (source : CommandError) :
    EngineError × Machine σ ν :=
  let m := m.setRun (m.engine.run.map fun run => { run with faulted := true })
  let m := (m.setRegister m.register.disarm).mark (.failed m.engine.id ticket)
  let location := (m.engine.locationOf index).getD ⟨m.engine.name, index, "<removed>"⟩
  let m := if m.engine.diagnostics then m.report (.commandFailed location source) else m
  (.commandFailed location source, m)

/-- Does what the hook of the command at `index` requested. -/
def obey [Behaviour σ ν] (m : Machine σ ν) (index : Nat) : Option Request → HookEnd × Machine σ ν
  | none => (.settled, m)
  | some .stop => (.settled, (m.report (.stopRequested m.engine.name index)).stop)
  | some (.restart start) =>
    (.restart start, (m.report (.restartRequested m.engine.name index start)).stop)

/-- Runs a hook of the command at `index`, which was activated with `ticket`. -/
def runHook (m : Machine σ ν) (index : Nat) (ticket : Ticket)
    (program : HookProgram ν (σ × Except CommandError Unit)) :
    Except CommandError Unit × Option Request × Machine σ ν :=
  let ((state, result), frame) :=
    program.run HookFrame.answer { shared := m.shared, handle := ⟨m.engine.id, ticket, index⟩ }
  (result, frame.request,
    { m.setSequence (m.engine.sequence.setState index state) with shared := frame.shared })

/-- A hook that fails faults the engine, and its request is void. -/
def settle [Behaviour σ ν] (index : Nat) (ticket : Ticket) :
    Except CommandError Unit × Option Request × Machine σ ν → HookEnd × Machine σ ν
  | (.error source, _, m) =>
    let (error, m) := m.commandFailed index ticket source
    (.failed error, m)
  | (.ok (), request, m) => m.obey index request

def callExecute [Behaviour σ ν] (m : Machine σ ν) (index : Nat) (ticket : Ticket) :
    HookEnd × Machine σ ν :=
  match m.hookTarget? index with
  | none => (.settled, m)
  | some (entry, view) =>
    let m := m.report (.hookStarted m.engine.name index entry.command.name)
    let m := m.announce .execute index ticket
    settle index ticket (m.runHook index ticket (Behaviour.execute entry.command.state view))

def callTick [Behaviour σ ν] (m : Machine σ ν) (index : Nat) (ticket : Ticket) :
    HookEnd × Machine σ ν :=
  match m.hookTarget? index with
  | none => (.settled, m)
  | some (entry, view) =>
    let m := m.announce .tick index ticket
    settle index ticket (m.runHook index ticket (Behaviour.onTick entry.command.state view))

/-! ## Activating a command -/

/-- Takes the pending jump; the command that was active is no longer executing. -/
def takeJump (m : Machine σ ν) : Option Jump × Machine σ ν :=
  match m.register.pending with
  | none => (none, m)
  | some jump =>
    let m := m.setRegister m.register.clearPending
    (some jump, match m.engine.active with
      | none => m
      | some index => m.setExecuting index false)

/-- Makes the command at `index` the active one. -/
def enter (m : Machine σ ν) (index : Nat) : Machine σ ν :=
  let engine := { m.engine with
    previousActive := m.engine.active
    run := m.engine.run.map fun run => { run with active := some index } }
  { m with engine }.setExecuting index true

/-- Enters the command at `index` and calls its execute hook. -/
def activate [Behaviour σ ν] (m : Machine σ ν) (index : Nat) : HookEnd × Machine σ ν :=
  let total := m.engine.sequence.len
  let m := m.enter index
  let m := match m.engine.sequence.get? index with
    | none => m
    | some command => m.tell (.commandExecuting m.engine.ref command.name index total)
        (.commandExecuting m.engine.name command.name index total)
  let register := m.register.arm
  (m.setRegister register).callExecute index register.lastTicket

end Machine

end Sequencer
