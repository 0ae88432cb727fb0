import Sequencer.Proofs.Engine.Points
import Sequencer.Proofs.Leakage

/-!
# What an operation looks up

Hooks, callbacks and the host find handles by their names, to fire them or to ask about them. Of a handle that is
not armed no trace is left, so the lookups of an operation are collected along its way.
-/

namespace Sequencer

variable {σ ν : Type}

/-- A handle that is found under its name, to fire it or to ask whether it is armed. -/
structure Lookup where
  handle : Handle
  fires : Bool
deriving DecidableEq

/-- What a run of the program looks up. -/
def Program.lookups {Q : Type} {A : Q → Type} {α S : Type} (look : Q → S → List Lookup)
    (answer : (q : Q) → S → A q × S) : Program A α → S → List Lookup
  | .done _, _ => []
  | .ask question next, s =>
    look question s ++ lookups look answer (next (answer question s).1) (answer question s).2

namespace Shared

def lookUp (name : String) (fires : Bool) (s : Shared ν) : List Lookup :=
  (s.board.handles.get? name).toList.map fun handle => ⟨handle, fires⟩

def asked : HostQuestion ν → Shared ν → List Lookup
  | .fire name _, s => s.lookUp name true
  | .armed name, s => s.lookUp name false
  | .note _, _ => []

def lookups {α : Type} (s : Shared ν) (program : HostProgram ν α) : List Lookup := program.lookups asked answer s

end Shared

namespace Machine

def HookFrame.asked : HookQuestion ν → HookFrame ν → List Lookup
  | .host question, f => Shared.asked question f.shared
  | _, _ => []

/-! ## In the hooks and callbacks of one step -/

/-- In a hook that works on a run. -/
def lookupsInHook {α : Type} (m : Machine σ ν) (index : Nat) (ticket : Ticket) (program : HookProgram ν α) :
    List Lookup :=
  program.lookups HookFrame.asked HookFrame.answer { shared := m.shared, handle := ⟨m.engine.id, ticket, index⟩ }

/-- In the callback of a run that is over, if it has one. -/
def lookupsInFinish (m : Machine σ ν) : List Lookup :=
  match m.engine.run.bind (·.onComplete) with
  | none => []
  | some callback => (m.completing callback).shared.lookups callback

variable [Behaviour σ ν]

def lookupsInInterrupt (m : Machine σ ν) (index : Nat) : List Lookup :=
  match m.engine.sequence.entry? index with
  | none => []
  | some entry =>
    (m.announce .stop index m.register.lastTicket).shared.lookups (Behaviour.onStop entry.command.state)

def lookupsInStop (m : Machine σ ν) : List Lookup :=
  match m.engine.active with
  | none => []
  | some index => (m.setExecuting index false).lookupsInInterrupt index

/-- A hook that has come back may have requested a stop, with or without a restart. -/
def lookupsInSettle (index : Nat) : HookResult σ ν → List Lookup
  | (.ok (), some .stop, m) => (m.report (.stopRequested m.engine.name index)).lookupsInStop
  | (.ok (), some (.restart start), m) => (m.report (.restartRequested m.engine.name index start)).lookupsInStop
  | _ => []

/-- In a hook, and in what comes of it. -/
def lookupsInCall (m : Machine σ ν) (index : Nat) (ticket : Ticket)
    (program : HookProgram ν (σ × Except CommandError Unit)) : List Lookup :=
  m.lookupsInHook index ticket program ++ lookupsInSettle index (m.runHook index ticket program)

def lookupsInExecute (m : Machine σ ν) (index : Nat) (ticket : Ticket) : List Lookup :=
  match m.hookTarget? index with
  | none => []
  | some (entry, view) =>
    ((m.report (.hookStarted m.engine.name index entry.command.name)).announce .execute index ticket).lookupsInCall
      index ticket (Behaviour.execute entry.command.state view)

def lookupsInTick (m : Machine σ ν) (index : Nat) (ticket : Ticket) : List Lookup :=
  match m.hookTarget? index with
  | none => []
  | some (entry, view) =>
    (m.announce .tick index ticket).lookupsInCall index ticket (Behaviour.onTick entry.command.state view)

def lookupsInActivate (m : Machine σ ν) (index : Nat) : List Lookup :=
  let total := m.engine.sequence.len
  let m := m.enter index
  let m := match m.engine.sequence.get? index with
    | none => m
    | some command => m.tell (.commandExecuting m.engine.ref command.name index total)
        (.commandExecuting m.engine.name command.name index total)
  let register := m.register.arm
  (m.setRegister register).lookupsInExecute index register.lastTicket

/-! ## In the run loop -/

def lookupsInProceed (loop : Nat → Machine σ ν → Verdict × Machine σ ν) (looks : Nat → Machine σ ν → List Lookup)
    (run : Nat) : HookEnd × Machine σ ν → List Lookup
  | (.settled, m) => looks run m
  | (.failed _, _) => []
  | (.restart start, m) =>
    let m := m.beginRun start none
    looks m.engine.runCount m ++
      match loop m.engine.runCount m with
      | (.settled, m) => looks run m
      | _ => []

def lookupsInDrive : (fuel : Nat) → (run : Nat) → Machine σ ν → List Lookup
  | 0, _, _ => []
  | fuel + 1, run, m =>
    if m.engine.isExecuting && m.engine.runCount == run then
      match m.takeJump with
      | (none, _) => []
      | (some jump, m) =>
        let next := m.engine.sequence.nextRunnable jump.target
        let m := m.turn (.jumped m.engine.id run jump.target m.engine.sequence.outline next)
        match next with
        | none => m.lookupsInFinish
        | some index =>
          m.lookupsInActivate index ++
            lookupsInProceed (drive fuel) (lookupsInDrive fuel) run (m.activate index)
    else []

/-! ## In what a host can do -/

/-- In a run that starts, unless one is in flight. -/
def lookupsInLaunch (m : Machine σ ν) (fuel start : Nat) (onComplete : Option (HostProgram ν Unit)) : List Lookup :=
  if m.engine.isExecuting then []
  else
    let m := m.beginRun start onComplete
    lookupsInDrive fuel m.engine.runCount m

def lookupsInTicking (m : Machine σ ν) (fuel : Nat) : List Lookup :=
  if m.engine.isExecuting && !m.engine.isFaulted then
    let run := m.engine.runCount
    match m.register.pending, m.engine.active, m.register.armed with
    | none, some index, some ticket =>
      m.lookupsInTick index ticket ++ lookupsInProceed (drive fuel) (lookupsInDrive fuel) run (m.callTick index ticket)
    | _, _, _ => lookupsInDrive fuel run m
  else []

def lookupsInRedirect (m : Machine σ ν) (fuel index : Nat) : List Lookup :=
  match m.engine.run with
  | none => []
  | some run =>
    if m.engine.sequence.len < index then []
    else
      let interrupted := match m.register.pending, run.active with
        | none, some active => m.lookupsInInterrupt active
        | _, _ => []
      let m := m.jumpTo run index
      interrupted ++ lookupsInDrive fuel m.engine.runCount m

def lookupsInReply (m : Machine σ ν) (fuel : Nat) : Call σ ν → List Lookup
  | .execute start onComplete => m.lookupsInLaunch fuel start onComplete
  | .executeLabel key onComplete =>
    match m.refreshIfIdle.engine.findLabel? key with
    | none => []
    | some start => m.refreshIfIdle.lookupsInLaunch fuel start onComplete
  | .tick => m.lookupsInTicking fuel
  | .stop => m.lookupsInStop
  | .redirect index => m.lookupsInRedirect fuel index
  | .redirectToLabel key =>
    match m.engine.findLabel? key with
    | none => []
    | some target => m.lookupsInRedirect fuel target
  | .setEnabled .. | .release .. => []

def lookupsInDriving (fuel : Nat) (maxTicks : Option Nat) : (rounds ticks : Nat) → Machine σ ν → List Lookup
  | 0, _, _ => []
  | rounds + 1, ticks, m =>
    if !m.engine.isExecuting || m.engine.isFaulted || exhausted maxTicks ticks then []
    else m.lookupsInTicking fuel ++
      match m.tick fuel with
      | (.settled, m) => lookupsInDriving fuel maxTicks rounds (ticks + 1) m
      | _ => []

/-- All handles that an operation looks up: in hooks, in callbacks, and by the host itself. -/
def lookups (m : Machine σ ν) : Operation σ ν → List Lookup
  | .call fuel call => m.lookupsInReply fuel call
  | .drive fuel rounds interval maxTicks =>
    if interval = 0 then [] else lookupsInDriving fuel maxTicks rounds 0 m
  | .edit _ => []
  | .fire handle _ => m.shared.lookUp handle true

end Machine

end Sequencer
