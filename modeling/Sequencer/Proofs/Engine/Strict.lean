import Sequencer.Proofs.Engine.Replies
import Sequencer.Proofs.Sequence.Strict

/-!
# Strict engines

The operations of engines once more, down to the code of the host that they run. They break off where a strict sequence
does, where the position behind a command or behind a block has no room in a word, and where a hook is to be called for
a command that is not there. Runs and tickets are taken to be few enough to be counted.
-/

namespace Sequencer

variable {σ ν : Type}

/-! ## Programs -/

/-- Runs the program on a state; any answer may break off. -/
def Program.strictRun {Q : Type} {A : Q → Type} {α S : Type} (answer : (q : Q) → S → Strict (A q × S)) :
    Program A α → S → Strict (α × S)
  | .done value, s => .ok (value, s)
  | .ask question next, s => do
    let (reply, s) ← answer question s
    (next reply).strictRun answer s

/-- Where a signal through the handle leads: behind its command, if the signal does not say. -/
def Handle.strictTarget (h : Handle) : Option Nat → Strict Nat
  | none => Strict.next h.index
  | some target => .ok target

namespace Shared

def strictFire (s : Shared ν) (name : String) (target : Option Nat) : Strict (Option Bool × Shared ν) :=
  match s.board.handles.get? name with
  | none => .ok (none, s)
  | some handle => do
    let target ← handle.strictTarget target
    let (landed, s) := s.signal handle target
    .ok (some landed, s)

def strictAnswer : (question : HostQuestion ν) → Shared ν → Strict (question.Answer × Shared ν)
  | .fire name target, s => s.strictFire name target
  | .armed name, s => .ok (s.answer (.armed name))
  | .note value, s => .ok (s.answer (.note value))

def strictPerform {α : Type} (s : Shared ν) (program : HostProgram ν α) : Strict (α × Shared ν) :=
  program.strictRun strictAnswer s

end Shared

/-- The positions that a hook can work out: behind its command, the end of its block, and behind that. -/
def View.strictPlaces (v : View) : Strict (Nat × Option (Nat × Nat)) := do
  let behind ← Strict.next v.index
  match ← v.blocks.strictEnd v.index with
  | none => .ok (behind, none)
  | some last => do
    let behindBlock ← Strict.next last
    .ok (behind, some (last, behindBlock))

namespace Machine

def HookFrame.strictAnswer : (question : HookQuestion ν) → HookFrame ν → Strict (question.Answer × HookFrame ν)
  | .host question, f => do
    let (reply, shared) ← f.shared.strictAnswer question
    .ok (reply, { f with shared })
  | .signal target, f => .ok (f.answer (.signal target))
  | .hasSignalled, f => .ok (f.answer .hasSignalled)
  | .hold name, f => .ok (f.answer (.hold name))
  | .request request, f => .ok (f.answer (.request request))
  | .report notice, f => .ok (f.answer (.report notice))

/-! ## Ending a run -/

def strictFireCallback (m : Machine σ ν) (callback : HostProgram ν Unit) : Strict (Machine σ ν) := do
  let m := m.record (.callbackFired m.engine.id m.engine.runCount)
  let m := m.turn (.completed m.engine.id m.engine.runCount callback
    ⟨m.engine.state, m.engine.listener, m.shared.board, m.shared.moments⟩)
  let (_, shared) ← m.shared.strictPerform callback
  .ok { m with shared }

def strictFinish (m : Machine σ ν) : Strict (Machine σ ν) :=
  match m.engine.run.bind (·.onComplete) with
  | none => .ok m.enterIdle
  | some callback => m.enterIdle.strictFireCallback callback

section Stop

variable [Behaviour σ ν]

def strictCallStopHook (m : Machine σ ν) (index : Nat) : Strict (Machine σ ν) :=
  match m.engine.sequence.entry? index with
  | none => .ok m
  | some entry => do
    let (state, shared) ← m.shared.strictPerform (Behaviour.onStop entry.command.state)
    .ok { m.setSequence (m.engine.sequence.setState index state) with shared }

def strictInterrupt (m : Machine σ ν) (index : Nat) : Strict (Machine σ ν) :=
  if (m.engine.sequence.entry? index).isSome then
    (m.announce .stop index m.register.lastTicket).strictCallStopHook index
  else .ok m

def strictLeave (m : Machine σ ν) : Option Nat → Strict (Machine σ ν)
  | none => .ok m
  | some index => (m.setExecuting index false).strictInterrupt index

def strictStop (m : Machine σ ν) : Strict (Machine σ ν) :=
  match m.engine.run with
  | none => .ok m
  | some run => do
    let m ← m.strictLeave run.active
    .ok ((m.setRegister (m.register.force .abort)).turn (.aborted m.engine.id m.engine.runCount)).enterIdle

end Stop

/-! ## Starting a run -/

def strictFreshen (m : Machine σ ν) : Strict (Machine σ ν) :=
  if m.engine.sequence.needsRefresh then do
    let sequence ← m.engine.sequence.strictRefresh
    .ok (m.setSequence sequence)
  else .ok m

def strictBeginRun (m : Machine σ ν) (start : Nat) (onComplete : Option (HostProgram ν Unit)) :
    Strict (Machine σ ν) := do
  let m ← m.strictFreshen
  .ok (m.beginRun start onComplete)

/-! ## Calling a hook -/

def strictTarget (m : Machine σ ν) (index : Nat) : Strict (Entry σ × View) :=
  match m.hookTarget? index with
  | none => .error .nobody
  | some (entry, view) => do
    let _ ← view.strictPlaces
    .ok (entry, view)

def strictRunHook (m : Machine σ ν) (index : Nat) (ticket : Ticket)
    (program : HookProgram ν (σ × Except CommandError Unit)) :
    Strict (Except CommandError Unit × Option Request × Machine σ ν) := do
  let ((state, result), frame) ←
    program.strictRun HookFrame.strictAnswer { shared := m.shared, handle := ⟨m.engine.id, ticket, index⟩ }
  .ok (result, frame.request,
    { m.setSequence (m.engine.sequence.setState index state) with shared := frame.shared })

variable [Behaviour σ ν]

def strictObey (m : Machine σ ν) (index : Nat) : Option Request → Strict (HookEnd × Machine σ ν)
  | none => .ok (.settled, m)
  | some .stop => do
    let m ← (m.report (.stopRequested m.engine.name index)).strictStop
    .ok (.settled, m)
  | some (.restart start) => do
    let m ← (m.report (.restartRequested m.engine.name index start)).strictStop
    .ok (.restart start, m)

def strictSettle (index : Nat) (ticket : Ticket) :
    Except CommandError Unit × Option Request × Machine σ ν → Strict (HookEnd × Machine σ ν)
  | (.error source, _, m) =>
    let (error, m) := m.commandFailed index ticket source
    .ok (.failed error, m)
  | (.ok (), request, m) => m.strictObey index request

def strictCallExecute (m : Machine σ ν) (index : Nat) (ticket : Ticket) : Strict (HookEnd × Machine σ ν) := do
  let (entry, view) ← m.strictTarget index
  let m := m.report (.hookStarted m.engine.name index entry.command.name)
  let m := m.announce .execute index ticket
  let result ← m.strictRunHook index ticket (Behaviour.execute entry.command.state view)
  strictSettle index ticket result

def strictCallTick (m : Machine σ ν) (index : Nat) (ticket : Ticket) : Strict (HookEnd × Machine σ ν) := do
  let (entry, view) ← m.strictTarget index
  let m := m.announce .tick index ticket
  let result ← m.strictRunHook index ticket (Behaviour.onTick entry.command.state view)
  strictSettle index ticket result

def strictActivate (m : Machine σ ν) (index : Nat) : Strict (HookEnd × Machine σ ν) :=
  let total := m.engine.sequence.len
  let m := m.enter index
  let m := match m.engine.sequence.get? index with
    | none => m
    | some command => m.tell (.commandExecuting m.engine.ref command.name index total)
        (.commandExecuting m.engine.name command.name index total)
  let register := m.register.arm
  (m.setRegister register).strictCallExecute index register.lastTicket

/-! ## The run loop -/

def strictProceed (loop : Nat → Machine σ ν → Strict (Verdict × Machine σ ν)) (run : Nat) :
    HookEnd × Machine σ ν → Strict (Verdict × Machine σ ν)
  | (.settled, m) => loop run m
  | (.failed error, m) => .ok (.failed error, m)
  | (.restart start, m) => do
    let m ← m.strictBeginRun start none
    match ← loop m.engine.runCount m with
    | (.settled, m) => loop run m
    | ended => .ok ended

def strictDrive : (fuel : Nat) → (run : Nat) → Machine σ ν → Strict (Verdict × Machine σ ν)
  | 0, _, m => .ok (.outOfFuel, m)
  | fuel + 1, run, m =>
    if m.engine.isExecuting && m.engine.runCount == run then
      match m.takeJump with
      | (none, m) => .ok (.settled, m)
      | (some jump, m) => do
        let next ← m.engine.sequence.strictNextRunnable jump.target
        let m := m.turn (.jumped m.engine.id run jump.target m.engine.sequence.outline next)
        match next with
        | none => do
          let m ← m.strictFinish
          .ok (.settled, m)
        | some index => do
          let ended ← m.strictActivate index
          strictProceed (strictDrive fuel) run ended
    else .ok (.settled, m)

/-! ## What a host can do -/

def strictExecute (m : Machine σ ν) (fuel start : Nat) (onComplete : Option (HostProgram ν Unit)) :
    Strict (Outcome Launch × Machine σ ν) :=
  if m.engine.isExecuting then
    .ok (.value .rejected, m.report (.runIgnored m.engine.name start m.engine.active))
  else do
    let m ← m.strictBeginRun start onComplete
    let (verdict, m) ← strictDrive fuel m.engine.runCount m
    .ok (verdict.outcome .started, m)

def strictFreshenIfIdle (m : Machine σ ν) : Strict (Machine σ ν) :=
  if m.engine.isExecuting then .ok m else m.strictFreshen

def strictExecuteLabel (m : Machine σ ν) (fuel : Nat) (key : String) (onComplete : Option (HostProgram ν Unit)) :
    Strict (Outcome Launch × Machine σ ν) := do
  let m ← m.strictFreshenIfIdle
  match m.engine.findLabel? key with
  | none => .ok (.value .labelNotFound, m.report (.startLabelMissing m.engine.name key))
  | some start => m.strictExecute fuel start onComplete

def strictTick (m : Machine σ ν) (fuel : Nat) : Strict (Verdict × Machine σ ν) :=
  if m.engine.isExecuting && !m.engine.isFaulted then
    let run := m.engine.runCount
    match m.register.pending, m.engine.active, m.register.armed with
    | none, some index, some ticket => do
      let ended ← m.strictCallTick index ticket
      strictProceed (strictDrive fuel) run ended
    | _, _, _ => strictDrive fuel run m
  else .ok (.settled, m)

def strictJumpTo (m : Machine σ ν) (run : Run ν) (index : Nat) : Strict (Machine σ ν) := do
  let m ← match m.register.pending, run.active with
    | none, some active => m.strictInterrupt active
    | _, _ => .ok m
  let m := m.setRun (m.engine.run.map fun run => { run with faulted := false })
  .ok (m.setRegister (m.register.force (.to index)))

def strictRedirect (m : Machine σ ν) (fuel index : Nat) : Strict (Outcome Unit × Machine σ ν) :=
  match m.engine.run with
  | none => .ok (.failed (.notExecuting m.engine.name), m)
  | some run =>
    let len := m.engine.sequence.len
    if len < index then .ok (.failed (.indexOutOfRange index len), m)
    else do
      let m ← m.strictJumpTo run index
      let (verdict, m) ← strictDrive fuel m.engine.runCount m
      .ok (verdict.outcome (), m)

def strictRedirectToLabel (m : Machine σ ν) (fuel : Nat) (key : String) :
    Strict (Outcome (Option Nat) × Machine σ ν) :=
  match m.engine.findLabel? key with
  | none => .ok (.value none, m.report (.redirectLabelMissing m.engine.name key))
  | some target => do
    match ← m.strictRedirect fuel target with
    | (.value (), m) => .ok (.value (some target), m)
    | (.failed error, m) => .ok (.failed error, m)
    | (.outOfFuel, m) => .ok (.outOfFuel, m)

def strictReply (m : Machine σ ν) (fuel : Nat) : Call σ ν → Strict (CallReply × Machine σ ν)
  | .execute start onComplete => do
    let (outcome, m) ← m.strictExecute fuel start onComplete
    .ok (.launched outcome, m)
  | .executeLabel key onComplete => do
    let (outcome, m) ← m.strictExecuteLabel fuel key onComplete
    .ok (.launched outcome, m)
  | .tick => do
    let (verdict, m) ← m.strictTick fuel
    .ok (.ticked verdict, m)
  | .stop => do
    let m ← m.strictStop
    .ok (.stopped, m)
  | .redirect index => do
    let (outcome, m) ← m.strictRedirect fuel index
    .ok (.redirected outcome, m)
  | .redirectToLabel key => do
    let (outcome, m) ← m.strictRedirectToLabel fuel key
    .ok (.redirectedTo outcome, m)
  | .setEnabled index enabled => .ok (m.reply fuel (.setEnabled index enabled))
  | .release index state => .ok (m.reply fuel (.release index state))

end Machine

end Sequencer
