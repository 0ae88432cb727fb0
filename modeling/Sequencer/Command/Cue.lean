import Sequencer.Command.Scripted

/-!
# Cues

The commands that scenes are made of: jump targets, jumps, waits, blocks and stops, a spoken line, and
scripted commands.
-/

namespace Sequencer

/-- The condition of a block: always the same, or one value per evaluation, false after the last. -/
inductive Condition where
  | fixed (value : Bool)
  | listed (id : String) (values : List Bool)
deriving DecidableEq

inductive Cue where
  | label
  | comment (text : String)
  | goto (key : String)
  /-- The serial number tells one wait from another. -/
  | wait (serial ticks remaining : Nat)
  | branch (condition : Condition)
  | blockEnd
  | stopSequence
  | say (line : String)
  | scripted (script : Scripted)
deriving DecidableEq

namespace Cue

/-! ## Making commands -/

def makeLabel (key : String) : Command Cue := { name := "Label", kind := .label key, state := .label }

def makeComment (text : String) : Command Cue :=
  { name := "Comment", kind := .comment, state := .comment text }

def makeGoto (key : String) : Command Cue := { name := "Goto", state := .goto key }

def makeWait (serial ticks : Nat) : Command Cue := { name := "Wait", state := .wait serial ticks 0 }

def makeIf (condition : Condition) : Command Cue :=
  { name := "If", opens := true, state := .branch condition }

def makeEnd : Command Cue := { name := "End", closes := true, state := .blockEnd }

def makeStop : Command Cue := { name := "Stop", state := .stopSequence }

def makeSay (line : String) : Command Cue := { name := "Say", state := .say line }

def makeScripted (kind : Kind) (opens closes : Bool) (script : Scripted) : Command Cue :=
  { name := script.name, kind, opens, closes, state := .scripted script }

/-! ## Hooks -/

/-- Completes the command, so that the next one follows. -/
def continueNext (view : View) : HookProgram Note Unit := do
  let _ ← HookProgram.signal (view.index + 1)

/-- A wait completes once nothing remains of it. -/
def continueIfOver (view : View) (remaining : Nat) : HookProgram Note Unit :=
  if remaining = 0 then continueNext view else return

def evaluate : Condition → HookProgram Note (Condition × Bool)
  | .fixed value => return (.fixed value, value)
  | .listed id values => do
    let value := values.head?.getD false
    HookProgram.note (.condition id value)
    return (.listed id values.tail, value)

/-- Where a block whose condition is false continues: behind its end, or behind everything. -/
def behindBlock (view : View) : Nat :=
  match view.blockEnd? with
  | some last => last + 1
  | none => view.total

def execute (view : View) : Cue → HookProgram Note (Cue × Except CommandError Unit)
  | .goto key => do
    match view.findLabel? key with
    | some target =>
      let _ ← HookProgram.signal target
    | none =>
      HookProgram.report (.gotoLabelMissing key view.index)
      continueNext view
    return (.goto key, .ok ())
  | .wait serial ticks _ => do
    continueIfOver view ticks
    return (.wait serial ticks ticks, .ok ())
  | .branch condition => do
    let (condition, value) ← evaluate condition
    let _ ← HookProgram.signal (if value then view.index + 1 else behindBlock view)
    return (.branch condition, .ok ())
  | .stopSequence => do
    HookProgram.request .stop
    return (.stopSequence, .ok ())
  | .say line => do
    HookProgram.report (.lineSpoken line view.index view.indentLevel)
    continueNext view
    return (.say line, .ok ())
  | .scripted script => do
    let (script, result) ← script.onExecute view
    return (.scripted script, result)
  | .label => do
    continueNext view
    return (.label, .ok ())
  | .comment text => do
    continueNext view
    return (.comment text, .ok ())
  | .blockEnd => do
    continueNext view
    return (.blockEnd, .ok ())

def onTick (view : View) : Cue → HookProgram Note (Cue × Except CommandError Unit)
  | .wait serial ticks remaining => do
    continueIfOver view (remaining - 1)
    return (.wait serial ticks (remaining - 1), .ok ())
  | .scripted script => do
    let (script, result) ← script.onTick view
    return (.scripted script, result)
  | cue => return (cue, .ok ())

def onStop : Cue → HostProgram Note Cue
  | .wait serial ticks _ => return .wait serial ticks 0
  | .scripted script => do return .scripted (← script.onStop)
  | cue => return cue

instance : Behaviour Cue Note where
  execute cue view := execute view cue
  onTick cue view := onTick view cue
  onStop := onStop

/-! ## Waits -/

/-- What remains of a wait, if it has the serial number. -/
def remaining? (serial : Nat) : Cue → Option Nat
  | .wait number _ remaining => if number = serial then some remaining else none
  | _ => none

/-- What remains of the wait with the serial number, among commands that may hold it. -/
def remainingAmong? (commands : List (Command Cue)) (serial : Nat) : Option Nat :=
  commands.findSome? fun command => command.state.remaining? serial

end Cue

end Sequencer
