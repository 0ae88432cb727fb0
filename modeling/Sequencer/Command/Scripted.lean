import Sequencer.Command.Behaviour
import Sequencer.Engine.Basic

/-!
# Scripted commands

Commands whose hooks replay written actions: the n-th call of a hook performs the n-th list, and the last
list again and again. Each call notes down what its actions were answered.
-/

namespace Sequencer

/-! ## Actions and replies -/

/-- Actions on a handle, which a stop hook may use too. -/
inductive HandleAct where
  | fire (handle : String) (target : Option Nat)
  | armed (handle : String)
deriving DecidableEq

inductive Act where
  | next
  | jump (target : Nat)
  | jumpLabel (key : String)
  | find (key : String)
  | blockEnd
  | info
  | signalled
  | hold (handle : String)
  | request (request : Request)
  | fail (error : CommandError)
  | handle (act : HandleAct)
deriving DecidableEq

inductive Reply where
  | nothing
  | flag (value : Bool)
  | position (index : Nat)
  | place (index total indent : Nat)
  | failed
deriving DecidableEq

def Reply.ofFlag? : Option Bool → Reply
  | none => .nothing
  | some value => .flag value

def Reply.ofPosition? : Option Nat → Reply
  | none => .nothing
  | some index => .position index

/-- What the host notes down while commands run. -/
inductive Note where
  | condition (id : String) (value : Bool)
  | script (hook : Hook) (name : String) (replies : List Reply)
  | completed (tag : String) (fired : Option Bool)
deriving DecidableEq

/-! ## Scripts -/

/-- The action lists of the calls to come. -/
abbrev Script (α : Type) := List (List α)

namespace Script

variable {α : Type}

/-- The actions of the next call. -/
def current (script : Script α) : List α := script.head?.getD []

/-- The script after that call. -/
def advance : Script α → Script α
  | [] => []
  | [last] => [last]
  | _ :: rest => rest

end Script

structure Scripted where
  name : String
  execute : Script Act
  tick : Script Act
  stop : Script HandleAct
deriving DecidableEq

/-! ## Performing -/

namespace HandleAct

def perform : HandleAct → HostProgram Note Reply
  | .fire handle target => do return .ofFlag? (← HostProgram.fire handle target)
  | .armed handle => do return .ofFlag? (← HostProgram.armed handle)

def performAll : List HandleAct → HostProgram Note (List Reply)
  | [] => return []
  | act :: rest => do
    let reply ← act.perform
    return reply :: (← performAll rest)

end HandleAct

namespace Act

def perform (view : View) : Act → HookProgram Note Reply
  | .next => do return .flag (← HookProgram.signal (view.index + 1))
  | .jump target => do return .flag (← HookProgram.signal target)
  | .jumpLabel key =>
    match view.findLabel? key with
    | none => return .nothing
    | some target => do return .flag (← HookProgram.signal target)
  | .find key => return .ofPosition? (view.findLabel? key)
  | .blockEnd => return .ofPosition? view.blockEnd?
  | .info => return .place view.index view.total view.indentLevel
  | .signalled => do return .flag (← HookProgram.hasSignalled)
  | .hold name => do
    HookProgram.hold name
    return .nothing
  | .request wish => do
    HookProgram.request wish
    return .nothing
  | .fail _ => return .failed
  | .handle act => act.perform.inHook

def error? : Act → Option CommandError
  | .fail error => some error
  | _ => none

/-- Performs actions up to the first that fails. -/
def performAll (view : View) :
    List Act → HookProgram Note (List Reply × Except CommandError Unit)
  | [] => return ([], .ok ())
  | act :: rest => do
    let reply ← act.perform view
    match act.error? with
    | some error => return ([reply], .error error)
    | none =>
      let (replies, result) ← performAll view rest
      return (reply :: replies, result)

end Act

namespace Scripted

def onExecute (s : Scripted) (view : View) :
    HookProgram Note (Scripted × Except CommandError Unit) := do
  let (replies, result) ← Act.performAll view s.execute.current
  HookProgram.note (.script .execute s.name replies)
  return ({ s with execute := s.execute.advance }, result)

def onTick (s : Scripted) (view : View) :
    HookProgram Note (Scripted × Except CommandError Unit) := do
  let (replies, result) ← Act.performAll view s.tick.current
  HookProgram.note (.script .tick s.name replies)
  return ({ s with tick := s.tick.advance }, result)

def onStop (s : Scripted) : HostProgram Note Scripted := do
  let replies ← HandleAct.performAll s.stop.current
  HostProgram.note (.script .stop s.name replies)
  return { s with stop := s.stop.advance }

end Scripted

end Sequencer
