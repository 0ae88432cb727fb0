import Sequencer.Program
import Sequencer.Notice

/-!
# Commands

A command is one unit of scripted behaviour. Its name, its kind and whether it opens or closes a block
are fixed; its inner state is what its hooks change. Hooks are programs: all they can do is ask the
questions below, so whatever state an engine is in, no hook reaches into it.
-/

namespace Sequencer

/-- What a command is in the structure of a sequence. -/
inductive Kind where
  | action
  | comment
  | label (key : String)
deriving DecidableEq

/-- Comments and labels are never executed. -/
def Kind.isInert : Kind → Bool
  | .action => false
  | .comment | .label _ => true

def Kind.labelKey? : Kind → Option String
  | .label key => some key
  | .action | .comment => none

/-- A command with inner state of type `σ`. -/
structure Command (σ : Type) where
  name : String
  kind : Kind := .action
  opens : Bool := false
  closes : Bool := false
  state : σ
deriving DecidableEq

/-! ## Questions -/

variable {ν : Type}

/-- What any code of the host can do: use handles by name, and note down a `ν`. -/
inductive HostQuestion (ν : Type) where
  | fire (handle : String) (target : Option Nat)
  | armed (handle : String)
  | note (value : ν)

abbrev HostQuestion.Answer : HostQuestion ν → Type
  | .fire .. | .armed _ => Option Bool
  | .note _ => Unit

/-- What a command wants of its engine once the hook has returned. -/
inductive Request where
  | stop
  | restart (start : Nat)
deriving DecidableEq

/-- What a hook can do while its command is active. -/
inductive HookQuestion (ν : Type) where
  | host (question : HostQuestion ν)
  /-- Completes the command; the run goes on at `target`. -/
  | signal (target : Nat)
  | hasSignalled
  /-- Puts a handle for this activation away under `name`. -/
  | hold (name : String)
  /-- Only the last request of a hook counts. -/
  | request (request : Request)
  | report (notice : Notice)

abbrev HookQuestion.Answer : HookQuestion ν → Type
  | .host question => question.Answer
  | .signal _ | .hasSignalled => Bool
  | .hold _ | .request _ | .report _ => Unit

abbrev HostProgram (ν α : Type) := Program (HostQuestion.Answer (ν := ν)) α

abbrev HookProgram (ν α : Type) := Program (HookQuestion.Answer (ν := ν)) α

/-- Host code inside a hook. -/
def HostProgram.inHook {α : Type} : HostProgram ν α → HookProgram ν α
  | .done value => .done value
  | .ask question next => .ask (.host question) fun answer => HostProgram.inHook (next answer)

end Sequencer
