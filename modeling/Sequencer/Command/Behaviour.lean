import Sequencer.Command.Basic
import Sequencer.Sequence.Layout

/-!
# Behaviour

What commands do in their hooks, given what a hook can see of the sequence around its command.
-/

namespace Sequencer

/-- What a hook sees: where its command is, how many there are, and the labels and blocks. -/
structure View where
  index : Nat
  total : Nat
  labels : LabelIndex
  blocks : Blocks
deriving DecidableEq

namespace View

def indentLevel (v : View) : Nat := (v.blocks.indents[v.index]?).getD 0

def findLabel? (v : View) (key : String) : Option Nat := v.labels.find? key

/-- Where the block that the command opens ends. -/
def blockEnd? (v : View) : Option Nat := v.blocks.end? v.index

end View

/-- The hooks of the commands whose inner state is a `σ`, for a host that notes down `ν`s. -/
class Behaviour (σ : Type) (ν : outParam Type) where
  /-- Begins the command's effect. -/
  execute : σ → View → HookProgram ν (σ × Except CommandError Unit)
  /-- Once per tick, while the command is active and has not signalled. -/
  onTick : σ → View → HookProgram ν (σ × Except CommandError Unit)
  /-- The run is taken away from the command. -/
  onStop : σ → HostProgram ν σ

/-! ## Steps of a hook -/

namespace HookProgram

variable {ν : Type}

def signal (target : Nat) : HookProgram ν Bool := .ask (.signal target) .done

def hasSignalled : HookProgram ν Bool := .ask .hasSignalled .done

def hold (name : String) : HookProgram ν Unit := .ask (.hold name) .done

def request (request : Request) : HookProgram ν Unit := .ask (.request request) .done

def report (notice : Notice) : HookProgram ν Unit := .ask (.report notice) .done

def note (value : ν) : HookProgram ν Unit := .ask (.host (.note value)) .done

end HookProgram

namespace HostProgram

variable {ν : Type}

def fire (handle : String) (target : Option Nat) : HostProgram ν (Option Bool) :=
  .ask (.fire handle target) .done

def armed (handle : String) : HostProgram ν (Option Bool) := .ask (.armed handle) .done

def note (value : ν) : HostProgram ν Unit := .ask (.note value) .done

end HostProgram

end Sequencer
