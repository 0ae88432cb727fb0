import Sequencer.Engine.Basic

/-!
# Descriptions

One-line texts of sequences and engines, for people who debug a scene.
-/

namespace Sequencer

variable {σ ν : Type}

/-- A record of named fields. -/
def describeFields (name : String) (fields : List (String × String)) : String :=
  let parts := fields.map fun (field, value) => field ++ ": " ++ value
  name ++ " \x7b " ++ ", ".intercalate parts ++ " \x7d"

def describeOption (value : Option String) : String :=
  match value with
  | none => "None"
  | some text => "Some(" ++ text ++ ")"

/-- The names of the commands by slot, and whether the caches are stale. -/
def Sequence.describe (s : Sequence σ) : String :=
  let names := s.slots.map fun slot => describeOption (slot.map fun e => Text.quoted e.command.name)
  describeFields "CommandSequence"
    [("slots", "[" ++ ", ".intercalate names ++ "]"), ("stale", toString s.needsRefresh)]

def EngineState.describe : EngineState → String
  | .idle => "Idle"
  | .executing => "Executing"

def Engine.describe (e : Engine σ ν) : String :=
  describeFields "ExecutionEngine"
    [("id", "EngineId(" ++ e.id.toText ++ ")"), ("name", Text.quoted e.name),
      ("state", e.state.describe), ("active", describeOption (e.active.map toString)),
      ("run_count", toString e.runCount), ("sequence", e.sequence.describe)]

end Sequencer
