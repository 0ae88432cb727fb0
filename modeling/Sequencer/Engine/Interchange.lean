import Sequencer.Engine.Basic
import Sequencer.Json.Record

/-!
# Engine data in JSON

Identifiers, references, states, places and snapshots.
-/

namespace Sequencer

/-! ## Identifiers and states -/

def Uuid.toJson (u : Uuid) : Json := .text u.toText

def Uuid.ofJson? (json : Json) : Option Uuid := json.text?.bind ofText?

def EngineState.name : EngineState → String
  | .idle => "idle"
  | .executing => "executing"

def EngineState.ofName? (name : String) : Option EngineState :=
  if name = "idle" then some .idle else if name = "executing" then some .executing else none

def EngineState.toJson (state : EngineState) : Json := .text state.name

/-- A state is its name, or an object that has nothing under it. -/
def EngineState.ofJson? : Json → Option EngineState
  | .text name => ofName? name
  | .object [(name, .null)] => ofName? name
  | _ => none

/-! ## Records -/

def EngineRef.toJson (r : EngineRef) : Json := .object [("id", r.id.toJson), ("name", .text r.name)]

def EngineRef.ofJson? (json : Json) : Option EngineRef := do
  match ← json.fields? ["id", "name"] with
  | [id, name] => some ⟨← Json.required? Uuid.ofJson? id, ← Json.required? Json.text? name⟩
  | _ => none

def Location.toJson (l : Location) : Json :=
  .object [("engine", .text l.engine), ("index", .natural l.index), ("command", .text l.command)]

def Location.ofJson? (json : Json) : Option Location := do
  match ← json.fields? ["engine", "index", "command"] with
  | [engine, index, command] =>
    some ⟨← Json.required? Json.text? engine, ← Json.required? Json.natural? index,
      ← Json.required? Json.text? command⟩
  | _ => none

def Snapshot.toJson (s : Snapshot) : Json :=
  .object [("id", s.id.toJson), ("name", .text s.name), ("state", s.state.toJson),
    ("active", .ofOption .natural s.active),
    ("previous_active_index", .ofOption .natural s.previousActive),
    ("run_count", .natural s.runCount), ("total", .natural s.total)]

def Snapshot.ofJson? (json : Json) : Option Snapshot := do
  let position := Json.withDefault? none (Json.optional? Json.natural?)
  match ← json.fields? ["id", "name", "state", "active", "previous_active_index", "run_count", "total"] with
  | [id, name, state, active, previous, runs, total] =>
    some {
      id := ← Json.required? Uuid.ofJson? id
      name := ← Json.required? Json.text? name
      state := ← Json.required? EngineState.ofJson? state
      active := ← position active
      previousActive := ← position previous
      runCount := ← Json.required? Json.natural? runs
      total := ← Json.required? Json.natural? total }
  | _ => none

end Sequencer
