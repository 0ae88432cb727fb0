import Sequencer.Engine.Driver

/-!
# Studios

Several engines side by side. They share the switchboard, so the commands of one can fire the handles of
another.
-/

namespace Sequencer

variable {σ ν : Type}

structure Studio (σ ν : Type) where
  /-- The engines by number; one that was dropped leaves its number unused. -/
  engines : List (Option (Engine σ ν)) := []
  shared : Shared ν := {}
  /-- Commands that are in no sequence any more. -/
  shelf : List (Command σ) := []

namespace Studio

def engine? (s : Studio σ ν) (number : Nat) : Option (Engine σ ν) := (s.engines[number]?).join

/-- Adds an engine, whose register is empty. -/
def add (s : Studio σ ν) (engine : Engine σ ν) : Studio σ ν :=
  { s with
    engines := s.engines ++ [some engine]
    shared := { s.shared with board := s.shared.board.setRegister engine.id {} } }

/-- Works on the engine with that number, if it is still there. -/
def withMachine {α : Type} (s : Studio σ ν) (number : Nat) (work : Machine σ ν → α × Machine σ ν) :
    Option α × Studio σ ν :=
  match s.engine? number with
  | none => (none, s)
  | some engine =>
    let (value, m) := work ⟨engine, s.shared⟩
    (some value, { s with engines := s.engines.set number (some m.engine), shared := m.shared })

def shelve (s : Studio σ ν) (commands : List (Command σ)) : Studio σ ν :=
  { s with shelf := s.shelf ++ commands }

/-- Edits the sequence of an engine; what is removed stays with the host. -/
def edit [Behaviour σ ν] (s : Studio σ ν) (number : Nat) (edit : Edit σ) :
    Option (Except EngineError (EditReply σ)) × Studio σ ν :=
  match s.withMachine number (fun m => m.edit edit) with
  | (some (.ok (.removed command)), s) => (some (.ok (.removed command)), s.shelve command.toList)
  | ended => ended

/-- The engine is gone, and its handles are dead. -/
def drop (s : Studio σ ν) (number : Nat) : Studio σ ν :=
  match s.engine? number with
  | none => s
  | some engine =>
    let s := s.shelve (engine.sequence.entries.map fun entry => entry.command)
    { s with
      engines := s.engines.set number none
      shared := { s.shared with board := s.shared.board.disconnect engine.id } }

/-- The host fires a handle. -/
def fire (s : Studio σ ν) (handle : String) (target : Option Nat) : Option Bool × Studio σ ν :=
  let (landed, shared) := s.shared.fire handle target
  (landed, { s with shared })

/-- Every command there is, and every command there was. -/
def commands (s : Studio σ ν) : List (Command σ) :=
  let entries := (s.engines.filterMap id).flatMap fun engine => engine.sequence.entries
  entries.map (fun entry => entry.command) ++ s.shelf

/-- Forgets the events, notices, moments and turns so far. -/
def clearHistory (s : Studio σ ν) : Studio σ ν :=
  { s with shared := { s.shared with events := [], notices := [], moments := [], turns := [] } }

end Studio

end Sequencer
