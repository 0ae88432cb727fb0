import Sequencer.Sequence.Refresh

/-!
# Editing a sequence

Inserting goes by slot and removing by position. Every edit that changes the slots leaves the caches stale.
-/

namespace Sequencer

variable {σ : Type}

namespace Sequence

def markStale (s : Sequence σ) : Sequence σ := { s with indicesStale := true, indentationStale := true }

def push (s : Sequence σ) (command : Command σ) : Sequence σ :=
  { s with slots := s.slots ++ [some (Entry.fresh command)] }.markStale

def pushHole (s : Sequence σ) : Sequence σ := { s with slots := s.slots ++ [none] }.markStale

/-- Inserts in front of `slot`, or at the end. -/
def insert (s : Sequence σ) (slot : Nat) (command : Command σ) : Sequence σ :=
  { s with slots := s.slots.insertIdx (min slot s.slotCount) (some (Entry.fresh command)) }.markStale

/-- Takes out the command at `position` and leaves a hole. -/
def remove (s : Sequence σ) (position : Nat) : Option (Command σ) × Sequence σ :=
  match s.slotOf position with
  | none => (none, s)
  | some slot =>
    ((s.slots[slot]?.join).map (·.command), { s with slots := s.slots.set slot none }.markStale)

/-- Drops the holes and says how many there were. -/
def purgeHoles (s : Sequence σ) : Nat × Sequence σ :=
  let kept := s.slots.filter (·.isSome)
  let purged := s.slotCount - kept.length
  (purged, if purged = 0 then s else { s with slots := kept }.markStale)

/-- The commands in order, with fresh caches. -/
def ofCommands (commands : List (Command σ)) : Sequence σ := (commands.foldl push {}).refresh

/-- The items in order, holes included, and not yet refreshed. -/
def ofItems (items : List (Option (Command σ))) : Sequence σ :=
  items.foldl (fun s item => match item with
    | some command => s.push command
    | none => s.pushHole) {}

end Sequence

/-! ## Edits as data -/

inductive Edit (σ : Type) where
  | push (command : Command σ)
  | pushHole
  | insert (slot : Nat) (command : Command σ)
  | remove (position : Nat)
  /-- Takes a command out and puts it in again, as a fresh entry. -/
  | move (position slot : Nat)
  | purgeHoles
  | refresh
  | refreshIndices
  | refreshIndentation
  | setEnabled (position : Nat) (enabled : Bool)

/-- What an edit answers. -/
inductive EditReply (σ : Type) where
  | done
  | removed (command : Option (Command σ))
  | moved (command : Option (Command σ))
  | purged (holes : Nat)
  | found (found : Bool)
deriving DecidableEq

def Edit.apply (s : Sequence σ) : Edit σ → EditReply σ × Sequence σ
  | .push command => (.done, s.push command)
  | .pushHole => (.done, s.pushHole)
  | .insert slot command => (.done, s.insert slot command)
  | .remove position =>
    let (command, s) := s.remove position
    (.removed command, s)
  | .move position slot =>
    match s.remove position with
    | (none, s) => (.moved none, s)
    | (some command, s) => (.moved (some command), s.insert slot command)
  | .purgeHoles =>
    let (holes, s) := s.purgeHoles
    (.purged holes, s)
  | .refresh => (.done, s.refresh)
  | .refreshIndices => (.done, s.refreshIndices)
  | .refreshIndentation => (.done, s.refreshIndentation)
  | .setEnabled position enabled =>
    let (found, s) := s.setEnabled position enabled
    (.found found, s)

end Sequencer
