import Sequencer.Command.Basic
import Sequencer.Sequence.Layout

/-!
# Command sequences

The ordered list of commands of one engine. An entry that is taken out leaves a hole in its slot, which
takes up no position. Positions, indents and labels are cached, and the caches go stale with the next
edit; until they are refreshed, look-ups go through the slots.
-/

namespace Sequencer

variable {σ : Type}

/-- A command in its place. The position, the indent and the owner are as of the last refresh. -/
structure Entry (σ : Type) where
  command : Command σ
  enabled : Bool := true
  position : Nat := 0
  indent : Nat := 0
  executing : Bool := false
  owner : Option EngineId := none

/-- An entry as it is put in: enabled, and not yet placed. -/
def Entry.fresh (command : Command σ) : Entry σ := { command := command }

/-- The run loop passes over disabled commands, comments and labels. -/
def Entry.isSkipped (e : Entry σ) : Bool := !e.enabled || e.command.kind.isInert

/-- Slots, some of which are holes. -/
abbrev Slots (σ : Type) := List (Option (Entry σ))

structure Sequence (σ : Type) where
  slots : Slots σ := []
  layout : Layout := {}
  owner : Option EngineId := none
  indicesStale : Bool := false
  indentationStale : Bool := false

/-! ## Scanning the slots -/

namespace Slots

/-- The slot of the entry at `position`. -/
def slotOf : Slots σ → Nat → Option Nat
  | [], _ => none
  | none :: rest, position => (slotOf rest position).map (· + 1)
  | some _ :: _, 0 => some 0
  | some _ :: rest, position + 1 => (slotOf rest position).map (· + 1)

/-- The entries without the holes. -/
def entries (slots : Slots σ) : List (Entry σ) := slots.filterMap id

/-- The position of the first label whose key is the same in lowercase. -/
def findLabel? (key : String) (slots : Slots σ) : Option Nat :=
  (entries slots).findIdx? fun entry =>
    match entry.command.kind.labelKey? with
    | some candidate => Text.lowercase candidate = Text.lowercase key
    | none => false

def update (slot : Nat) (change : Entry σ → Entry σ) (slots : Slots σ) : Slots σ :=
  slots.modify slot (Option.map change)

end Slots

namespace Sequence

/-! ## Looking up -/

def needsRefresh (s : Sequence σ) : Bool := s.indicesStale || s.indentationStale

/-- Number of commands; holes do not count. -/
def len (s : Sequence σ) : Nat :=
  if s.indicesStale then (Slots.entries s.slots).length else s.layout.len

def isEmpty (s : Sequence σ) : Bool := s.len == 0

def slotCount (s : Sequence σ) : Nat := s.slots.length

def slotOf (s : Sequence σ) (position : Nat) : Option Nat :=
  if s.indicesStale then Slots.slotOf s.slots position else s.layout.slotOf position

def entry? (s : Sequence σ) (position : Nat) : Option (Entry σ) := do
  let slot ← s.slotOf position
  (← s.slots[slot]?)

def get? (s : Sequence σ) (position : Nat) : Option (Command σ) := (s.entry? position).map (·.command)

def findLabel? (s : Sequence σ) (key : String) : Option Nat :=
  if s.indicesStale then Slots.findLabel? key s.slots else s.layout.labels.find? key

def blockEnd? (s : Sequence σ) (position : Nat) : Option Nat := s.layout.blocks.end? position

/-- The entries in order. -/
def entries (s : Sequence σ) : List (Entry σ) := Slots.entries s.slots

/-- Whether each entry is enabled, and its kind. -/
def outline (s : Sequence σ) : List (Bool × Kind) := s.entries.map fun e => (e.enabled, e.command.kind)

def isSkipped (s : Sequence σ) (position : Nat) : Bool := ((s.entry? position).map (·.isSkipped)).getD true

/-- Passes over at most `count` positions from `cursor` on. -/
def skipFrom (s : Sequence σ) (cursor : Nat) : (count : Nat) → Option Nat
  | 0 => none
  | count + 1 => if s.isSkipped cursor then s.skipFrom (cursor + 1) count else some cursor

/-- Where a run that is to go on at `target` does go on; nowhere if only skipped entries are left. -/
def nextRunnable (s : Sequence σ) (target : Nat) : Option Nat := s.skipFrom target (s.len - target)

/-! ## Changing one entry -/

/-- Changes the entry at `position`, if there is one. -/
def update (s : Sequence σ) (position : Nat) (change : Entry σ → Entry σ) : Sequence σ :=
  match s.slotOf position with
  | none => s
  | some slot => { s with slots := Slots.update slot change s.slots }

def setEnabled (s : Sequence σ) (position : Nat) (enabled : Bool) : Bool × Sequence σ :=
  ((s.entry? position).isSome, s.update position fun e => { e with enabled })

def setExecuting (s : Sequence σ) (position : Nat) (executing : Bool) : Sequence σ :=
  s.update position fun e => { e with executing }

def setState (s : Sequence σ) (position : Nat) (state : σ) : Sequence σ :=
  s.update position fun e => { e with command := { e.command with state } }

end Sequence

end Sequencer
