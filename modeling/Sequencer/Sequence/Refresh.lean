import Sequencer.Sequence.Basic

/-!
# Refreshing a sequence

Brings the caches up to date: the indices (positions, labels, owners) and the indentation, each on its
own or both.
-/

namespace Sequencer

variable {σ : Type}

namespace Slots

/-! ## Indices -/

/-- The numbers of the slots that are not holes, where the first slot has number `slot`. -/
def positionsFrom (slot : Nat) : Slots σ → List Nat
  | [] => []
  | none :: rest => positionsFrom (slot + 1) rest
  | some _ :: rest => slot :: positionsFrom (slot + 1) rest

/-- The lowercased keys of the labels with their positions, where the first entry is at `position`. -/
def labelsFrom (position : Nat) : Slots σ → List (String × Nat)
  | [] => []
  | none :: rest => labelsFrom position rest
  | some entry :: rest =>
    match entry.command.kind.labelKey? with
    | some key => (Text.lowercase key, position) :: labelsFrom (position + 1) rest
    | none => labelsFrom (position + 1) rest

/-- Writes into each entry where it is and whose it is. -/
def numberFrom (owner : Option EngineId) (position : Nat) : Slots σ → Slots σ
  | [] => []
  | none :: rest => none :: numberFrom owner position rest
  | some entry :: rest => some { entry with position, owner } :: numberFrom owner (position + 1) rest

/-! ## Indentation -/

end Slots

/-- How deep a command lies in a block of depth `depth`; a close that nothing opened stays at zero. -/
def Command.indentIn (c : Command σ) (depth : Nat) : Nat := if c.closes then depth - 1 else depth

/-- How deep the next command is to lie. -/
def Command.depthAfter (c : Command σ) (depth : Nat) : Nat :=
  if c.opens then c.indentIn depth + 1 else c.indentIn depth

namespace Slots

def indentsFrom (depth : Nat) : Slots σ → List Nat
  | [] => []
  | none :: rest => indentsFrom depth rest
  | some entry :: rest =>
    entry.command.indentIn depth :: indentsFrom (entry.command.depthAfter depth) rest

def closesOf (slots : Slots σ) : List Bool := (entries slots).map (·.command.closes)

/-- Writes its indent into each entry. -/
def indentFrom (depth : Nat) : Slots σ → Slots σ
  | [] => []
  | none :: rest => none :: indentFrom depth rest
  | some entry :: rest =>
    some { entry with indent := entry.command.indentIn depth }
      :: indentFrom (entry.command.depthAfter depth) rest

end Slots

namespace Sequence

def refreshIndices (s : Sequence σ) : Sequence σ :=
  { s with
    slots := Slots.numberFrom s.owner 0 s.slots
    layout := { s.layout with
      positions := Slots.positionsFrom 0 s.slots
      labels := ⟨Slots.labelsFrom 0 s.slots⟩ }
    indicesStale := false }

def refreshIndentation (s : Sequence σ) : Sequence σ :=
  { s with
    slots := Slots.indentFrom 0 s.slots
    layout := { s.layout with blocks := ⟨Slots.indentsFrom 0 s.slots, Slots.closesOf s.slots⟩ }
    indentationStale := false }

def refresh (s : Sequence σ) : Sequence σ := s.refreshIndices.refreshIndentation

/-- The sequence belongs to an engine from now on; its entries learn so with the next refresh. -/
def adopt (s : Sequence σ) (owner : EngineId) : Sequence σ :=
  { s with owner := some owner, indicesStale := true }

end Sequence

end Sequencer
