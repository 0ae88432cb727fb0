import Sequencer.Text.Lowercase

/-!
# Layout

The cached structure of a sequence, by position: which slot an entry is in, how deep it lies and whether
it closes a block, and where the labels are. A layout describes the sequence of the last refresh.
-/

namespace Sequencer

/-! ## Labels -/

/-- Lowercased label keys with their positions, in order. -/
structure LabelIndex where
  entries : List (String × Nat) := []
deriving DecidableEq

/-- The position of the first label whose key is the same in lowercase. -/
def LabelIndex.find? (labels : LabelIndex) (key : String) : Option Nat :=
  let key := Text.lowercase key
  (labels.entries.find? fun entry => entry.1 = key).map Prod.snd

/-! ## Blocks -/

/-- How deep each entry lies, and whether it closes a block. -/
structure Blocks where
  indents : List Nat := []
  closes : List Bool := []
deriving DecidableEq

/--
Where the block that is opened at `position` ends: at the first later entry that lies no deeper, if that
entry closes a block.
-/
def Blocks.end? (blocks : Blocks) (position : Nat) : Option Nat := do
  let depth ← blocks.indents[position]?
  let distance ← (blocks.indents.drop (position + 1)).findIdx? (· ≤ depth)
  let last := position + 1 + distance
  if blocks.closes[last]? = some true then some last else none

/-! ## Layout -/

structure Layout where
  positions : List Nat := []
  labels : LabelIndex := {}
  blocks : Blocks := {}
deriving DecidableEq

namespace Layout

def len (l : Layout) : Nat := l.positions.length

def slotOf (l : Layout) (position : Nat) : Option Nat := l.positions[position]?

def indentOf (l : Layout) (position : Nat) : Option Nat := l.blocks.indents[position]?

end Layout

end Sequencer
