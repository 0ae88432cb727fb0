import Sequencer.Proofs.Sequence.Built
import Sequencer.Register

/-!
# Strict sequences

The operations on sequences once more, as they are done with words and with lists that are indexed. Such an operation
breaks off where a number has no room in a word or an index is behind the end of a list. The ordinary operations are
what is left of the strict ones if none of that happens, whatever positions, slots and targets they are given.
-/

namespace Sequencer

/-! ## Breaking off -/

/-- Why an operation breaks off. -/
inductive Breach where
  | index
  | overflow
  /-- A hook is to be called where there is no command. -/
  | nobody
deriving DecidableEq

abbrev Strict (α : Type) := Except Breach α

namespace Strict

variable {α β : Type} {items : List α} {a : α} {i n : Nat}

def item (items : List α) (i : Nat) : Strict α :=
  match items[i]? with
  | some a => .ok a
  | none => .error .index

def insertAt (items : List α) (i : Nat) (a : α) : Strict (List α) :=
  if i ≤ items.length then .ok (items.insertIdx i a) else .error .index

def next (n : Nat) : Strict Nat := if n < maxIndex then .ok (n + 1) else .error .overflow

def minus (n k : Nat) : Strict Nat := if k ≤ n then .ok (n - k) else .error .overflow

@[simp]
theorem bind_ok (a : α) (f : α → Strict β) : (Except.ok a : Strict α) >>= f = f a := rfl

theorem item_eq (h : items[i]? = some a) : item items i = .ok a := by rw [item, h]

theorem insertAt_eq (h : i ≤ items.length) (a : α) : insertAt items i a = .ok (items.insertIdx i a) := if_pos h

theorem next_eq (h : n < maxIndex) : next n = .ok (n + 1) := if_pos h

theorem minus_eq {k : Nat} (h : k ≤ n) : minus n k = .ok (n - k) := if_pos h

end Strict

variable {σ : Type}

/-! ## Blocks -/

namespace Blocks

/-- The first of `count` positions from `cursor` on that lies no deeper. -/
def strictScan (b : Blocks) (depth cursor : Nat) : (count : Nat) → Strict (Option Nat)
  | 0 => .ok none
  | count + 1 => do
    let indent ← Strict.item b.indents cursor
    if indent ≤ depth then .ok (some cursor) else b.strictScan depth (cursor + 1) count

def strictEnd (b : Blocks) (position : Nat) : Strict (Option Nat) :=
  match b.indents[position]? with
  | none => .ok none
  | some depth => do
    let first ← Strict.next position
    match ← b.strictScan depth first (b.indents.length - first) with
    | none => .ok none
    | some last => do
      let closes ← Strict.item b.closes last
      .ok (if closes then some last else none)

end Blocks

/-! ## Indentation -/

def Command.strictDepthAfter (c : Command σ) (depth : Nat) : Strict Nat :=
  if c.opens then Strict.next (c.indentIn depth) else .ok (c.indentIn depth)

/-- Writes its indent into each entry, and notes down the blocks. -/
def Slots.strictIndent (depth : Nat) : Slots σ → Strict (Slots σ × Blocks)
  | [] => .ok ([], {})
  | none :: rest => do
    let (slots, blocks) ← strictIndent depth rest
    .ok (none :: slots, blocks)
  | some entry :: rest => do
    let indent := entry.command.indentIn depth
    let depth ← entry.command.strictDepthAfter depth
    let (slots, blocks) ← strictIndent depth rest
    .ok (some { entry with indent } :: slots, ⟨indent :: blocks.indents, entry.command.closes :: blocks.closes⟩)

namespace Sequence

def strictRefreshIndentation (s : Sequence σ) : Strict (Sequence σ) := do
  let (slots, blocks) ← Slots.strictIndent 0 s.slots
  .ok { s with slots, layout := { s.layout with blocks }, indentationStale := false }

def strictRefresh (s : Sequence σ) : Strict (Sequence σ) := s.refreshIndices.strictRefreshIndentation

/-! ## Edits -/

def strictInsert (s : Sequence σ) (slot : Nat) (command : Command σ) : Strict (Sequence σ) := do
  let slots ← Strict.insertAt s.slots (min slot s.slotCount) (some (Entry.fresh command))
  .ok { s with slots }.markStale

def strictRemove (s : Sequence σ) (position : Nat) : Strict (Option (Command σ) × Sequence σ) :=
  match s.slotOf position with
  | none => .ok (none, s)
  | some slot => do
    let taken ← Strict.item s.slots slot
    .ok (taken.map (·.command), { s with slots := s.slots.set slot none }.markStale)

def strictPurgeHoles (s : Sequence σ) : Strict (Nat × Sequence σ) := do
  let kept := s.slots.filter (·.isSome)
  let purged ← Strict.minus s.slotCount kept.length
  .ok (purged, if purged = 0 then s else { s with slots := kept }.markStale)

end Sequence

def Edit.strictApply (s : Sequence σ) : Edit σ → Strict (EditReply σ × Sequence σ)
  | .insert slot command => do
    let s ← s.strictInsert slot command
    .ok (.done, s)
  | .remove position => do
    let (command, s) ← s.strictRemove position
    .ok (.removed command, s)
  | .move position slot => do
    match ← s.strictRemove position with
    | (none, s) => .ok (.moved none, s)
    | (some command, s) => do
      let s ← s.strictInsert slot command
      .ok (.moved (some command), s)
  | .purgeHoles => do
    let (holes, s) ← s.strictPurgeHoles
    .ok (.purged holes, s)
  | .refresh => do
    let s ← s.strictRefresh
    .ok (.done, s)
  | .refreshIndentation => do
    let s ← s.strictRefreshIndentation
    .ok (.done, s)
  | edit => .ok (edit.apply s)

namespace Sequence

/-! ## Looking up -/

def strictBlockEnd (s : Sequence σ) (position : Nat) : Strict (Option Nat) := s.layout.blocks.strictEnd position

/-- Passes over at most `count` positions from `cursor` on. -/
def strictSkip (s : Sequence σ) (cursor : Nat) : (count : Nat) → Strict (Option Nat)
  | 0 => .ok none
  | count + 1 =>
    if s.isSkipped cursor then do
      let cursor ← Strict.next cursor
      s.strictSkip cursor count
    else .ok (some cursor)

def strictNextRunnable (s : Sequence σ) (target : Nat) : Strict (Option Nat) := s.strictSkip target (s.len - target)

end Sequence

/-! ## What fits into words -/

/-- The lists of a sequence are no longer than a list can be. -/
structure Sequence.Fits (s : Sequence σ) : Prop where
  slots : s.slots.length ≤ maxIndex
  positions : s.layout.positions.length ≤ maxIndex
  indents : s.layout.blocks.indents.length ≤ maxIndex

/-- For each indent that is known it is known whether the entry closes a block. -/
def Blocks.Level (b : Blocks) : Prop := b.indents.length = b.closes.length

structure Sequence.Sturdy (s : Sequence σ) : Prop where
  fits : s.Fits
  level : s.layout.blocks.Level

namespace Slots

variable {slots : Slots σ} {slot depth : Nat} {change : Entry σ → Entry σ}

theorem length_entries_le (slots : Slots σ) : (entries slots).length ≤ slots.length := List.length_filterMap_le ..

theorem length_update (slot : Nat) (change : Entry σ → Entry σ) (slots : Slots σ) :
    (update slot change slots).length = slots.length := List.length_modify ..

theorem length_numberFrom (owner : Option EngineId) (start : Nat) :
    (numberFrom owner start slots).length = slots.length := by
  induction slots generalizing start with
  | nil => rfl
  | cons s rest ih => cases s <;> simp [numberFrom, ih]

theorem length_indentFrom (depth : Nat) : (indentFrom depth slots).length = slots.length := by
  induction slots generalizing depth with
  | nil => rfl
  | cons s rest ih => cases s <;> simp [indentFrom, ih]

theorem length_indentsFrom (depth : Nat) : (indentsFrom depth slots).length = (entries slots).length := by
  induction slots generalizing depth with
  | nil => rfl
  | cons s rest ih => cases s <;> simp [indentsFrom, ih]

theorem lt_length_of_slotOf {p : Nat} (h : slotOf slots p = some slot) : slot < slots.length := by
  induction slots generalizing p slot with
  | nil => cases h
  | cons s rest ih =>
    cases s with
    | none =>
      obtain ⟨k, hk, rfl⟩ := Option.map_eq_some_iff.mp h
      exact Nat.succ_lt_succ (ih hk)
    | some e =>
      cases p with
      | zero =>
        obtain rfl : 0 = slot := Option.some.inj h
        exact Nat.zero_lt_succ _
      | succ p =>
        obtain ⟨k, hk, rfl⟩ := Option.map_eq_some_iff.mp h
        exact Nat.succ_lt_succ (ih hk)

end Slots

namespace Command

variable {c : Command σ} {depth : Nat}

theorem indentIn_le (c : Command σ) (depth : Nat) : c.indentIn depth ≤ depth := by
  rw [indentIn]
  split <;> omega

theorem depthAfter_le (c : Command σ) (depth : Nat) : c.depthAfter depth ≤ depth + 1 := by
  have shallow := c.indentIn_le depth
  rw [depthAfter]
  split <;> omega

theorem strictDepthAfter_eq (small : depth < maxIndex) : c.strictDepthAfter depth = .ok (c.depthAfter depth) := by
  have shallow := c.indentIn_le depth
  rw [strictDepthAfter, depthAfter]
  split
  · exact Strict.next_eq (by omega)
  · rfl

end Command

theorem Slots.strictIndent_eq {slots : Slots σ} {depth : Nat} (small : depth + (entries slots).length ≤ maxIndex) :
    strictIndent depth slots = .ok (indentFrom depth slots, ⟨indentsFrom depth slots, closesOf slots⟩) := by
  induction slots generalizing depth with
  | nil => rfl
  | cons s rest ih =>
    cases s with
    | none =>
      rw [strictIndent, ih small]
      rfl
    | some e =>
      rw [entries_some, List.length_cons] at small
      have deeper := e.command.depthAfter_le depth
      rw [strictIndent]
      dsimp only
      rw [Command.strictDepthAfter_eq (by omega), Strict.bind_ok, ih (by omega)]
      rfl

namespace Blocks

variable {b : Blocks} {depth cursor count position last : Nat}

theorem strictScan_eq (inside : cursor + count = b.indents.length) : b.strictScan depth cursor count =
    .ok (((b.indents.drop cursor).findIdx? (· ≤ depth)).map (cursor + ·)) := by
  induction count generalizing cursor with
  | zero =>
    rw [List.drop_eq_nil_of_le (by omega)]
    rfl
  | succ count ih =>
    have here : cursor < b.indents.length := by omega
    rw [strictScan, Strict.item_eq (List.getElem?_eq_getElem here), Strict.bind_ok, ih (by omega),
      List.drop_eq_getElem_cons here, List.findIdx?_cons]
    by_cases found : b.indents[cursor] ≤ depth
    · simp [found]
    · simp [found, Option.map_map, Function.comp_def, Nat.add_comm, Nat.add_left_comm]

theorem lt_length_of_findIdx? {distance : Nat}
    (found : (b.indents.drop cursor).findIdx? (· ≤ depth) = some distance) : cursor + distance < b.indents.length := by
  obtain ⟨inside, -⟩ := List.findIdx?_eq_some_iff_getElem.mp found
  rw [List.length_drop] at inside
  omega

theorem lt_length_of_end? (h : b.end? position = some last) : last < b.indents.length := by
  obtain ⟨depth, -, h⟩ := Option.bind_eq_some_iff.mp h
  obtain ⟨distance, found, h⟩ := Option.bind_eq_some_iff.mp h
  have inside := lt_length_of_findIdx? found
  dsimp only at h
  split at h
  · exact Option.some.inj h ▸ inside
  · cases h

theorem strictEnd_eq (level : b.Level) (counted : b.indents.length ≤ maxIndex) (position : Nat) :
    b.strictEnd position = .ok (b.end? position) := by
  rw [strictEnd, end?]
  cases here : b.indents[position]? with
  | none => rfl
  | some depth =>
    have inside : position < b.indents.length := (List.getElem?_eq_some_iff.mp here).1
    dsimp only
    rw [Strict.next_eq (by omega), Strict.bind_ok, strictScan_eq (by omega), Strict.bind_ok, Option.bind_eq_bind,
      Option.bind_some]
    cases found : (b.indents.drop (position + 1)).findIdx? (· ≤ depth) with
    | none => rfl
    | some distance =>
      have ends : position + 1 + distance < b.closes.length := level ▸ lt_length_of_findIdx? found
      have closes := List.getElem?_eq_getElem ends
      dsimp only [Option.map_some]
      rw [Strict.item_eq closes, Strict.bind_ok, Option.bind_some, closes]
      simp

end Blocks

namespace Sequence

variable {s : Sequence σ} {change : Entry σ → Entry σ}

/-! ## What keeps a sequence sturdy -/

theorem Fits.len_le (h : s.Fits) : s.len ≤ maxIndex := by
  rw [len]
  split
  · exact Nat.le_trans (Slots.length_entries_le s.slots) h.slots
  · exact h.positions

theorem Sturdy.update (h : s.Sturdy) (p : Nat) (change : Entry σ → Entry σ) : (s.update p change).Sturdy := by
  have slots : (s.update p change).slots.length = s.slots.length := by
    rw [Sequence.update]
    split
    · rfl
    · exact Slots.length_update ..
  refine ⟨⟨slots ▸ h.fits.slots, ?_, ?_⟩, ?_⟩
  · rw [layout_update]
    exact h.fits.positions
  · rw [layout_update]
    exact h.fits.indents
  · rw [layout_update]
    exact h.level

theorem level_refreshIndentation (s : Sequence σ) : s.refreshIndentation.layout.blocks.Level := by
  show (Slots.indentsFrom 0 s.slots).length = (Slots.closesOf s.slots).length
  rw [Slots.length_indentsFrom, Slots.closesOf, List.length_map]

theorem Sturdy.refreshIndices (h : s.Sturdy) : s.refreshIndices.Sturdy := by
  have entries := Nat.le_trans (Slots.length_entries_le s.slots) h.fits.slots
  have slots : s.refreshIndices.slots.length = s.slots.length := Slots.length_numberFrom s.owner 0
  have positions : s.refreshIndices.layout.positions.length = (Slots.entries s.slots).length :=
    Slots.length_positionsFrom 0
  exact ⟨⟨slots ▸ h.fits.slots, positions ▸ entries, h.fits.indents⟩, h.level⟩

theorem Sturdy.refreshIndentation (h : s.Sturdy) : s.refreshIndentation.Sturdy := by
  have entries := Nat.le_trans (Slots.length_entries_le s.slots) h.fits.slots
  have slots : s.refreshIndentation.slots.length = s.slots.length := Slots.length_indentFrom 0
  have indents : s.refreshIndentation.layout.blocks.indents.length = (Slots.entries s.slots).length :=
    Slots.length_indentsFrom 0
  exact ⟨⟨slots ▸ h.fits.slots, h.fits.positions, indents ▸ entries⟩, s.level_refreshIndentation⟩

theorem Sturdy.refresh (h : s.Sturdy) : s.refresh.Sturdy := h.refreshIndices.refreshIndentation

/-! ## Levels through all edits -/

theorem layout_remove (p : Nat) : (s.remove p).2.layout = s.layout := by
  rw [remove]
  split <;> rfl

theorem level_edit (h : s.layout.blocks.Level) (edit : Edit σ) : (edit.apply s).2.layout.blocks.Level := by
  cases edit with
  | push | pushHole | insert | refreshIndices => exact h
  | refresh | refreshIndentation => exact level_refreshIndentation _
  | remove p => exact (layout_remove (s := s) p).symm ▸ h
  | setEnabled p enabled => exact (layout_update (s := s)).symm ▸ h
  | purgeHoles =>
    simp only [Edit.apply, purgeHoles]
    split <;> exact h
  | move p slot =>
    have removed := layout_remove (s := s) p
    simp only [Edit.apply]
    split <;> next heq =>
      rw [heq] at removed
      exact removed.symm ▸ h

theorem Built.level (h : s.Built) : s.layout.blocks.Level := by
  induction h with
  | empty => rfl
  | edit edit _ ih => exact level_edit ih edit
  | @release s p state _ ih =>
    have kept : (s.setState p state).layout = s.layout := layout_update
    exact kept.symm ▸ ih
  | adopt owner _ ih => exact ih

/-! ## Nothing breaks off -/

theorem Sturdy.strictBlockEnd_eq (h : s.Sturdy) (position : Nat) : s.strictBlockEnd position = .ok (s.blockEnd? position) :=
  Blocks.strictEnd_eq h.level h.fits.indents position

theorem Sturdy.strictRefreshIndentation_eq (h : s.Sturdy) :
    s.strictRefreshIndentation = .ok s.refreshIndentation := by
  have small : 0 + (Slots.entries s.slots).length ≤ maxIndex := by
    have entries := Slots.length_entries_le s.slots
    have slots := h.fits.slots
    omega
  rw [strictRefreshIndentation, Slots.strictIndent_eq small]
  rfl

theorem Sturdy.strictRefresh_eq (h : s.Sturdy) : s.strictRefresh = .ok s.refresh :=
  h.refreshIndices.strictRefreshIndentation_eq

theorem strictInsert_eq (s : Sequence σ) (slot : Nat) (command : Command σ) :
    s.strictInsert slot command = .ok (s.insert slot command) := by
  have inside : min slot s.slotCount ≤ s.slots.length := Nat.min_le_right ..
  rw [strictInsert, Strict.insertAt_eq inside]
  rfl

theorem Coherent.strictRemove_eq (h : s.Coherent) (position : Nat) :
    s.strictRemove position = .ok (s.remove position) := by
  rw [strictRemove, Sequence.remove]
  cases here : s.slotOf position with
  | none => rfl
  | some slot =>
    have inside : slot < s.slots.length := Slots.lt_length_of_slotOf ((h.slotOf_eq position).symm.trans here)
    have taken := List.getElem?_eq_getElem inside
    dsimp only
    rw [Strict.item_eq taken, taken]
    rfl

theorem strictPurgeHoles_eq (s : Sequence σ) : s.strictPurgeHoles = .ok s.purgeHoles := by
  have fewer : (s.slots.filter (·.isSome)).length ≤ s.slotCount := List.length_filter_le ..
  rw [strictPurgeHoles, Strict.minus_eq fewer]
  rfl

theorem Sturdy.strictApply_eq (h : s.Sturdy) (coherent : s.Coherent) (edit : Edit σ) :
    edit.strictApply s = .ok (edit.apply s) := by
  cases edit with
  | push | pushHole | refreshIndices | setEnabled => rfl
  | insert slot command =>
    rw [Edit.strictApply, strictInsert_eq]
    rfl
  | remove p =>
    rw [Edit.strictApply, coherent.strictRemove_eq]
    rfl
  | move p slot =>
    rw [Edit.strictApply, coherent.strictRemove_eq, Strict.bind_ok, Edit.apply]
    rcases s.remove p with ⟨_ | command, removed⟩
    · rfl
    · dsimp only
      rw [strictInsert_eq]
      rfl
  | purgeHoles =>
    rw [Edit.strictApply, strictPurgeHoles_eq]
    rfl
  | refresh =>
    rw [Edit.strictApply, h.strictRefresh_eq]
    rfl
  | refreshIndentation =>
    rw [Edit.strictApply, h.strictRefreshIndentation_eq]
    rfl

theorem strictSkip_eq {cursor count : Nat} (small : cursor + count ≤ maxIndex) :
    s.strictSkip cursor count = .ok (s.skipFrom cursor count) := by
  induction count generalizing cursor with
  | zero => rfl
  | succ count ih =>
    rw [strictSkip, skipFrom]
    split
    · rw [Strict.next_eq (by omega), Strict.bind_ok, ih (by omega)]
    · rfl

theorem Fits.strictNextRunnable_eq (h : s.Fits) (target : Nat) :
    s.strictNextRunnable target = .ok (s.nextRunnable target) := by
  rw [strictNextRunnable, nextRunnable]
  by_cases inside : target ≤ s.len
  · have small := h.len_le
    exact strictSkip_eq (by omega)
  · rw [Nat.sub_eq_zero_of_le (by omega)]
    rfl

end Sequence

end Sequencer
