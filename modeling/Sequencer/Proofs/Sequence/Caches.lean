import Sequencer.Proofs.Sequence.Entries

/-!
# Caches that say what the slots say

A cache is right if refreshing it changes nothing. Every operation on a sequence keeps its caches right
or marks them stale, so that a look-up finds an entry where the list of entries has it.
-/

namespace Sequencer

variable {σ : Type}

/-- What is fixed about a command: all but its inner state. -/
def Command.form (c : Command σ) : Command Unit := { c with state := () }

/-- A change of an entry that leaves its place, its owner and the form of its command alone. -/
structure Mild (change : Entry σ → Entry σ) : Prop where
  number : ∀ e position owner, change { e with position, owner } = { change e with position, owner }
  indent : ∀ e indent, change { e with indent } = { change e with indent }
  form : ∀ e, (change e).command.form = e.command.form

namespace Sequence

/-- A cache that is not stale is as a refresh would leave it. -/
structure Coherent (s : Sequence σ) : Prop where
  indices : s.indicesStale = false → s.refreshIndices = s
  indentation : s.indentationStale = false → s.refreshIndentation = s

/-- The forms of the commands in order. -/
def forms (s : Sequence σ) : List (Command Unit) := s.entries.map (·.command.form)

/-- Entry for entry: it is executing if and only if it is the one at `active`. -/
def Marked (s : Sequence σ) (active : Option Nat) : Prop :=
  ∀ p e, s.entries[p]? = some e → (e.executing = true ↔ active = some p)

end Sequence

/-! ## What refreshing does to the slots -/

namespace Mild

variable {change : Entry σ → Entry σ}

theorem kind (h : Mild change) (e : Entry σ) : (change e).command.kind = e.command.kind := by
  have := congrArg Command.kind (h.form e)
  exact this

theorem closes (h : Mild change) (e : Entry σ) : (change e).command.closes = e.command.closes := by
  have := congrArg Command.closes (h.form e)
  exact this

theorem opens (h : Mild change) (e : Entry σ) : (change e).command.opens = e.command.opens := by
  have := congrArg Command.opens (h.form e)
  exact this

theorem indentIn (h : Mild change) (e : Entry σ) (depth : Nat) :
    (change e).command.indentIn depth = e.command.indentIn depth := by
  rw [Command.indentIn, Command.indentIn, h.closes]

theorem depthAfter (h : Mild change) (e : Entry σ) (depth : Nat) :
    (change e).command.depthAfter depth = e.command.depthAfter depth := by
  rw [Command.depthAfter, Command.depthAfter, h.indentIn, h.opens]

end Mild

namespace Slots

variable {slots : Slots σ} {slot : Nat} {change : Entry σ → Entry σ}

theorem positionsFrom_update (start : Nat) :
    positionsFrom start (update slot change slots) = positionsFrom start slots := by
  induction slots generalizing start slot with
  | nil => cases slot <;> rfl
  | cons s rest ih => cases s <;> cases slot <;> simp [positionsFrom, ih]

theorem labelsFrom_update (h : Mild change) (start : Nat) :
    labelsFrom start (update slot change slots) = labelsFrom start slots := by
  induction slots generalizing start slot with
  | nil => cases slot <;> rfl
  | cons s rest ih => cases s <;> cases slot <;> simp [labelsFrom, ih, h.kind]

theorem numberFrom_update (h : Mild change) (owner : Option EngineId) (start : Nat) :
    numberFrom owner start (update slot change slots) =
      update slot change (numberFrom owner start slots) := by
  induction slots generalizing start slot with
  | nil => cases slot <;> rfl
  | cons s rest ih =>
    cases s with
    | none => cases slot <;> simp [numberFrom, ih]
    | some e =>
      cases slot with
      | zero => rw [update_some, numberFrom, numberFrom, update_some, h.number e start owner]
      | succ slot => simp [numberFrom, ih]

theorem indentsFrom_update (h : Mild change) (depth : Nat) :
    indentsFrom depth (update slot change slots) = indentsFrom depth slots := by
  induction slots generalizing depth slot with
  | nil => cases slot <;> rfl
  | cons s rest ih =>
    cases s <;> cases slot <;> simp [indentsFrom, ih, h.indentIn, h.depthAfter]

theorem indentFrom_update (h : Mild change) (depth : Nat) :
    indentFrom depth (update slot change slots) = update slot change (indentFrom depth slots) := by
  induction slots generalizing depth slot with
  | nil => cases slot <;> rfl
  | cons s rest ih =>
    cases s with
    | none => cases slot <;> simp [indentFrom, ih]
    | some e =>
      cases slot with
      | zero =>
        rw [update_some, indentFrom, indentFrom, update_some, h.indentIn, h.depthAfter,
          h.indent e (e.command.indentIn depth)]
      | succ slot => simp [indentFrom, ih]

theorem closesOf_update (h : Mild change) : closesOf (update slot change slots) = closesOf slots := by
  induction slots generalizing slot with
  | nil => cases slot <;> rfl
  | cons s rest ih => cases s <;> cases slot <;> simp_all [closesOf, h.closes]

/-! ## Refreshing twice -/

theorem positionsFrom_numberFrom (owner : Option EngineId) (start k : Nat) :
    positionsFrom k (numberFrom owner start slots) = positionsFrom k slots := by
  induction slots generalizing start k with
  | nil => rfl
  | cons s rest ih => cases s <;> simp [numberFrom, positionsFrom, ih]

theorem labelsFrom_numberFrom (owner : Option EngineId) (start k : Nat) :
    labelsFrom k (numberFrom owner start slots) = labelsFrom k slots := by
  induction slots generalizing start k with
  | nil => rfl
  | cons s rest ih => cases s <;> simp [numberFrom, labelsFrom, ih]

theorem numberFrom_numberFrom (owner : Option EngineId) (start : Nat) :
    numberFrom owner start (numberFrom owner start slots) = numberFrom owner start slots := by
  induction slots generalizing start with
  | nil => rfl
  | cons s rest ih => cases s <;> simp [numberFrom, ih]

theorem positionsFrom_indentFrom (depth k : Nat) :
    positionsFrom k (indentFrom depth slots) = positionsFrom k slots := by
  induction slots generalizing depth k with
  | nil => rfl
  | cons s rest ih => cases s <;> simp [indentFrom, positionsFrom, ih]

theorem labelsFrom_indentFrom (depth k : Nat) :
    labelsFrom k (indentFrom depth slots) = labelsFrom k slots := by
  induction slots generalizing depth k with
  | nil => rfl
  | cons s rest ih => cases s <;> simp [indentFrom, labelsFrom, ih]

theorem numberFrom_indentFrom (owner : Option EngineId) (start depth : Nat) :
    numberFrom owner start (indentFrom depth slots) = indentFrom depth (numberFrom owner start slots) := by
  induction slots generalizing start depth with
  | nil => rfl
  | cons s rest ih => cases s <;> simp [indentFrom, numberFrom, ih]

theorem indentsFrom_numberFrom (owner : Option EngineId) (start depth : Nat) :
    indentsFrom depth (numberFrom owner start slots) = indentsFrom depth slots := by
  induction slots generalizing start depth with
  | nil => rfl
  | cons s rest ih => cases s <;> simp [numberFrom, indentsFrom, ih]

theorem closesOf_numberFrom (owner : Option EngineId) (start : Nat) :
    closesOf (numberFrom owner start slots) = closesOf slots := by
  induction slots generalizing start with
  | nil => rfl
  | cons s rest ih => cases s <;> simp_all [numberFrom, closesOf]

theorem indentsFrom_indentFrom (k depth : Nat) :
    indentsFrom depth (indentFrom k slots) = indentsFrom depth slots := by
  induction slots generalizing k depth with
  | nil => rfl
  | cons s rest ih => cases s <;> simp [indentFrom, indentsFrom, ih]

theorem closesOf_indentFrom (depth : Nat) : closesOf (indentFrom depth slots) = closesOf slots := by
  induction slots generalizing depth with
  | nil => rfl
  | cons s rest ih => cases s <;> simp_all [indentFrom, closesOf]

theorem indentFrom_indentFrom (depth : Nat) :
    indentFrom depth (indentFrom depth slots) = indentFrom depth slots := by
  induction slots generalizing depth with
  | nil => rfl
  | cons s rest ih => cases s <;> simp [indentFrom, ih]

end Slots

/-! ## Looking up through right caches -/

namespace Sequence

variable {s : Sequence σ} {p : Nat} {change : Entry σ → Entry σ}

namespace Coherent

theorem slotOf_eq (h : s.Coherent) (p : Nat) : s.slotOf p = Slots.slotOf s.slots p := by
  rw [Sequence.slotOf]
  split
  · rfl
  · next fresh =>
    have hp := congrArg (·.layout.positions) (h.indices (by simpa using fresh))
    rw [Layout.slotOf, ← hp]
    simp [refreshIndices, Slots.getElem?_positionsFrom]

theorem len_eq (h : s.Coherent) : s.len = s.entries.length := by
  rw [len]
  split
  · rfl
  · next fresh =>
    have hp := congrArg (·.layout.positions) (h.indices (by simpa using fresh))
    rw [Layout.len, ← hp]
    exact Slots.length_positionsFrom 0

theorem entry?_eq (h : s.Coherent) (p : Nat) : s.entry? p = s.entries[p]? := by
  rw [entries, ← Slots.slotOf_bind, ← h.slotOf_eq]
  rfl

theorem get?_eq (h : s.Coherent) (p : Nat) : s.get? p = s.entries[p]?.map (·.command) := by
  rw [get?, h.entry?_eq]

/-! ## What keeps caches right -/

theorem of_stale (indices : s.indicesStale = true) (indentation : s.indentationStale = true) :
    s.Coherent := ⟨by simp [indices], by simp [indentation]⟩

theorem entries_update (h : s.Coherent) : (s.update p change).entries = s.entries.modify p change := by
  rw [update, h.slotOf_eq]
  split
  · next hs => exact (List.modify_eq_self (Slots.slotOf_eq_none.mp hs)).symm
  · next slot hs => exact Slots.entries_update hs

theorem update (h : s.Coherent) (mild : Mild change) (p : Nat) : (s.update p change).Coherent := by
  rw [Sequence.update]
  split
  · exact h
  · next slot _ =>
    constructor
    · intro fresh
      have hi := h.indices fresh
      simp only [refreshIndices, Sequence.mk.injEq, Slots.positionsFrom_update,
        Slots.labelsFrom_update mild, Slots.numberFrom_update mild] at hi ⊢
      grind
    · intro fresh
      have hi := h.indentation fresh
      simp only [refreshIndentation, Sequence.mk.injEq, Slots.indentsFrom_update mild,
        Slots.closesOf_update mild, Slots.indentFrom_update mild] at hi ⊢
      grind

theorem refreshIndices (h : s.Coherent) : s.refreshIndices.Coherent := by
  constructor
  · intro _
    simp [Sequence.refreshIndices, Slots.positionsFrom_numberFrom, Slots.labelsFrom_numberFrom,
      Slots.numberFrom_numberFrom]
  · intro fresh
    have hi := h.indentation fresh
    simp only [Sequence.refreshIndices, refreshIndentation, Sequence.mk.injEq,
      Slots.indentsFrom_numberFrom, Slots.closesOf_numberFrom, ← Slots.numberFrom_indentFrom] at hi ⊢
    grind

theorem refreshIndentation (h : s.Coherent) : s.refreshIndentation.Coherent := by
  constructor
  · intro fresh
    have hi := h.indices fresh
    simp only [Sequence.refreshIndices, Sequence.refreshIndentation, Sequence.mk.injEq,
      Slots.positionsFrom_indentFrom, Slots.labelsFrom_indentFrom, Slots.numberFrom_indentFrom] at hi ⊢
    grind
  · intro _
    simp [Sequence.refreshIndentation, Slots.indentsFrom_indentFrom, Slots.closesOf_indentFrom,
      Slots.indentFrom_indentFrom]

theorem refresh (h : s.Coherent) : s.refresh.Coherent := h.refreshIndices.refreshIndentation

theorem adopt (h : s.Coherent) (owner : EngineId) : (s.adopt owner).Coherent :=
  ⟨by simp [Sequence.adopt], fun fresh => by
    have hi := h.indentation fresh
    simp only [Sequence.refreshIndentation, Sequence.mk.injEq, Sequence.adopt] at hi ⊢
    grind⟩

end Coherent

end Sequence

end Sequencer
