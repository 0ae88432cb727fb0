import Sequencer.Sequence.Edit

/-!
# The entries as the view of a sequence

Positions count entries, slots count holes too. The scan of the slots, the cached positions and the list
of entries agree on where an entry is, and changing an entry in its slot changes it in the list.
-/

namespace Sequencer

variable {σ : Type}

namespace Slots

variable {slots : Slots σ} {p slot : Nat} {change : Entry σ → Entry σ}

@[simp]
theorem entries_nil : entries ([] : Slots σ) = [] := rfl
@[simp]
theorem entries_none (rest : Slots σ) : entries (none :: rest) = entries rest := rfl
@[simp]
theorem entries_some (e : Entry σ) (rest : Slots σ) :
    entries (some e :: rest) = e :: entries rest := rfl

@[simp]
theorem entries_append (a b : Slots σ) : entries (a ++ b) = entries a ++ entries b := by
  simp [entries]

/-! ## Scanning -/

theorem slotOf_eq_none : slotOf slots p = none ↔ (entries slots).length ≤ p := by
  induction slots generalizing p with
  | nil => simp [slotOf]
  | cons s rest ih =>
    cases s with
    | none => simp [slotOf, ih]
    | some e => cases p <;> simp [slotOf, ih]

theorem slotOf_bind : ((slotOf slots p).bind fun slot => (slots[slot]?).join) = (entries slots)[p]? := by
  induction slots generalizing p with
  | nil => simp [slotOf]
  | cons s rest ih =>
    cases s with
    | none => simpa [slotOf, Option.bind_map, Function.comp_def] using ih
    | some e =>
      cases p with
      | zero => simp [slotOf]
      | succ p => simpa [slotOf, Option.bind_map, Function.comp_def] using ih

theorem exists_of_slotOf (h : slotOf slots p = some slot) : ∃ front e back,
    slots = front ++ some e :: back ∧ front.length = slot ∧ (entries front).length = p := by
  induction slots generalizing p slot with
  | nil => simp [slotOf] at h
  | cons s rest ih =>
    cases s with
    | none =>
      obtain ⟨k, hk, rfl⟩ := Option.map_eq_some_iff.mp h
      obtain ⟨front, e, back, rfl, rfl, rfl⟩ := ih hk
      exact ⟨none :: front, e, back, rfl, rfl, rfl⟩
    | some first =>
      cases p with
      | zero => exact ⟨[], first, rest, rfl, Option.some.inj h, rfl⟩
      | succ p =>
        obtain ⟨k, hk, rfl⟩ := Option.map_eq_some_iff.mp h
        obtain ⟨front, e, back, rfl, rfl, rfl⟩ := ih hk
        exact ⟨some first :: front, e, back, rfl, rfl, rfl⟩

theorem getElem?_positionsFrom (start : Nat) :
    (positionsFrom start slots)[p]? = (slotOf slots p).map (· + start) := by
  induction slots generalizing p start with
  | nil => simp [positionsFrom, slotOf]
  | cons s rest ih =>
    have shift : ∀ o : Option Nat, o.map (· + (start + 1)) = (o.map (· + 1)).map (· + start) := by
      intro o; cases o <;> simp [Nat.add_comm, Nat.add_left_comm]
    cases s with
    | none => rw [positionsFrom, slotOf, ih, shift]
    | some e =>
      cases p with
      | zero => simp [positionsFrom, slotOf]
      | succ p => rw [positionsFrom, slotOf, List.getElem?_cons_succ, ih, shift]

theorem length_positionsFrom (start : Nat) :
    (positionsFrom start slots).length = (entries slots).length := by
  induction slots generalizing start with
  | nil => rfl
  | cons s rest ih => cases s <;> simp [positionsFrom, ih]

/-! ## Changing an entry -/

@[simp]
theorem update_none (rest : Slots σ) :
    update 0 change (none :: rest) = none :: rest := rfl

@[simp]
theorem update_some (e : Entry σ) (rest : Slots σ) :
    update 0 change (some e :: rest) = some (change e) :: rest := rfl

@[simp]
theorem update_succ (s : Option (Entry σ)) (rest : Slots σ) :
    update (slot + 1) change (s :: rest) = s :: update slot change rest := rfl

theorem entries_update (h : slotOf slots p = some slot) :
    entries (update slot change slots) = (entries slots).modify p change := by
  obtain ⟨front, e, back, rfl, rfl, rfl⟩ := exists_of_slotOf h
  simp [update, List.modify_eq_take_drop]

end Slots

end Sequencer
