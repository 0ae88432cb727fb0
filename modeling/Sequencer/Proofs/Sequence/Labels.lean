import Mathlib.Order.Bounds.Basic
import Sequencer.Proofs.Sequence.Caches

/-!
# What a label means

A key means the first label that has it, whatever the case of its letters, and whether or not the label is
enabled. The scan of the slots and the cached index agree on it.
-/

namespace Sequencer

variable {σ : Type}

namespace Slots

theorem find?_labelsFrom (slots : Slots σ) (key : String) (start : Nat) :
    ((labelsFrom start slots).find? fun entry => entry.1 = Text.lowercase key).map Prod.snd =
      (findLabel? key slots).map (· + start) := by
  induction slots generalizing start with
  | nil => rfl
  | cons slot rest ih =>
    cases slot with
    | none => exact ih start
    | some entry =>
      -- Behind this entry all positions are one further on.
      have later : ((labelsFrom (start + 1) rest).find? fun entry => entry.1 = Text.lowercase key).map Prod.snd =
          ((findLabel? key rest).map (· + 1)).map (· + start) := by
        rw [ih, Option.map_map]
        exact congrArg (Option.map · _) (funext fun p => by simp only [Function.comp_apply]; omega)
      rw [findLabel?] at later ⊢
      rw [labelsFrom, entries_some, List.findIdx?_cons]
      cases entry.command.kind.labelKey? with
      | none => simpa using later
      | some candidate =>
        rw [List.find?_cons]
        by_cases same : Text.lowercase candidate = Text.lowercase key
        · simp [same]
        · simpa [same] using later

end Slots

namespace Sequence

variable {s s' : Sequence σ} {key : String} {p p' : Option Nat}

/-- The positions of the labels that have the key. -/
def labelsWith (s : Sequence σ) (key : String) : Set Nat :=
  {p | ∃ entry k, s.entries[p]? = some entry ∧ entry.command.kind = .label k ∧
    Text.lowercase k = Text.lowercase key}

/-- A key means the first label that has it, and nothing if there is none. -/
def Means (s : Sequence σ) (key : String) : Option Nat → Prop
  | some p => IsLeast (s.labelsWith key) p
  | none => s.labelsWith key = ∅

theorem Means.unique (h : s.Means key p) (h' : s.Means key p') : p = p' := by
  cases p with
  | none =>
    cases p' with
    | none => rfl
    | some q => exact absurd h'.1 (h ▸ Set.notMem_empty q)
  | some q =>
    cases p' with
    | none => exact absurd h.1 (h' ▸ Set.notMem_empty q)
    | some q' => exact congrArg some (IsLeast.unique h h')

theorem Means.lt_length {position : Nat} (h : s.Means key (some position)) : position < s.entries.length := by
  obtain ⟨⟨entry, k, found, -⟩, -⟩ := h
  exact (List.getElem?_eq_some_iff.mp found).1

theorem mem_labelsWith {position : Nat} : position ∈ s.labelsWith key ↔ ∃ entry, s.entries[position]? = some entry ∧
    (match entry.command.kind.labelKey? with
      | some candidate => decide (Text.lowercase candidate = Text.lowercase key)
      | none => false) = true := by
  refine exists_congr fun entry => ?_
  cases hk : entry.command.kind <;> simp [Kind.labelKey?]

theorem means_scan (s : Sequence σ) (key : String) : s.Means key (Slots.findLabel? key s.slots) := by
  cases found : Slots.findLabel? key s.slots with
  | none =>
    rw [Slots.findLabel?, List.findIdx?_eq_none_iff] at found
    refine Set.eq_empty_of_forall_notMem fun p hp => ?_
    obtain ⟨entry, here, matching⟩ := mem_labelsWith.mp hp
    exact Bool.noConfusion (matching.symm.trans (found entry (List.mem_of_getElem? here)))
  | some p =>
    rw [Slots.findLabel?, List.findIdx?_eq_some_iff_getElem] at found
    obtain ⟨bound, matching, before⟩ := found
    refine ⟨mem_labelsWith.mpr ⟨_, List.getElem?_eq_getElem bound, matching⟩, fun q hq => ?_⟩
    obtain ⟨entry, here, earlier⟩ := mem_labelsWith.mp hq
    by_contra lt
    obtain ⟨inside, rfl⟩ := List.getElem?_eq_some_iff.mp here
    exact before q (Nat.lt_of_not_le lt) earlier

theorem Coherent.findLabel?_eq (h : s.Coherent) (key : String) :
    s.findLabel? key = Slots.findLabel? key s.slots := by
  rw [findLabel?]
  split
  · rfl
  · next fresh =>
    have labels : s.layout.labels = ⟨Slots.labelsFrom 0 s.slots⟩ :=
      (congrArg (·.layout.labels) (h.indices (by simpa using fresh))).symm
    have scanned := Slots.find?_labelsFrom s.slots key 0
    rw [labels, LabelIndex.find?]
    exact scanned.trans Option.map_id'

theorem Coherent.means (h : s.Coherent) (key : String) : s.Means key (s.findLabel? key) := by
  rw [h.findLabel?_eq]
  exact s.means_scan key

theorem Means.of_forms (h : s.Means key p) (same : s'.forms = s.forms) : s'.Means key p := by
  have labels : s'.labelsWith key = s.labelsWith key := by
    have kinds : ∀ s : Sequence σ, s.labelsWith key = {p | ∃ form k, s.forms[p]? = some form ∧
        form.kind = .label k ∧ Text.lowercase k = Text.lowercase key} := by
      intro s
      ext p
      simp [labelsWith, forms, Command.form]
    rw [kinds, kinds, same]
  cases p with
  | none => exact labels.trans h
  | some p =>
    show IsLeast (s'.labelsWith key) p
    rw [labels]
    exact h

end Sequence

end Sequencer
