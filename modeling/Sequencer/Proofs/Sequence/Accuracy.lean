import Sequencer.Proofs.Sequence.Built

/-!
# What the caches of a sequence say

The caches speak of the slots as they are, in terms that do not mention how they were made: which slots
are taken, which entries are labels, and how many blocks are open in front of an entry.
-/

namespace Sequencer

variable {σ : Type}

namespace Slots

/-- The slots that are not holes, in order. -/
def occupied (slots : Slots σ) : List Nat :=
  (List.range slots.length).filter fun slot => (slots[slot]?).join.isSome

end Slots

namespace Sequence

/-- The lowercased keys of the labels, each with its position, in order. -/
def labelled (s : Sequence σ) : List (String × Nat) :=
  s.entries.zipIdx.filterMap fun (e, p) =>
    e.command.kind.labelKey?.map fun key => (Text.lowercase key, p)

/-- How many blocks are open behind the entries, if `depth` are open in front of them. -/
def openBlocks (depth : Nat) (entries : List (Entry σ)) : Nat :=
  entries.foldl (fun depth e =>
    let inside := if e.command.closes then depth - 1 else depth
    if e.command.opens then inside + 1 else inside) depth

/-- How deep the entry at `position` lies: a close lies outside of the block it closes. -/
def depthAt (entries : List (Entry σ)) (position : Nat) (e : Entry σ) : Nat :=
  let depth := openBlocks 0 (entries.take position)
  if e.command.closes then depth - 1 else depth

structure IndicesRight (s : Sequence σ) : Prop where
  len : s.len = s.entries.length
  slots : ∀ p, s.layout.slotOf p = (Slots.occupied s.slots)[p]?
  beyond : ∀ p, s.len ≤ p → s.layout.slotOf p = none
  labels : s.layout.labels.entries = s.labelled
  placed : ∀ p (e : Entry σ), s.entries[p]? = some e → e.position = p ∧ e.owner = s.owner

structure IndentationRight (s : Sequence σ) : Prop where
  indents : ∀ p, s.layout.indentOf p = s.entries[p]?.map (depthAt s.entries p)
  entries : ∀ p e, s.entries[p]? = some e → e.indent = depthAt s.entries p e
  closes : s.layout.blocks.closes = s.entries.map (·.command.closes)

end Sequence

/-! ## Refreshed caches -/

namespace Slots

variable {slots : Slots σ}

theorem positionsFrom_eq (start : Nat) :
    positionsFrom start slots = (occupied slots).map (· + start) := by
  induction slots generalizing start with
  | nil => rfl
  | cons s rest ih =>
    have shifted : occupied (s :: rest) =
        (if s.isSome then [0] else []) ++ (occupied rest).map (· + 1) := by
      unfold occupied
      rw [List.length_cons, List.range_succ_eq_map, List.filter_cons, List.filter_map]
      cases s <;> simp [Function.comp_def]
    have behind : ((occupied rest).map (· + 1)).map (· + start) = (occupied rest).map (· + (start + 1)) := by
      rw [List.map_map]
      exact List.map_congr_left fun slot _ => by simp only [Function.comp_apply]; omega
    rw [shifted, List.map_append, behind]
    cases s with
    | none => exact ih (start + 1)
    | some e =>
      rw [positionsFrom, ih]
      simp

theorem labelsFrom_eq (start : Nat) :
    labelsFrom start slots = ((entries slots).zipIdx start).filterMap fun (e, p) =>
      e.command.kind.labelKey?.map fun key => (Text.lowercase key, p) := by
  induction slots generalizing start with
  | nil => rfl
  | cons s rest ih =>
    cases s with
    | none => exact ih start
    | some e =>
      rw [labelsFrom, entries_some, List.zipIdx_cons, List.filterMap_cons, ih]
      dsimp only
      cases e.command.kind.labelKey? <;> rfl

theorem length_occupied : (occupied slots).length = (entries slots).length := by
  have positions : (positionsFrom 0 slots).length = ((occupied slots).map (· + 0)).length :=
    congrArg List.length (positionsFrom_eq 0)
  rw [List.length_map, length_positionsFrom] at positions
  exact positions.symm

theorem getElem?_indentsFrom (depth p : Nat) :
    (indentsFrom depth slots)[p]? = (entries slots)[p]?.map fun e =>
      e.command.indentIn (Sequence.openBlocks depth ((entries slots).take p)) := by
  induction slots generalizing depth p with
  | nil => rfl
  | cons s rest ih =>
    cases s with
    | none => exact ih depth p
    | some e =>
      cases p with
      | zero => rfl
      | succ p =>
        rw [indentsFrom, entries_some, List.getElem?_cons_succ, List.getElem?_cons_succ, ih]
        rfl

theorem indent_of_indentFrom {depth p : Nat} {e : Entry σ}
    (he : (entries (indentFrom depth slots))[p]? = some e) :
    (indentsFrom depth slots)[p]? = some e.indent := by
  induction slots generalizing depth p with
  | nil => simp [indentFrom] at he
  | cons s rest ih =>
    cases s with
    | none => exact ih he
    | some first =>
      cases p with
      | zero =>
        rw [indentFrom, entries_some, List.getElem?_cons_zero] at he
        rw [← Option.some.inj he]
        rfl
      | succ p => exact ih he

end Slots

namespace Sequence

variable {s : Sequence σ}

theorem Coherent.indicesRight (h : s.Coherent) (fresh : s.indicesStale = false) : s.IndicesRight := by
  have positions : s.layout.positions = Slots.occupied s.slots := by
    have refreshed : Slots.positionsFrom 0 s.slots = s.layout.positions :=
      congrArg (·.layout.positions) (h.indices fresh)
    rw [← refreshed, Slots.positionsFrom_eq]
    exact List.map_id' _
  have labels : s.layout.labels.entries = Slots.labelsFrom 0 s.slots :=
    (congrArg (·.layout.labels.entries) (h.indices fresh)).symm
  refine ⟨h.len_eq, fun p => ?_, fun p hp => ?_, labels.trans (Slots.labelsFrom_eq 0),
    fun p e he => h.placed fresh he⟩
  · rw [Layout.slotOf, positions]
  · rw [Layout.slotOf, positions, List.getElem?_eq_none]
    rw [Slots.length_occupied]
    rwa [h.len_eq] at hp

theorem Coherent.indentationRight (h : s.Coherent) (fresh : s.indentationStale = false) :
    s.IndentationRight := by
  have refreshed := h.indentation fresh
  have blocks : s.layout.blocks = ⟨Slots.indentsFrom 0 s.slots, Slots.closesOf s.slots⟩ :=
    (congrArg (·.layout.blocks) refreshed).symm
  have slots : Slots.indentFrom 0 s.slots = s.slots := congrArg (·.slots) refreshed
  have indents : ∀ p, s.layout.indentOf p = s.entries[p]?.map (depthAt s.entries p) := by
    intro p
    rw [Layout.indentOf, blocks]
    exact Slots.getElem?_indentsFrom 0 p
  refine ⟨indents, fun p e he => ?_, congrArg Blocks.closes blocks⟩
  have cached : s.layout.indentOf p = some e.indent := by
    rw [Layout.indentOf, blocks]
    rw [entries, ← slots] at he
    exact Slots.indent_of_indentFrom he
  rw [indents p, he, Option.map_some] at cached
  exact (Option.some.inj cached).symm

/-! ## Whatever the edits -/

theorem Built.push {s : Sequence σ} (h : s.Built) (c : Command σ) : (s.push c).Built :=
  h.edit (.push c)

theorem Built.ofCommands (commands : List (Command σ)) : (Sequence.ofCommands commands).Built := by
  have pushed : ∀ s : Sequence σ, s.Built → (commands.foldl Sequence.push s).Built := by
    induction commands with
    | nil => exact fun s h => h
    | cons c rest ih => exact fun s h => ih (s.push c) (h.push c)
  exact (pushed {} .empty).edit .refresh

/-- However a sequence was built, what is not stale in it is right. -/
theorem caches_right (h : s.Built) :
    (s.indicesStale = false → s.IndicesRight) ∧
    (s.indentationStale = false → s.IndentationRight) ∧
    (s.needsRefresh = false → s.IndicesRight ∧ s.IndentationRight) := by
  have coherent := h.sound.coherent
  refine ⟨coherent.indicesRight, coherent.indentationRight, fun fresh => ?_⟩
  rw [needsRefresh, Bool.or_eq_false_iff] at fresh
  exact ⟨coherent.indicesRight fresh.1, coherent.indentationRight fresh.2⟩

/-- A block with a label in it, behind a hole. -/
def nested : Sequence Unit :=
  let commands : List (Command Unit) := [
    { name := "note", kind := .comment, state := () },
    { name := "open", opens := true, state := () },
    { name := "top", kind := .label "Top", state := () },
    { name := "close", closes := true, state := () }]
  ((Edit.remove 0).apply (ofCommands commands)).2.refresh

theorem caches_right_nested : nested.Built ∧ nested.needsRefresh = false ∧
    nested.layout.slotOf 1 = some 2 ∧ nested.layout.slotOf 3 = none ∧
    nested.layout.labels.entries = nested.labelled ∧ nested.layout.indentOf 1 = some 1 := by
  have built : nested.Built := ((Built.ofCommands _).edit (.remove 0)).edit .refresh
  obtain ⟨indices, indentation⟩ := (caches_right built).2.2 rfl
  exact ⟨built, rfl, indices.slots 1, indices.beyond 3 (by decide), indices.labels, indentation.indents 1⟩

end Sequence

end Sequencer
